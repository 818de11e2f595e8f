import Mathlib.Logic.Function.Basic
import ComuFrame.Yaml

/-!
# ComuFrame — the packet database (`DataBase.cpp`)

`DataBase` records which packet offers which data and answers a request with the packets
to subscribe to. `avaiablePacks` holds one flag per packet, `index` lists for every data
name the packets that offer it, each with a raw pointer to its flag. A query sets flags,
reads its answer back from them and resets them.

The search (`tuneFunctions`) is called with the clauses of the data that have several
packets, and communicates only through the flags.
-/

namespace ComuFrame

open Cpp

/-- `left + "_" + right`: how packet names and data names are put together. -/
def joined (left right : String) : String := left ++ "_" ++ right

/-- A `bool *` into `avaiablePacks`: the node whose value it points to. -/
structure BoolPtr where
  node : Nat
  deriving DecidableEq, Repr

/-- The pointer used as a condition, `if (clause)`. Pointers are only ever taken to a
value in the map, so none is null. -/
def BoolPtr.toBool (_ : BoolPtr) : Bool := true

/-- The flags as the search sees them, through pointers. -/
abbrev Flags := BoolPtr → Bool

structure DataBase where
  index : UnorderedMap String (List (String × BoolPtr))
  avaiablePacks : UnorderedMap String Bool

/-! ## The search -/

/-- Tests the pointers of the clause, not the flags behind them. -/
def evaluateOR : List BoolPtr → Bool
  | [] => false
  | clause :: OR => if clause.toBool then true else evaluateOR OR

def evaluateAND : List (List BoolPtr) → Bool
  | [] => true
  | clause :: AND => if !evaluateOR clause then false else evaluateAND AND

/-- The `(row, column)` pairs of the two nested loops, in the order they are visited. -/
def loopCells (maxSize callNumber columns : Nat) : List (Nat × Nat) :=
  (List.range maxSize).flatMap fun row =>
    (List.range' callNumber (columns - callNumber)).map fun column => (row, column)

/-- The loop body over the remaining cells. `attempt` is what the body does once it has set
a flag: evaluate the formula, or recurse. The result is `some true` when the body returns,
and `none` when the loops end and with them the function, which has no `return` there. -/
def tuneCells (attempt : Flags → Option Bool × Flags) (formula : List (List BoolPtr)) :
    List (Nat × Nat) → Flags → Option Bool × Flags
  | [], flags => (none, flags)
  | (row, column) :: cells, flags =>
    match formula[column]?.bind (fun clause => clause[row]?) with
    | none => tuneCells attempt formula cells flags
    | some ptr =>
      match attempt (Function.update flags ptr true) with
      | (some true, flags') => (some true, flags')
      | (_, flags') => tuneCells attempt formula cells (Function.update flags' ptr false)

/-- `tuneFunctions` with the number of columns at and after `callNumber` as its measure:
each recursive call leaves one column out, and without columns the loops are empty. -/
def tuneColumns (formula : List (List BoolPtr)) (maxSize recCallNum : Nat) :
    Nat → Nat → Flags → Option Bool × Flags
  | 0, _, flags => (none, flags)
  | columns + 1, callNumber, flags =>
    tuneCells (fun flags =>
        if recCallNum = callNumber then (some (evaluateAND formula), flags)
        else tuneColumns formula maxSize recCallNum columns (callNumber + 1) flags)
      formula (loopCells maxSize callNumber formula.length) flags

/-- The result is `none` when the call runs off the end of the function. A caller that
needs a value reads that as `false`. -/
def tuneFunctions (formula : List (List BoolPtr)) (maxSize recCallNum callNumber : Nat)
    (flags : Flags) : Option Bool × Flags :=
  tuneColumns formula maxSize recCallNum (formula.length - callNumber) callNumber flags

namespace DataBase

def empty : DataBase := ⟨UnorderedMap.empty, UnorderedMap.empty⟩

/-! ## Flags behind pointers -/

/-- `*ptr`. -/
def flags (db : DataBase) : Flags :=
  fun ptr => (db.avaiablePacks.nodes[ptr.node]?.map Prod.snd).getD false

def withFlags (db : DataBase) (flags : Flags) : DataBase :=
  { db with avaiablePacks := db.avaiablePacks.mapSlots fun node _ => flags ⟨node⟩ }

/-- All the packets to "not taken". -/
def resetPackets (db : DataBase) : DataBase :=
  { db with avaiablePacks := db.avaiablePacks.mapSlots fun _ _ => false }

/-! ## Adding a packet -/

/-- One round of the loop of `addPacket`, for the field `field.1 : field.2`. -/
def addField (packName : String) (db : DataBase) (field : String × String) : DataBase :=
  let dataName := joined field.1 field.2
  let avaiablePacks := db.avaiablePacks.insert packName false
  let pairToAdd := (packName, BoolPtr.mk (avaiablePacks.slot packName))
  match db.index.find? dataName with
  | some dataToUpdate =>
    { index := db.index.assign dataName (dataToUpdate ++ [pairToAdd]), avaiablePacks }
  | none => { index := db.index.assign dataName [pairToAdd], avaiablePacks }

/-- `addPacket` after the conversion of its first argument. -/
def addFields (order : HashOrder String) (db : DataBase)
    (packToAdd : UnorderedMap String String) (sender name : String) : DataBase :=
  let packName := joined name sender
  (packToAdd.iterate order).foldl (addField packName)
    { db with avaiablePacks := db.avaiablePacks.insert packName false }

/-- `none` when the conversion of the packet throws, before anything is changed. -/
def addPacket (order : HashOrder String) (yaml : YamlCpp) (db : DataBase) (YPack : Yaml)
    (sender name : String) : Option DataBase := do
  let packToAdd ← yaml.asStringMap YPack
  some (db.addFields order packToAdd sender name)

/-! ## Answering a request -/

/-- The variables of `providePackets` during its first loop. -/
structure Clauses where
  db : DataBase
  andClause : List (List BoolPtr)
  maxSize : Nat

/-- The lookup `index[data]`, which inserts a missing name with no packets. -/
def subscriptIndex (db : DataBase) (data : String) : DataBase :=
  { db with index := db.index.insert data [] }

/-- One round of the first loop: a data name with one packet selects it at once, any
other becomes a clause of the formula. -/
def collectClause (st : Clauses) (data : String) : Clauses :=
  let db := st.db.subscriptIndex data
  let packetsWitData := (db.index.find? data).getD []
  match packetsWitData.map Prod.snd with
  | [only] => { st with db := db.withFlags (Function.update db.flags only true) }
  | orClause =>
    { db, andClause := st.andClause ++ [orClause],
      maxSize := if orClause.length > st.maxSize then orClause.length else st.maxSize }

/-- The loop over `i`: `false` when it took the branch that reports the error. A call that runs
off its end gives the condition no value in the source; here it is read as false. -/
def deepen (andClause : List (List BoolPtr)) (maxSize : Nat) :
    List Nat → Flags → Bool × Flags
  | [], flags => (true, flags)
  | i :: rest, flags =>
    match tuneFunctions andClause maxSize i 0 flags with
    | (some true, flags') => (true, flags')
    | (_, flags') =>
      if i = andClause.length - 1 then (false, flags') else deepen andClause maxSize rest flags'

def notFound : String := "can't find your data in the DB"

/-- The answer and the database after it. The error is returned before the flags are reset. -/
def providePackets (order : HashOrder String) (db : DataBase) (requestedData : List String) :
    List String × DataBase :=
  let st := requestedData.foldl collectClause ⟨db, [], 0⟩
  let (found, flags) :=
    deepen st.andClause st.maxSize (List.range st.andClause.length) st.db.flags
  let db := st.db.withFlags flags
  if found then
    (((db.avaiablePacks.iterate order).filter Prod.snd).map Prod.fst, db.resetPackets)
  else ([notFound], db)

/-- The databases a sequence of `addPacket` and `providePackets` calls can lead to. -/
inductive Reachable (order : HashOrder String) (yaml : YamlCpp) : DataBase → Prop where
  | empty : Reachable order yaml DataBase.empty
  | addPacket {db db' : DataBase} {YPack : Yaml} {sender name : String}
      (hdb : Reachable order yaml db)
      (hadd : db.addPacket order yaml YPack sender name = some db') :
      Reachable order yaml db'
  | providePackets {db : DataBase} (hdb : Reachable order yaml db)
      (requestedData : List String) :
      Reachable order yaml (db.providePackets order requestedData).2

end DataBase

end ComuFrame
