import ComuFrame.DataBase.Isolation
import ComuFrame.Lib.Listing

/-!
# ComuFrame — the index as a record of what was declared

A call of `addPacket` declares pairs, a packet and one of its data (`Call.declarations`). After
any sequence of calls the index lists under a data name what the sequence declared for it, once
for each time it was declared (`providers_after`). Three things follow: the entries are right
(`index_represents`), they are without duplicates exactly when nothing was declared twice
(`listsOnce_iff`), and a query changes the lists only by the names it inserts
(`getIndex_unchanged_iff`).
-/

namespace ComuFrame

open Cpp Listing

namespace DataBase

/-- The getter returns a copy of the map. -/
def getIndex (db : DataBase) : UnorderedMap String (List (String × BoolPtr)) := db.index

/-! ## Sequences of calls -/

/-- One call of a public function of the database. -/
inductive Call where
  | addPacket (YPack : Yaml) (sender name : String)
  | providePackets (requestedData : List String)

/-- The database after a call. A packet that does not convert throws before anything is
changed. -/
def perform (order : HashOrder String) (yaml : YamlCpp) (db : DataBase) : Call → DataBase
  | .addPacket YPack sender name => (db.addPacket order yaml YPack sender name).getD db
  | .providePackets requestedData => (db.providePackets order requestedData).2

def after (order : HashOrder String) (yaml : YamlCpp) (calls : List Call) : DataBase :=
  calls.foldl (perform order yaml) DataBase.empty

/-- The call adds the packet `packName`, with a field and a type that join to `dataName`. -/
def Call.Declares (yaml : YamlCpp) (call : Call) (packName dataName : String) : Prop :=
  ∃ YPack sender name packToAdd, call = .addPacket YPack sender name ∧
    yaml.asStringMap YPack = some packToAdd ∧ packName = joined name sender ∧
      ∃ field ∈ packToAdd.nodes, joined field.1 field.2 = dataName

/-- The call adds the packet `packName`. -/
def Call.Adds (yaml : YamlCpp) (call : Call) (packName : String) : Prop :=
  ∃ YPack sender name packToAdd, call = .addPacket YPack sender name ∧
    yaml.asStringMap YPack = some packToAdd ∧ packName = joined name sender

/-- What a call declares, each pair as often as it has a field for it. -/
def Call.declarations (yaml : YamlCpp) : Call → List (String × String)
  | .addPacket YPack sender name =>
    match yaml.asStringMap YPack with
    | some packToAdd =>
      packToAdd.nodes.map fun field => (joined name sender, joined field.1 field.2)
    | none => []
  | .providePackets _ => []

def declarations (yaml : YamlCpp) (calls : List Call) : List (String × String) :=
  calls.flatMap (Call.declarations yaml)

theorem Call.mem_declarations {yaml : YamlCpp} {call : Call} {packName dataName : String} :
    (packName, dataName) ∈ call.declarations yaml ↔ call.Declares yaml packName dataName := by
  cases call with
  | addPacket YPack sender name =>
    cases hconvert : yaml.asStringMap YPack with
    | none => simp [declarations, Declares, hconvert]
    | some packToAdd =>
      simp only [declarations, Declares, hconvert, List.mem_map, Prod.mk.injEq]
      constructor
      · intro ⟨field, hfield, hpack, hdata⟩
        exact ⟨YPack, sender, name, packToAdd, rfl, hconvert, hpack.symm, field, hfield, hdata⟩
      · intro ⟨YPack', sender', name', packToAdd', hcall, hconvert', hpack, field, hfield, hdata⟩
        cases hcall
        rw [hconvert, Option.some.injEq] at hconvert'
        rw [← hconvert'] at hfield
        exact ⟨field, hfield, hpack.symm, hdata⟩
  | providePackets requestedData => simp [declarations, Declares]

theorem mem_declarations {yaml : YamlCpp} {calls : List Call} {packName dataName : String} :
    (packName, dataName) ∈ declarations yaml calls ↔
      ∃ call ∈ calls, call.Declares yaml packName dataName := by
  simp only [declarations, List.mem_flatMap, Call.mem_declarations]

section After

variable (order : HashOrder String) (yaml : YamlCpp)

theorem after_snoc (calls : List Call) (last : Call) :
    after order yaml (calls ++ [last]) = perform order yaml (after order yaml calls) last := by
  rw [after, List.foldl_append]
  rfl

/-- The databases the sequences lead to are the reachable ones. -/
theorem reachable_iff_after {db : DataBase} :
    Reachable order yaml db ↔ ∃ calls, after order yaml calls = db := by
  constructor
  · intro hdb
    induction hdb with
    | empty => exact ⟨[], rfl⟩
    | @addPacket _ db' YPack sender name _ hadd ih =>
      obtain ⟨calls, hcalls⟩ := ih
      refine ⟨calls ++ [.addPacket YPack sender name], ?_⟩
      rw [after_snoc, hcalls, perform, hadd, Option.getD_some]
    | providePackets _ requestedData ih =>
      obtain ⟨calls, hcalls⟩ := ih
      refine ⟨calls ++ [.providePackets requestedData], ?_⟩
      rw [after_snoc, hcalls, perform]
  · intro ⟨calls, hcalls⟩
    rw [← hcalls]
    induction calls using List.reverseRecOn generalizing db with
    | nil => exact .empty
    | append_singleton calls last ih =>
      rw [after_snoc]
      cases last with
      | addPacket YPack sender name =>
        rw [perform]
        cases hadd : (after order yaml calls).addPacket order yaml YPack sender name with
        | none => exact ih rfl
        | some db' => exact .addPacket (ih rfl) hadd
      | providePackets requestedData => exact .providePackets (ih rfl) requestedData

/-! ## What the index lists -/

/-- One call appends what it declares. -/
theorem providers_perform (db : DataBase) (call : Call) (dataName : String) :
    (((perform order yaml db call).providers dataName).map Prod.fst).Perm
      ((db.providers dataName).map Prod.fst ++ under (call.declarations yaml) dataName) := by
  cases call with
  | addPacket YPack sender name =>
    cases hconvert : yaml.asStringMap YPack with
    | none => simp [perform, addPacket, Call.declarations, hconvert]
    | some packToAdd =>
      have hperform : perform order yaml db (.addPacket YPack sender name)
          = db.addFields order packToAdd sender name := by
        simp [perform, addPacket, hconvert]
      have hdeclared : Call.declarations yaml (.addPacket YPack sender name)
          = packToAdd.nodes.map fun field => (joined name sender, joined field.1 field.2) := by
        simp [Call.declarations, hconvert]
      rw [hperform, hdeclared, providers_addFields, under_map_const, List.map_append,
        List.map_map]
      apply List.Perm.append_left
      -- the loop visits the fields in the order of the hash table
      exact ((packToAdd.iterate_perm order).filter _).map _
  | providePackets requestedData =>
    have hsame := (providePackets_frame order db requestedData).2 dataName
    rw [perform, hsame, Call.declarations, under_nil, List.append_nil]

/-- **What the index lists after a sequence of calls**: what the sequence declared, and each
packet as often as it was declared. Induction on the calls, the last one first. -/
theorem providers_after (calls : List Call) (dataName : String) :
    (((after order yaml calls).providers dataName).map Prod.fst).Perm
      (under (declarations yaml calls) dataName) := by
  induction calls using List.reverseRecOn with
  | nil => exact List.Perm.nil
  | append_singleton calls last ih =>
    have hdeclared : declarations yaml (calls ++ [last])
        = declarations yaml calls ++ last.declarations yaml := by
      simp [declarations]
    rw [after_snoc, hdeclared, under_append]
    exact (providers_perform order yaml _ last dataName).trans (ih.append_right _)

theorem offers_after {calls : List Call} {dataName packName : String} :
    (after order yaml calls).Offers dataName packName ↔
      (packName, dataName) ∈ declarations yaml calls := by
  rw [Offers, (providers_after order yaml calls dataName).mem_iff, mem_under]

/-- The packets are those that some call adds. -/
theorem mem_keys_after {calls : List Call} {packName : String} :
    packName ∈ (after order yaml calls).avaiablePacks.keys ↔
      ∃ call ∈ calls, call.Adds yaml packName := by
  induction calls using List.reverseRecOn with
  | nil => simp [after, DataBase.empty]
  | append_singleton calls last ih =>
    simp only [List.mem_append, List.mem_singleton, or_and_right, exists_or, exists_eq_left]
    rw [after_snoc, ← ih]
    cases last with
    | addPacket YPack sender name =>
      cases hconvert : yaml.asStringMap YPack with
      | none => simp [perform, addPacket, Call.Adds, hconvert]
      | some packToAdd =>
        have hperform : perform order yaml (after order yaml calls) (.addPacket YPack sender name)
            = (after order yaml calls).addFields order packToAdd sender name := by
          simp [perform, addPacket, hconvert]
        rw [hperform, mem_keys_addFields]
        simp [Call.Adds, hconvert, or_comm]
    | providePackets requestedData =>
      rw [perform, (providePackets_frame order _ requestedData).1]
      simp [Call.Adds]

theorem valid_after (calls : List Call) : (after order yaml calls).Valid :=
  ((reachable_iff_after order yaml).mpr ⟨calls, rfl⟩).valid

/-- **The index is right after every sequence of calls**: an entry under a data name points to
the flag of the packet it names, and of no other, and a packet is listed under exactly the names
of the data some call declared for it. -/
theorem index_represents (calls : List Call) (dataName : String) :
    (∀ entry ∈ (after order yaml calls).providers dataName,
      entry.1 ∈ (after order yaml calls).avaiablePacks.keys ∧
      entry.2 = (after order yaml calls).flagOf entry.1 ∧
      ∀ other ∈ (after order yaml calls).avaiablePacks.keys,
        entry.2 = (after order yaml calls).flagOf other → other = entry.1) ∧
    ∀ packName, (after order yaml calls).Offers dataName packName ↔
      ∃ call ∈ calls, call.Declares yaml packName dataName := by
  refine ⟨fun entry hentry => ?_, fun packName => ?_⟩
  · have hptr := (valid_after order yaml calls).pointsTo dataName entry hentry
    obtain ⟨hmem, hflag⟩ := packOf_eq_some_iff.mp hptr
    refine ⟨hmem, hflag, fun other hother hflag' => ?_⟩
    exact (flagOf_inj hother hmem).mp (hflag'.symm.trans hflag)
  · rw [offers_after, mem_declarations]

/-! ## Duplicates -/

/-- Every packet is listed at most once under each name, so that a clause of one pointer is that
of a name with one provider. -/
structure ListsOnce (db : DataBase) : Prop where
  once : ∀ dataName, ((db.providers dataName).map Prod.fst).Nodup
  single : ∀ dataName, (db.clauseOf dataName).length = 1 ↔
    ∃ packName, db.Offers dataName packName ∧
      ∀ other, db.Offers dataName other → other = packName

/-- The second part says nothing new once the first holds. -/
theorem listsOnce_of_nodup {db : DataBase}
    (hdb : ∀ dataName, ((db.providers dataName).map Prod.fst).Nodup) : db.ListsOnce where
  once := hdb
  single dataName := by
    have hlen : (db.clauseOf dataName).length = ((db.providers dataName).map Prod.fst).length := by
      rw [clauseOf, List.length_map, List.length_map]
    rw [hlen, length_eq_one_iff_of_nodup (hdb dataName)]
    rfl

/-- **When the index has no duplicates**: exactly when the calls declared no pair twice. -/
theorem listsOnce_iff (calls : List Call) :
    (after order yaml calls).ListsOnce ↔ (declarations yaml calls).Nodup := by
  rw [nodup_iff_under]
  constructor
  · intro honce dataName
    exact (providers_after order yaml calls dataName).nodup_iff.mp (honce.once dataName)
  · intro hnodup
    apply listsOnce_of_nodup
    intro dataName
    exact (providers_after order yaml calls dataName).nodup_iff.mpr (hnodup dataName)

end After

/-- The call is one of `addPacket`. -/
def Call.isAddPacket : Call → Bool
  | .addPacket _ _ _ => true
  | .providePackets _ => false

/-- Adding a packet again lists it again: its only datum then goes to the search. -/
theorem not_listsOnce : ¬ ∀ (order : HashOrder String) (yaml : YamlCpp) (calls : List Call),
    (∀ call ∈ calls, call.isAddPacket = true) → (after order yaml calls).ListsOnce := by
  intro hlists
  let added : Call := .addPacket (.map [(.scalar "a", .scalar "t")]) "node" "P"
  have honce := (hlists (HashOrder.insertion String) YamlCpp.textless
    [added, added] (by simp [added, Call.isAddPacket])).once "a_t"
  exact absurd honce (by decide)

/-! ## Queries -/

section Queries

variable (order : HashOrder String)

theorem index_collectClause (st : Clauses) (data : String) :
    (collectClause st data).db.index = st.db.index.insert data [] := by
  by_cases hlen : (st.db.clauseOf data).length = 1
  · obtain ⟨only, honly⟩ := List.length_eq_one_iff.mp hlen
    rw [collectClause_only honly]
    rfl
  · rw [collectClause_clause hlen]
    rfl

/-- Only the lookups of the first loop touch the index. -/
theorem index_providePackets (db : DataBase) (requestedData : List String) :
    (db.providePackets order requestedData).2.index
      = requestedData.foldl (fun index data => index.insert data []) db.index := by
  have hfold : ∀ st : Clauses, (requestedData.foldl collectClause st).db.index
      = requestedData.foldl (fun index data => index.insert data []) st.db.index := by
    induction requestedData with
    | nil => exact fun st => rfl
    | cons data rest ih =>
      intro st
      rw [List.foldl_cons, ih, index_collectClause, List.foldl_cons]
  unfold providePackets
  simp only
  split
  · exact hfold ⟨db, [], 0⟩
  · exact hfold ⟨db, [], 0⟩

/-- **When a query leaves the catalogue alone**: exactly when every name it asks for was a key
of the index before. -/
theorem getIndex_unchanged_iff (db : DataBase) (requestedData : List String) :
    ((∀ dataName, dataName ∈ (db.providePackets order requestedData).2.getIndex.keys ↔
        dataName ∈ db.getIndex.keys) ∧
      ∀ dataName, (db.providePackets order requestedData).2.getIndex.find? dataName
        = db.getIndex.find? dataName) ↔
    ∀ dataName ∈ requestedData, dataName ∈ db.getIndex.keys := by
  unfold getIndex
  rw [index_providePackets]
  constructor
  · intro ⟨hkeys, _⟩ dataName hdata
    exact (hkeys dataName).mp (UnorderedMap.mem_keys_foldl_insert.mpr (Or.inl hdata))
  · intro hknown
    rw [UnorderedMap.foldl_insert_of_mem hknown]
    exact ⟨fun _ => Iff.rfl, fun _ => rfl⟩

/-- What any number of queries leaves of the index: one lookup for every name in them. -/
theorem index_afterRequests (db : DataBase) (requests : List (List String)) :
    (db.afterRequests order requests).index
      = requests.flatten.foldl (fun index data => index.insert data []) db.index := by
  induction requests using List.reverseRecOn with
  | nil => rfl
  | append_singleton requests last ih =>
    rw [afterRequests_snoc, index_providePackets, ih, List.flatten_append, List.foldl_append,
      List.flatten_singleton]

/-- Queries for known names only leave the index as it is, however many there are. -/
theorem index_afterRequests_of_mem {db : DataBase} {requests : List (List String)}
    (hknown : ∀ requestedData ∈ requests, ∀ dataName ∈ requestedData,
      dataName ∈ db.getIndex.keys) :
    (db.afterRequests order requests).index = db.index := by
  rw [index_afterRequests]
  apply UnorderedMap.foldl_insert_of_mem
  intro dataName hdata
  obtain ⟨requestedData, hrequest, hmem⟩ := List.mem_flatten.mp hdata
  exact hknown requestedData hrequest dataName hmem

end Queries

/-- A query for a name nobody provides leaves it in the index. -/
theorem not_getIndex_unchanged : ¬ ∀ (order : HashOrder String) (yaml : YamlCpp)
    (db : DataBase), Reachable order yaml db → ∀ requestedData : List String,
      (∀ dataName, dataName ∈ (db.providePackets order requestedData).2.getIndex.keys ↔
        dataName ∈ db.getIndex.keys) ∧
      ∀ dataName, (db.providePackets order requestedData).2.getIndex.find? dataName
        = db.getIndex.find? dataName := by
  intro hsame
  have hdb : Reachable (HashOrder.insertion String) YamlCpp.textless
      DataBase.empty := .empty
  have hkeys := (hsame _ _ _ hdb ["notPresentData"]).1 "notPresentData"
  exact absurd hkeys (by decide)

end DataBase

end ComuFrame
