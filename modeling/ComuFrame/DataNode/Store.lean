import Mathlib.Data.List.Forall2
import Mathlib.Data.List.Induction
import ComuFrame.DataNode.Basic
import ComuFrame.Lib.Keyed

/-!
# ComuFrame — what a `DataNode` stores

What the object is for is a table: packets with different `nameID`s, added one by one and
otherwise only looked at. `stored calls` is that table for a sequence of calls, and the
object simulates it (`after_simulates`): packet for packet it holds the table's, with
entries of value `""` behind that the searches inserted.

From there on the two questions about the object are questions about the table.

* **Are the names different?** Yes, and `addPacket` accepts exactly the new ones
  (`addPacket_unique`).
* **Do the two searches agree?** Yes, in either order (`searches_agree`): what they insert
  never changes which packet matches.
-/

namespace ComuFrame

open Cpp UnorderedMap

namespace DataNode

/-- The value under `nameID`, if any. -/
def nameID (packet : Packet) : Option String := packet.find? "nameID"

abbrev Store := Keyed nameID

/-- The packet a call tries to add. -/
def Call.packToAdd : Call → Option Packet
  | .addPacket packToAdd => some packToAdd
  | _ => none

theorem Call.eq_addPacket {call : Call} {packet : Packet} (h : call.packToAdd = some packet) :
    call = .addPacket packet := by
  cases call with
  | addPacket packToAdd => rw [Option.some.inj h]
  | _ => exact absurd h.symm (Option.some_ne_none packet)

/-- The table after the calls. -/
def stored (calls : List Call) : Store := Keyed.addAll (calls.filterMap Call.packToAdd)

def Simulates (t : Store) (s : DataNode) : Prop := List.Forall₂ Padded t.records s.packetTypes

theorem mem_keys_of_nameID {packet : Packet} {name : String} (h : nameID packet = some name) :
    "nameID" ∈ packet.keys :=
  mem_keys_iff_find?.mpr ⟨name, h⟩

/-- A packet that has its name is not changed by reading it. -/
theorem subscript_nameID {packet : Packet} {name : String} (h : nameID packet = some name) :
    packet.subscript "nameID" = (name, packet) := by
  unfold subscript value
  rw [insert_of_mem (mem_keys_of_nameID h)]
  rw [show packet.find? "nameID" = some name from h]
  rfl

/-! ## Adding -/

theorem nameLoop_eq {packToAdd : Packet} {name : String} (hname : nameID packToAdd = some name)
    {packets : List Packet} (hkeyed : ∀ i ∈ packets, ∃ name', nameID i = some name') :
    nameLoop packToAdd packets =
      (decide (nameID packToAdd ∈ packets.map nameID), packToAdd, packets) := by
  induction packets with
  | nil => rfl
  | cons i rest ih =>
    rw [List.forall_mem_cons] at hkeyed
    obtain ⟨⟨name', hname'⟩, hrest⟩ := hkeyed
    unfold nameLoop
    rw [subscript_nameID hname', subscript_nameID hname]
    simp only [ih hrest]
    by_cases heq : name' = name
    · simp [heq, hname, hname']
    · simp [heq, Ne.symm heq, hname, hname']

/-- Equal maps have the same name. -/
theorem nameID_of_equals {packet packet' : Packet} {name : String}
    (h : packet.equals packet' = true) (hname : nameID packet = some name) :
    nameID packet' = some name := by
  unfold equals at h
  rw [Bool.and_eq_true, List.all_eq_true] at h
  exact beq_iff_eq.mp (h.2 ("nameID", name) (find?_eq_some.mp hname))

section Accepting

variable {s : DataNode} (hkeyed : ∀ i ∈ s.packetTypes, ∃ name, nameID i = some name)
  {packToAdd : Packet}

include hkeyed

theorem addPacket_of_new (hname : ∃ name, nameID packToAdd = some name)
    (hnew : nameID packToAdd ∉ s.packetTypes.map nameID) :
    s.addPacket packToAdd = (true, { s with packetTypes := s.packetTypes ++ [packToAdd] }) := by
  obtain ⟨name, hsome⟩ := hname
  have hcount : s.packetTypes.countP (fun i => i.equals packToAdd) = 0 := by
    rw [List.countP_eq_zero]
    intro i hi hequals
    obtain ⟨name', hname'⟩ := hkeyed i hi
    have hsame : nameID packToAdd = nameID i := by
      rw [hname', nameID_of_equals hequals hname']
    exact hnew (hsame ▸ List.mem_map_of_mem hi)
  have hfound : packToAdd.find? "nameID" ≠ none := Option.ne_none_iff_exists'.mpr ⟨name, hsome⟩
  unfold addPacket
  rw [if_neg hfound, if_pos (Or.inr hcount), nameLoop_eq hsome hkeyed, decide_eq_false hnew]
  rfl

/-- With its name missing or taken a packet is not added, and reading the names of the others
leaves them as they are. -/
theorem addPacket_of_not_new
    (hnot : (∃ name, nameID packToAdd = some name) → nameID packToAdd ∈ s.packetTypes.map nameID) :
    s.addPacket packToAdd = (false, s) := by
  unfold addPacket
  split
  · rfl
  · next hsome =>
    obtain ⟨name, hname⟩ := Option.ne_none_iff_exists'.mp hsome
    split
    · rw [nameLoop_eq hname hkeyed, decide_eq_true (hnot ⟨name, hname⟩)]
      rfl
    · rfl

end Accepting

/-! ## Searching -/

section Search

variable {α : Type} {answer : Packet → α × Packet} {notFound : α}

theorem readPairs_iterate (order : HashOrder String) (packet dataToFind : Packet) :
    (readPairs (dataToFind.iterate order) packet).1 = decide (packet.Agrees dataToFind) := by
  rw [Bool.eq_iff_iff, readPairs_fst, decide_eq_true_eq]
  simp only [mem_iterate]
  rfl

theorem searchLoop_cons_of_agrees {order : HashOrder String} {i dataToFind : Packet}
    (h : i.Agrees dataToFind) (rest : List Packet) :
    searchLoop answer notFound (dataToFind.iterate order) (i :: rest) =
      ((answer (readPairs (dataToFind.iterate order) i).2).1,
        (answer (readPairs (dataToFind.iterate order) i).2).2 :: rest) := by
  have hfound := readPairs_iterate order i dataToFind
  rw [decide_eq_true h] at hfound
  rw [searchLoop, show readPairs (dataToFind.iterate order) i = (true, _) from
    Prod.ext hfound rfl]
  rfl

theorem searchLoop_cons_of_not {order : HashOrder String} {i dataToFind : Packet}
    (h : ¬ i.Agrees dataToFind) (rest : List Packet) :
    searchLoop answer notFound (dataToFind.iterate order) (i :: rest) =
      ((searchLoop answer notFound (dataToFind.iterate order) rest).1,
        (readPairs (dataToFind.iterate order) i).2 ::
          (searchLoop answer notFound (dataToFind.iterate order) rest).2) := by
  have hfound := readPairs_iterate order i dataToFind
  rw [decide_eq_false h] at hfound
  rw [searchLoop, show readPairs (dataToFind.iterate order) i = (false, _) from
    Prod.ext hfound rfl]
  rfl

/-- A search only adds default entries. -/
theorem searchLoop_padded (hanswer : ∀ i, Padded i (answer i).2) (order : HashOrder String)
    (dataToFind : Packet) {kept packets : List Packet} (h : List.Forall₂ Padded kept packets) :
    List.Forall₂ Padded kept
      (searchLoop answer notFound (dataToFind.iterate order) packets).2 := by
  induction h with
  | nil => exact List.Forall₂.nil
  | @cons m i kept rest hi hrest ih =>
    have hread := hi.trans (padded_readPairs (dataToFind.iterate order) i)
    by_cases hagrees : i.Agrees dataToFind
    · rw [searchLoop_cons_of_agrees hagrees]
      exact List.Forall₂.cons (hread.trans (hanswer _)) hrest
    · rw [searchLoop_cons_of_not hagrees]
      exact List.Forall₂.cons hread ih

variable (answer notFound) in
/-- What a search returns is decided by the packets without the added entries: it is the
answer for the first that reads as having the data. -/
theorem searchLoop_fst (order : HashOrder String) (dataToFind : Packet)
    {kept packets : List Packet} (h : List.Forall₂ Padded kept packets) :
    match kept.find? (fun m => m.Agrees dataToFind) with
    | none => (searchLoop answer notFound (dataToFind.iterate order) packets).1 = notFound
    | some m => ∃ i, Padded m i ∧
        (searchLoop answer notFound (dataToFind.iterate order) packets).1 = (answer i).1 := by
  induction h with
  | nil => rfl
  | @cons m i kept rest hi hrest ih =>
    by_cases hagrees : m.Agrees dataToFind
    · have hfirst : (m :: kept).find? (fun m => m.Agrees dataToFind) = some m := by
        simp [hagrees]
      rw [hfirst, searchLoop_cons_of_agrees ((hi.agrees_iff dataToFind).mpr hagrees)]
      exact ⟨_, hi.trans (padded_readPairs (dataToFind.iterate order) i), rfl⟩
    · have hlater : (m :: kept).find? (fun m => m.Agrees dataToFind) =
          kept.find? (fun m => m.Agrees dataToFind) := by simp [hagrees]
      rw [hlater, searchLoop_cons_of_not (mt (hi.agrees_iff dataToFind).mp hagrees)]
      exact ih

end Search

/-! ## The object simulates the table -/

/-- Added entries hide no name. -/
theorem names_of_padded {kept packets : List Packet} (h : List.Forall₂ Padded kept packets)
    (hkeyed : ∀ m ∈ kept, ∃ name, nameID m = some name) :
    packets.map nameID = kept.map nameID := by
  induction h with
  | nil => rfl
  | @cons m i kept rest hi hrest ih =>
    rw [List.forall_mem_cons] at hkeyed
    obtain ⟨⟨name, hname⟩, hkeyed⟩ := hkeyed
    have hsame : nameID i = nameID m := (hi.find? hname).trans hname.symm
    rw [List.map_cons, List.map_cons, hsame, ih hkeyed]

namespace Simulates

variable {t : Store} {s : DataNode}

/-- Packet for packet the same names. -/
theorem names_eq (h : Simulates t s) : s.packetTypes.map nameID = t.records.map nameID :=
  names_of_padded h t.keyed

theorem keyed (h : Simulates t s) : ∀ i ∈ s.packetTypes, ∃ name, nameID i = some name := by
  intro i hi
  have hmem : nameID i ∈ t.records.map nameID := h.names_eq ▸ List.mem_map_of_mem hi
  obtain ⟨m, hm, heq⟩ := List.mem_map.mp hmem
  rw [← heq]
  exact t.keyed m hm

theorem unique (h : Simulates t s) :
    s.packetTypes.Pairwise fun i i' => nameID i ≠ nameID i' := by
  rw [← List.pairwise_map, h.names_eq, List.pairwise_map]
  exact t.unique

/-- New to the table is new to the object. -/
theorem new_iff (h : Simulates t s) {packet : Packet} :
    t.New packet ↔ (∃ name, nameID packet = some name) ∧
      nameID packet ∉ s.packetTypes.map nameID := by
  rw [h.names_eq]
  rfl

theorem init (sender : String) : Simulates Keyed.empty (DataNode.init sender) :=
  List.Forall₂.nil

theorem addPacket_of_not_new (h : Simulates t s) {packToAdd : Packet}
    (hnot : ¬ t.New packToAdd) : s.addPacket packToAdd = (false, s) := by
  apply DataNode.addPacket_of_not_new h.keyed
  intro hname
  by_contra hfresh
  exact hnot (h.new_iff.mpr ⟨hname, hfresh⟩)

theorem addPacket_of_new (h : Simulates t s) {packToAdd : Packet} (hnew : t.New packToAdd) :
    s.addPacket packToAdd = (true, { s with packetTypes := s.packetTypes ++ [packToAdd] }) := by
  obtain ⟨hname, hfresh⟩ := h.new_iff.mp hnew
  exact DataNode.addPacket_of_new h.keyed hname hfresh

/-- `addPacket` answers whether the packet is new to the table, and adds it if so. -/
theorem addPacket (h : Simulates t s) (packToAdd : Packet) :
    (s.addPacket packToAdd).1 = decide (t.New packToAdd) ∧
      Simulates (t.add packToAdd) (s.addPacket packToAdd).2 := by
  by_cases hnew : t.New packToAdd
  · rw [h.addPacket_of_new hnew]
    refine ⟨(decide_eq_true hnew).symm, ?_⟩
    unfold Simulates
    rw [Keyed.records_add_of_new hnew]
    exact List.rel_append h (List.Forall₂.cons (Padded.refl packToAdd) List.Forall₂.nil)
  · rw [h.addPacket_of_not_new hnew, Keyed.add_of_not_new hnew]
    exact ⟨(decide_eq_false hnew).symm, h⟩

theorem search {α : Type} {answer : Packet → α × Packet} {notFound : α}
    (hanswer : ∀ i, Padded i (answer i).2) (h : Simulates t s) (order : HashOrder String)
    (dataToFind : Packet) : Simulates t (search order answer notFound s dataToFind).2 :=
  searchLoop_padded hanswer order dataToFind h

theorem findPacket (h : Simulates t s) (order : HashOrder String) (dataToFind : Packet) :
    Simulates t (s.findPacket order dataToFind).2 :=
  h.search Padded.refl order dataToFind

theorem findPacketName (h : Simulates t s) (order : HashOrder String) (dataToFind : Packet) :
    Simulates t (s.findPacketName order dataToFind).2 :=
  h.search (fun i => Padded.insert i "nameID") order dataToFind

/-- A call that adds nothing. -/
theorem perform_of_none (h : Simulates t s) (order : HashOrder String) {call : Call}
    (hcall : call.packToAdd = none) : Simulates t (s.perform order call) := by
  cases call with
  | addPacket packToAdd => exact absurd hcall (Option.some_ne_none packToAdd)
  | findPacket dataToFind => exact h.findPacket order dataToFind
  | findPacketName dataToFind => exact h.findPacketName order dataToFind
  | getPacket packetName => exact h
  | setSender sender => exact h

end Simulates

theorem stored_snoc_addPacket (calls : List Call) (packToAdd : Packet) :
    stored (calls ++ [.addPacket packToAdd]) = (stored calls).add packToAdd := by
  unfold stored
  rw [List.filterMap_append]
  exact Keyed.addAll_snoc _ packToAdd

/-- Every other call leaves the table as it is. -/
theorem stored_snoc_of_none (calls : List Call) {call : Call} (h : call.packToAdd = none) :
    stored (calls ++ [call]) = stored calls := by
  unfold stored
  rw [List.filterMap_append, show [call].filterMap Call.packToAdd = [] by simp [h],
    List.append_nil]

theorem after_snoc (order : HashOrder String) (sender : String) (calls : List Call) (call : Call) :
    after order sender (calls ++ [call]) = (after order sender calls).perform order call := by
  rw [after, List.foldl_append]
  rfl

/-- **The object simulates the table** after any calls. Induction on the calls; each is one
of the steps above. -/
theorem after_simulates (order : HashOrder String) (sender : String) (calls : List Call) :
    Simulates (stored calls) (after order sender calls) := by
  induction calls using List.reverseRecOn with
  | nil => exact Simulates.init sender
  | append_singleton calls call ih =>
    rw [after_snoc]
    cases hcall : call.packToAdd with
    | none =>
      rw [stored_snoc_of_none calls hcall]
      exact ih.perform_of_none order hcall
    | some packToAdd =>
      rw [Call.eq_addPacket hcall, stored_snoc_addPacket]
      exact (ih.addPacket packToAdd).2

/-! ## Names -/

/-- A packet is new if it has a name that no stored packet has. -/
theorem new_iff_exists {packet : Packet} {packets : List Packet} :
    ((∃ name, nameID packet = some name) ∧ nameID packet ∉ packets.map nameID) ↔
      ∃ name, packet.find? "nameID" = some name ∧
        ∀ i ∈ packets, i.find? "nameID" ≠ some name := by
  constructor
  · intro ⟨⟨name, hname⟩, hnot⟩
    refine ⟨name, hname, fun i hi heq => hnot ?_⟩
    rw [hname, ← show nameID i = some name from heq]
    exact List.mem_map_of_mem hi
  · intro ⟨name, hname, hall⟩
    refine ⟨⟨name, hname⟩, fun hmem => ?_⟩
    obtain ⟨i, hi, heq⟩ := List.mem_map.mp hmem
    exact hall i hi (heq.trans hname)

/-- **Every stored packet has a name, no two the same**, and `addPacket` accepts a packet
exactly if it has one that is new. It is then the last of the packets, and otherwise
nothing changes. -/
theorem addPacket_unique (order : HashOrder String) (sender : String) (calls : List Call) :
    let s := after order sender calls
    (∀ i ∈ s.packetTypes, ∃ name, i.find? "nameID" = some name) ∧
    (s.packetTypes.Pairwise fun i i' => i.find? "nameID" ≠ i'.find? "nameID") ∧
    ∀ packToAdd : Packet,
      ((s.addPacket packToAdd).1 = true ↔ ∃ name, packToAdd.find? "nameID" = some name ∧
        ∀ i ∈ s.packetTypes, i.find? "nameID" ≠ some name) ∧
      ((s.addPacket packToAdd).1 = true →
        (s.addPacket packToAdd).2.packetTypes = s.packetTypes ++ [packToAdd]) ∧
      ((s.addPacket packToAdd).1 = false →
        (s.addPacket packToAdd).2.packetTypes = s.packetTypes) := by
  have hsim := after_simulates order sender calls
  refine ⟨hsim.keyed, hsim.unique, fun packToAdd => ?_⟩
  by_cases hnew : (stored calls).New packToAdd
  · rw [hsim.addPacket_of_new hnew]
    refine ⟨iff_of_true rfl (new_iff_exists.mp (hsim.new_iff.mp hnew)), fun _ => rfl, fun h => ?_⟩
    exact absurd h.symm Bool.false_ne_true
  · rw [hsim.addPacket_of_not_new hnew]
    refine ⟨iff_of_false Bool.false_ne_true fun h => ?_, fun h => ?_, fun _ => rfl⟩
    · exact hnew (hsim.new_iff.mpr (new_iff_exists.mpr h))
    · exact absurd h Bool.false_ne_true

theorem getPacketLoop_eq (packetName : String) {packets : List Packet}
    (hkeyed : ∀ i ∈ packets, ∃ name, nameID i = some name) :
    getPacketLoop packetName packets =
      (packets.find? (fun i => nameID i = some packetName)).getD UnorderedMap.empty := by
  induction packets with
  | nil => rfl
  | cons i rest ih =>
    rw [List.forall_mem_cons] at hkeyed
    obtain ⟨⟨name, hname⟩, hrest⟩ := hkeyed
    rw [getPacketLoop, subscript_nameID hname]
    by_cases heq : name = packetName
    · simp [heq, hname]
    · simp [heq, hname, ih hrest]

/-- `getPacket` returns a stored packet exactly if it has the name asked for, and the empty map
if none has. -/
theorem getPacket_eq_iff (order : HashOrder String) (sender : String) (calls : List Call)
    (packetName : String) {packet : Packet} (hne : packet ≠ UnorderedMap.empty) :
    (after order sender calls).getPacket packetName = packet ↔
      packet ∈ (after order sender calls).packetTypes ∧ nameID packet = some packetName := by
  have hsim := after_simulates order sender calls
  rw [getPacket, getPacketLoop_eq packetName hsim.keyed]
  constructor
  · intro heq
    cases hfind : (after order sender calls).packetTypes.find?
        (fun i => nameID i = some packetName) with
    | none =>
      rw [hfind] at heq
      exact absurd heq.symm hne
    | some i =>
      rw [hfind] at heq
      have hi : i = packet := heq
      rw [← hi]
      exact ⟨List.mem_of_find?_eq_some hfind, by simpa using List.find?_some hfind⟩
  · intro ⟨hmem, hname⟩
    obtain ⟨i, hfind⟩ : ∃ i, (after order sender calls).packetTypes.find?
        (fun i => nameID i = some packetName) = some i := by
      rw [← Option.isSome_iff_exists, List.find?_isSome]
      exact ⟨packet, hmem, by simpa using hname⟩
    have hi : nameID i = some packetName := by simpa using List.find?_some hfind
    -- the names being different, it is the same packet
    have hsame : i = packet := List.inj_on_of_nodup_map (List.pairwise_map.mpr hsim.unique)
      (List.mem_of_find?_eq_some hfind) hmem (hi.trans hname.symm)
    rw [hfind, hsame]
    rfl

/-! ## The two searches -/

namespace Simulates

variable {α : Type} {answer : Packet → α × Packet} {notFound : α} {t : Store} {s : DataNode}
  {dataToFind : Packet}

theorem search_of_none (h : Simulates t s) (order : HashOrder String)
    (hnone : t.records.find? (fun m => m.Agrees dataToFind) = none) :
    (DataNode.search order answer notFound s dataToFind).1 = notFound := by
  have hresult := searchLoop_fst answer notFound order dataToFind h
  rw [hnone] at hresult
  exact hresult

theorem search_of_some (h : Simulates t s) (order : HashOrder String) {m : Packet}
    (hsome : t.records.find? (fun m => m.Agrees dataToFind) = some m) :
    ∃ i, Padded m i ∧
      (DataNode.search order answer notFound s dataToFind).1 = (answer i).1 := by
  have hresult := searchLoop_fst answer notFound order dataToFind h
  rw [hsome] at hresult
  exact hresult

theorem findPacket_of_some (h : Simulates t s) (order : HashOrder String) {m : Packet}
    (hsome : t.records.find? (fun m => m.Agrees dataToFind) = some m) :
    Padded m (s.findPacket order dataToFind).1 := by
  have hresult : ∃ i, Padded m i ∧ (s.findPacket order dataToFind).1 = i :=
    h.search_of_some order hsome
  obtain ⟨i, hi, heq⟩ := hresult
  rw [heq]
  exact hi

theorem findPacketName_of_some (h : Simulates t s) (order : HashOrder String) {m : Packet}
    (hsome : t.records.find? (fun m => m.Agrees dataToFind) = some m) :
    (s.findPacketName order dataToFind).1 = m.value "nameID" := by
  have hresult : ∃ i, Padded m i ∧
      (s.findPacketName order dataToFind).1 = i.value "nameID" :=
    h.search_of_some order hsome
  obtain ⟨i, hi, heq⟩ := hresult
  rw [heq, hi.value_eq]

end Simulates

/-- What the name search returns fits what the packet search returns. -/
def NameOf (packet : Packet) (name : String) : Prop :=
  (packet ≠ UnorderedMap.empty → packet.find? "nameID" = some name) ∧
    (packet = UnorderedMap.empty → name = "")

/-- The two searches on two objects for one table, which may differ in what earlier searches
inserted. -/
theorem nameOf_of_simulates {t : Store} {s s' : DataNode} (h : Simulates t s)
    (h' : Simulates t s') (order : HashOrder String) (dataToFind : Packet) :
    NameOf (s.findPacket order dataToFind).1 (s'.findPacketName order dataToFind).1 := by
  cases hfind : t.records.find? (fun m => m.Agrees dataToFind) with
  | none =>
    have hpacket : (s.findPacket order dataToFind).1 = UnorderedMap.empty :=
      h.search_of_none order hfind
    have hname : (s'.findPacketName order dataToFind).1 = "" := h'.search_of_none order hfind
    exact ⟨fun hne => absurd hpacket hne, fun _ => hname⟩
  | some m =>
    obtain ⟨name, hname⟩ := t.keyed m (List.mem_of_find?_eq_some hfind)
    have hfound : (s.findPacket order dataToFind).1.find? "nameID" = some name :=
      (h.findPacket_of_some order hfind).find? hname
    have hvalue : (s'.findPacketName order dataToFind).1 = name := by
      rw [h'.findPacketName_of_some order hfind]
      exact value_of_mem (find?_eq_some.mp hname)
    rw [hvalue]
    refine ⟨fun _ => hfound, fun hempty => ?_⟩
    rw [hempty] at hfound
    simp at hfound

/-- **The two searches agree**, whichever is called first. -/
theorem searches_agree (order : HashOrder String) (sender : String) (calls : List Call)
    (dataToFind : Packet) :
    let s := after order sender calls
    NameOf (s.findPacket order dataToFind).1
      ((s.findPacket order dataToFind).2.findPacketName order dataToFind).1 ∧
    NameOf ((s.findPacketName order dataToFind).2.findPacket order dataToFind).1
      (s.findPacketName order dataToFind).1 := by
  have h := after_simulates order sender calls
  exact ⟨nameOf_of_simulates h (h.findPacket order dataToFind) order dataToFind,
    nameOf_of_simulates (h.findPacketName order dataToFind) h order dataToFind⟩

example :
    let calls : List Call :=
      [.addPacket ((UnorderedMap.empty.insert "nameID" "aPacket").insert "anInt" "int"),
        .addPacket ((UnorderedMap.empty.insert "nameID" "anotherPacket").insert "aFloat" "float"),
        .findPacket ((UnorderedMap.empty.insert "aFloat" "float").insert "wrongKey" "wrongType")]
    ((after (HashOrder.insertion String) "fakeNode" calls).findPacketName
      (HashOrder.insertion String) (UnorderedMap.empty.insert "aFloat" "float")).1 =
        "anotherPacket" := by decide

end DataNode

end ComuFrame
