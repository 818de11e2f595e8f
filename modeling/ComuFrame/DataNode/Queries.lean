import ComuFrame.DataNode.Store
import ComuFrame.Lib.Arrivals

/-!
# ComuFrame — when a `DataNode` reads back what was added

`findPacket` and `findPacketName` insert an entry of value `""` for every key they ask a
packet for and do not find. So an object is the table of its accepted packets only until
some search asks for a missing key, and a search for the value `""` finds it in packets
that never had the key.

* `passed packets q` — the packets a search for `q` goes past: those before the first that
  contains `q`;
* `Call.LeavesAlone` — a call that inserts nothing: no packet it goes past is asked for a
  key it does not have;
* `pristine_iff` — the object is the table exactly if every call so far was one of these;
* `reads_back_iff` — when the object and a last search give back what was accepted.
-/

namespace ComuFrame

open Cpp UnorderedMap

namespace DataNode

/-! ## Packets that were accepted -/

theorem acceptedFrom_append (order : HashOrder String) (s : DataNode) (calls calls' : List Call) :
    acceptedFrom order s (calls ++ calls') =
      acceptedFrom order s calls ++ acceptedFrom order (calls.foldl (perform order) s) calls' := by
  induction calls generalizing s with
  | nil => rfl
  | cons call calls ih =>
    rw [List.cons_append, List.foldl_cons, acceptedFrom, acceptedFrom, ih, List.append_assoc]

theorem acceptedBy_of_none {s : DataNode} {call : Call} (h : call.packToAdd = none) :
    s.acceptedBy call = [] := by
  cases call with
  | addPacket packToAdd => exact absurd h (Option.some_ne_none packToAdd)
  | _ => rfl

/-- The packets that were accepted are those of the table. -/
theorem accepted_eq (order : HashOrder String) (sender : String) (calls : List Call) :
    accepted order sender calls = (stored calls).records := by
  induction calls using List.reverseRecOn with
  | nil => rfl
  | append_singleton calls call ih =>
    have hlast : accepted order sender (calls ++ [call]) =
        accepted order sender calls ++ (after order sender calls).acceptedBy call := by
      rw [accepted, acceptedFrom_append, acceptedFrom, acceptedFrom, List.append_nil]
      rfl
    rw [hlast, ih]
    cases hcall : call.packToAdd with
    | none => rw [stored_snoc_of_none calls hcall, acceptedBy_of_none hcall, List.append_nil]
    | some packToAdd =>
      have hanswer := ((after_simulates order sender calls).addPacket packToAdd).1
      rw [Call.eq_addPacket hcall, stored_snoc_addPacket]
      by_cases hnew : (stored calls).New packToAdd
      · simp [acceptedBy, hanswer, hnew, Keyed.records_add_of_new hnew]
      · simp [acceptedBy, hanswer, hnew, Keyed.add_of_not_new hnew]

/-! ## Searches over packets without additions -/

/-- The packets before the first that contains `dataToFind`. -/
def passed (packets : List Packet) (dataToFind : Packet) : List Packet :=
  packets.takeWhile fun m => ¬ m.Contains dataToFind

theorem passed_cons_of_contains {m dataToFind : Packet} (h : m.Contains dataToFind)
    (rest : List Packet) : passed (m :: rest) dataToFind = [] := by
  simp [passed, h]

theorem passed_cons_of_not {m dataToFind : Packet} (h : ¬ m.Contains dataToFind)
    (rest : List Packet) : passed (m :: rest) dataToFind = m :: passed rest dataToFind := by
  simp [passed, h]

section Reading

variable (order : HashOrder String) {m dataToFind : Packet}

/-- A packet that contains the data is only read. -/
theorem readPairs_of_contains (h : m.Contains dataToFind) :
    (readPairs (dataToFind.iterate order) m).2 = m := by
  rw [readPairs_snd_eq_iff]
  apply not_misses_of_forall_mem
  simp only [mem_iterate]
  exact h

/-- A packet that reads as having the data without containing it is written to. -/
theorem misses_of_agrees_not (hagrees : m.Agrees dataToFind) (hnot : ¬ m.Contains dataToFind) :
    m.Misses (dataToFind.iterate order) := by
  apply misses_of_agrees
  · simp only [mem_iterate]
    exact hagrees
  · simp only [mem_iterate]
    exact hnot

end Reading

/-- A search leaves the packets as they are exactly if it asks none that it goes past for a
key it lacks. Induction on the packets; the first decides unless it does not match. -/
theorem searchLoop_snd_eq_iff {α : Type} {answer : Packet → α × Packet} {notFound : α}
    (order : HashOrder String) (dataToFind : Packet) {packets : List Packet}
    (hanswer : ∀ m ∈ packets, ∀ i, Padded m i → (answer i).2 = i) :
    (searchLoop answer notFound (dataToFind.iterate order) packets).2 = packets ↔
      ∀ m ∈ passed packets dataToFind, ¬ m.Misses (dataToFind.iterate order) := by
  induction packets with
  | nil => simp [searchLoop, passed]
  | cons m rest ih =>
    rw [List.forall_mem_cons] at hanswer
    have hread := padded_readPairs (dataToFind.iterate order) m
    by_cases hcontains : m.Contains dataToFind
    · rw [passed_cons_of_contains hcontains, searchLoop_cons_of_agrees hcontains.agrees,
        hanswer.1 _ hread, readPairs_of_contains order hcontains]
      simp
    · rw [passed_cons_of_not hcontains, List.forall_mem_cons]
      by_cases hagrees : m.Agrees dataToFind
      · have hmisses := misses_of_agrees_not order hagrees hcontains
        rw [searchLoop_cons_of_agrees hagrees, hanswer.1 _ hread]
        refine iff_of_false (fun heq => ?_) (fun h => h.1 hmisses)
        exact (readPairs_snd_eq_iff _ m).mp (List.head_eq_of_cons_eq heq) hmisses
      · rw [searchLoop_cons_of_not hagrees, List.cons.injEq, readPairs_snd_eq_iff, ih hanswer.2]

/-- On packets without additions, `findPacket` returns what it should exactly if no packet it
goes past reads as having the data. -/
theorem searchLoop_fst_eq_iff (order : HashOrder String) (dataToFind : Packet)
    {packets : List Packet} (hkeyed : ∀ m ∈ packets, ∃ name, nameID m = some name)
    (hunique : packets.Pairwise fun m m' => nameID m ≠ nameID m') :
    (searchLoop (fun i => (i, i)) UnorderedMap.empty (dataToFind.iterate order) packets).1 =
        (packets.find? (fun m => m.Contains dataToFind)).getD UnorderedMap.empty ↔
      ∀ m ∈ passed packets dataToFind, ¬ m.Agrees dataToFind := by
  induction packets with
  | nil => simp [searchLoop, passed]
  | cons m rest ih =>
    rw [List.forall_mem_cons] at hkeyed
    rw [List.pairwise_cons] at hunique
    by_cases hcontains : m.Contains dataToFind
    · have hfind : (m :: rest).find? (fun m => m.Contains dataToFind) = some m := by
        simp [hcontains]
      rw [passed_cons_of_contains hcontains, searchLoop_cons_of_agrees hcontains.agrees,
        readPairs_of_contains order hcontains, hfind]
      simp
    · have hfind : (m :: rest).find? (fun m => m.Contains dataToFind) =
          rest.find? (fun m => m.Contains dataToFind) := by simp [hcontains]
      rw [passed_cons_of_not hcontains, List.forall_mem_cons, hfind]
      by_cases hagrees : m.Agrees dataToFind
      · rw [searchLoop_cons_of_agrees hagrees]
        refine iff_of_false (fun heq => ?_) (fun h => h.1 hagrees)
        -- what is returned has the name of `m`, and nothing behind `m` has it
        obtain ⟨name, hname⟩ := hkeyed.1
        have hfound := (padded_readPairs (dataToFind.iterate order) m).find? hname
        simp only at heq
        rw [heq] at hfound
        cases hrest : rest.find? (fun m => m.Contains dataToFind) with
        | none =>
          rw [hrest] at hfound
          simp at hfound
        | some m' =>
          rw [hrest] at hfound
          exact hunique.1 m' (List.mem_of_find?_eq_some hrest) (hname.trans hfound.symm)
      · rw [searchLoop_cons_of_not hagrees, ih hkeyed.2 hunique.2]
        simp [hagrees]

/-! ## Runs that leave the packets alone -/

/-- A call that inserts nothing into the packets. -/
def Call.LeavesAlone (order : HashOrder String) (packets : List Packet) : Call → Prop
  | .findPacket dataToFind =>
    ∀ m ∈ passed packets dataToFind, ¬ m.Misses (dataToFind.iterate order)
  | .findPacketName dataToFind =>
    ∀ m ∈ passed packets dataToFind, ¬ m.Misses (dataToFind.iterate order)
  | _ => True

instance (order : HashOrder String) (packets : List Packet) (call : Call) :
    Decidable (call.LeavesAlone order packets) := by
  cases call <;> unfold Call.LeavesAlone <;> infer_instance

/-- The object is the table: no search has inserted anything. -/
def Pristine (order : HashOrder String) (sender : String) (calls : List Call) : Prop :=
  (after order sender calls).packetTypes = (stored calls).records

/-- Packets that only gain entries, and are as they were at the end, were not touched. -/
theorem eq_of_padded {kept packets : List Packet} (h : List.Forall₂ Padded kept packets)
    (h' : List.Forall₂ Padded packets kept) : kept = packets := by
  induction h with
  | nil => rfl
  | @cons m i kept rest hi hrest ih =>
    cases h' with
    | cons hi' hrest' => rw [hi.antisymm hi', ih hrest']

section Step

variable {order : HashOrder String} {t : Store} {s : DataNode}

/-- A search that ends with the packets of the table started with them. -/
theorem eq_of_search {α : Type} {answer : Packet → α × Packet} {notFound : α}
    (hanswer : ∀ i, Padded i (answer i).2) (h : Simulates t s) {dataToFind : Packet}
    (heq : (search order answer notFound s dataToFind).2.packetTypes = t.records) :
    s.packetTypes = t.records := by
  have hself : List.Forall₂ Padded s.packetTypes s.packetTypes :=
    List.forall₂_same.mpr fun i _ => Padded.refl i
  have hgrown : List.Forall₂ Padded s.packetTypes
      (search order answer notFound s dataToFind).2.packetTypes :=
    searchLoop_padded hanswer order dataToFind hself
  rw [heq] at hgrown
  exact (eq_of_padded h hgrown).symm

/-- A search and the table: still the table exactly if it was before, and the search leaves the
packets alone. -/
theorem search_packetTypes_iff {α : Type} {answer : Packet → α × Packet} {notFound : α}
    (hanswer : ∀ i, Padded i (answer i).2)
    (hnamed : ∀ m, (∃ name, nameID m = some name) → ∀ i, Padded m i → (answer i).2 = i)
    (h : Simulates t s) (dataToFind : Packet) :
    (search order answer notFound s dataToFind).2.packetTypes = t.records ↔
      s.packetTypes = t.records ∧
        ∀ m ∈ passed t.records dataToFind, ¬ m.Misses (dataToFind.iterate order) := by
  have hloop : s.packetTypes = t.records →
      ((search order answer notFound s dataToFind).2.packetTypes = t.records ↔
        ∀ m ∈ passed t.records dataToFind, ¬ m.Misses (dataToFind.iterate order)) := by
    intro heq
    unfold search
    rw [heq]
    exact searchLoop_snd_eq_iff order dataToFind fun m hm => hnamed m (t.keyed m hm)
  constructor
  · intro hafter
    have hbefore := eq_of_search hanswer h hafter
    exact ⟨hbefore, (hloop hbefore).mp hafter⟩
  · intro ⟨hbefore, halone⟩
    exact (hloop hbefore).mpr halone

theorem addPacket_packetTypes_iff (h : Simulates t s) (packToAdd : Packet) :
    (s.addPacket packToAdd).2.packetTypes = (t.add packToAdd).records ↔
      s.packetTypes = t.records := by
  by_cases hnew : t.New packToAdd
  · rw [h.addPacket_of_new hnew, Keyed.records_add_of_new hnew]
    exact List.append_left_inj [packToAdd]
  · rw [h.addPacket_of_not_new hnew, Keyed.add_of_not_new hnew]

theorem perform_packetTypes_iff (h : Simulates t s) {call : Call}
    (hcall : call.packToAdd = none) :
    (s.perform order call).packetTypes = t.records ↔
      s.packetTypes = t.records ∧ call.LeavesAlone order t.records := by
  cases call with
  | addPacket packToAdd => exact absurd hcall (Option.some_ne_none packToAdd)
  | findPacket dataToFind =>
    exact search_packetTypes_iff Padded.refl (fun _ _ _ _ => rfl) h dataToFind
  | findPacketName dataToFind =>
    refine search_packetTypes_iff (fun i => Padded.insert i "nameID") ?_ h dataToFind
    intro m ⟨name, hname⟩ i hi
    rw [subscript_nameID (hi.find? hname)]
  | getPacket packetName => exact (and_iff_left trivial).symm
  | setSender sender => exact (and_iff_left trivial).symm

end Step

/-- One call more. -/
theorem pristine_snoc (order : HashOrder String) (sender : String) (calls : List Call)
    (call : Call) :
    Pristine order sender (calls ++ [call]) ↔
      Pristine order sender calls ∧ call.LeavesAlone order (stored calls).records := by
  have h := after_simulates order sender calls
  unfold Pristine
  rw [after_snoc]
  cases hcall : call.packToAdd with
  | none =>
    rw [stored_snoc_of_none calls hcall]
    exact perform_packetTypes_iff h hcall
  | some packToAdd =>
    rw [Call.eq_addPacket hcall, stored_snoc_addPacket]
    exact (addPacket_packetTypes_iff h packToAdd).trans (and_iff_left trivial).symm

/-- The object is the table exactly if every call left the packets alone. -/
theorem pristine_iff (order : HashOrder String) (sender : String) (calls : List Call) :
    Pristine order sender calls ↔
      Arrivals.AtEach (fun before call => call.LeavesAlone order (stored before).records) calls := by
  induction calls using List.reverseRecOn with
  | nil => exact iff_of_true rfl (Arrivals.atEach_nil _)
  | append_singleton calls call ih => rw [pristine_snoc, Arrivals.atEach_snoc, ih]

/-! ## Reading back -/

/-- The object gives back the packets that were accepted, and a search for `dataToFind` the
first of them that contains it. -/
def ReadsBack (order : HashOrder String) (sender : String) (calls : List Call)
    (dataToFind : Packet) : Prop :=
  (after order sender calls).getAllPacket = accepted order sender calls ∧
    ((after order sender calls).findPacket order dataToFind).1 =
      ((accepted order sender calls).find? (fun m => m.Contains dataToFind)).getD
        UnorderedMap.empty

/-- **When the queries read what was added**: exactly if every call so far left the packets
alone, and the last search goes past no packet that reads as having the data. -/
theorem reads_back_iff (order : HashOrder String) (sender : String) (calls : List Call)
    (dataToFind : Packet) :
    ReadsBack order sender calls dataToFind ↔
      Arrivals.AtEach (fun before call => call.LeavesAlone order (stored before).records) calls ∧
      ∀ m ∈ passed (stored calls).records dataToFind, ¬ m.Agrees dataToFind := by
  unfold ReadsBack
  rw [← pristine_iff order sender calls, accepted_eq]
  refine and_congr_right fun hpristine => ?_
  have hpackets : (after order sender calls).packetTypes = (stored calls).records := hpristine
  unfold findPacket search
  rw [hpackets]
  exact searchLoop_fst_eq_iff order dataToFind (stored calls).keyed (stored calls).unique

/-- A packet of three fields, and a search for a fourth. -/
def missingKeyCalls : List Call :=
  [.addPacket (((UnorderedMap.empty.insert "nameID" "aPacket").insert "aString" "string").insert
    "anInt" "int"),
   .findPacket (UnorderedMap.empty.insert "aFloat" "float")]

theorem not_reads_back :
    ¬ ∀ (order : HashOrder String) (sender : String) (calls : List Call) (dataToFind : Packet),
      ReadsBack order sender calls dataToFind := by
  intro hreads
  have hall := (hreads (HashOrder.insertion String) "fakeNode" missingKeyCalls
    UnorderedMap.empty).1
  exact absurd hall (by decide)

end DataNode

end ComuFrame
