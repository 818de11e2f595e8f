import ComuFrame.DataBase.Provide

/-!
# ComuFrame — which answers are right

Three questions about the answer of `providePackets` on a reachable database.

* **Is failure reported exactly when it should be?** Yes (`providePackets_failure`): the
  error is returned if and only if some requested name has no provider, and any other answer
  is a duplicate-free list of packet names, none of which is the error text.
* **Does the answer cover the request?** Only under a condition (`providePackets_covers_iff`).
  The search accepts its first choice, so a name with several providers is covered when one
  of them happens to be selected for another reason.
* **Is there an answer at all?** For a request that asks for something, always; for the empty
  one only while some flag is up (`answer_ne_nil_iff`).
-/

namespace ComuFrame

open Cpp

namespace DataBase

/-- Packet names contain the separator, the error text does not. -/
theorem joined_ne_notFound (name sender : String) : joined name sender ≠ notFound := by
  intro heq
  have hmem : '_' ∈ (joined name sender).toList := by simp [joined]
  rw [heq] at hmem
  exact absurd hmem (by decide)

theorem rejects_iff {db : DataBase} {requestedData : List String} :
    db.Rejects requestedData ↔
      ∃ dataName ∈ requestedData, ∀ packName, ¬ db.Offers dataName packName := by
  simp only [Rejects, Offers, ← List.eq_nil_iff_forall_not_mem, List.map_eq_nil_iff]

/-- An answer to an accepted request lists packets only. -/
theorem mem_keys_of_mem_answer {order : HashOrder String} {db : DataBase}
    {requestedData : List String} (hfound : ¬ db.Rejects requestedData) {packName : String}
    (hmem : packName ∈ (db.providePackets order requestedData).1) :
    packName ∈ db.avaiablePacks.keys := by
  obtain ⟨ptr, hptr, _⟩ := ((providePackets_accepts order hfound).1 packName).mp hmem
  exact List.mem_of_getElem? hptr

/-- The error is returned for no other reason than a missing provider. -/
theorem answer_eq_notFound_iff {db : DataBase} (hdb : db.Valid) (order : HashOrder String)
    (requestedData : List String) :
    (db.providePackets order requestedData).1 = [notFound] ↔ db.Rejects requestedData := by
  constructor
  · intro heq
    by_contra hfound
    have hkey : notFound ∈ db.avaiablePacks.keys :=
      mem_keys_of_mem_answer hfound (heq ▸ List.mem_cons_self)
    obtain ⟨name, sender, hjoined⟩ := hdb.named notFound hkey
    exact joined_ne_notFound name sender hjoined.symm
  · exact fun hnone => (providePackets_rejects order hnone).1

/-- What an answer consists of: the error text, or texts with a separator in them. -/
theorem frame_of_mem_answer {order : HashOrder String} {db : DataBase} (hdb : db.Valid)
    {requestedData : List String} {frame : String}
    (hmem : frame ∈ (db.providePackets order requestedData).1) :
    frame = notFound ∨ '_' ∈ frame.toList := by
  by_cases hnone : db.Rejects requestedData
  · rw [(providePackets_rejects order hnone).1] at hmem
    exact .inl (List.mem_singleton.mp hmem)
  · obtain ⟨name, sender, rfl⟩ := hdb.named frame (mem_keys_of_mem_answer hnone hmem)
    exact .inr (by simp [joined])

/-! ## Failure -/

/-- Two packets offer `a_t`, one offers `b_t`. -/
def sampleCalls : List AddCall :=
  [⟨UnorderedMap.empty.insert "a" "t", "node", "P1"⟩,
   ⟨UnorderedMap.empty.insert "a" "t", "node", "P2"⟩,
   ⟨UnorderedMap.empty.insert "b" "t", "node", "P3"⟩]

/-- **Failure is reported exactly when some requested name has no provider**, and every
other answer lists keys of `avaiablePacks`, each once, none of them the error text. -/
theorem providePackets_failure {order : HashOrder String} {yaml : YamlCpp} {db : DataBase}
    (hdb : Reachable order yaml db) (requestedData : List String) :
    ((db.providePackets order requestedData).1 = [notFound] ↔
      ∃ dataName ∈ requestedData, ∀ packName, ¬ db.Offers dataName packName) ∧
    ((∀ dataName ∈ requestedData, ∃ packName, db.Offers dataName packName) →
      (∀ answer ∈ (db.providePackets order requestedData).1,
        answer ∈ db.avaiablePacks.keys ∧ answer ≠ notFound) ∧
      (db.providePackets order requestedData).1.Nodup) := by
  refine ⟨(answer_eq_notFound_iff hdb.valid order requestedData).trans rejects_iff, fun hall => ?_⟩
  have hfound : ¬ db.Rejects requestedData := by
    rw [rejects_iff]
    rintro ⟨dataName, hmem, hnone⟩
    obtain ⟨packName, hoffers⟩ := hall dataName hmem
    exact hnone packName hoffers
  refine ⟨fun answer hmem => ?_, (providePackets_accepts order hfound).2.1⟩
  have hkey := mem_keys_of_mem_answer hfound hmem
  obtain ⟨name, sender, rfl⟩ := hdb.valid.named answer hkey
  exact ⟨hkey, joined_ne_notFound name sender⟩

theorem providePackets_failure_sample :
    let db := DataBase.empty.addAll (HashOrder.insertion String) sampleCalls
    (db.providePackets (HashOrder.insertion String) ["a_t", "c_t"]).1 = [notFound] ∧
      (db.providePackets (HashOrder.insertion String) ["a_t", "b_t"]).1.Nodup :=
  have hdb : Reachable (HashOrder.insertion String) YamlCpp.textless
      (DataBase.empty.addAll (HashOrder.insertion String) sampleCalls) :=
    Reachable.empty.addAll YamlCpp.coversStringMaps_textless _
  ⟨(providePackets_failure hdb ["a_t", "c_t"]).1.mpr
      ⟨"c_t", by decide, fun packName h => by
        have : packName ∈ ([] : List String) := h
        simp at this⟩,
    ((providePackets_failure hdb ["a_t", "b_t"]).2 (by
      intro dataName hmem
      simp only [List.mem_cons, List.not_mem_nil, or_false] at hmem
      rcases hmem with rfl | rfl
      · exact ⟨"P1_node", by decide⟩
      · exact ⟨"P3_node", by decide⟩)).2⟩

/-! ## Coverage -/

/-- A name with one entry is always covered: its packet is selected in the first loop. -/
theorem selected_of_only {db : DataBase} {requestedData : List String} {dataName : String}
    (hmem : dataName ∈ requestedData) {entry : String × BoolPtr}
    (honly : db.providers dataName = [entry]) : db.Selected requestedData entry.2 :=
  Or.inr (Or.inl ⟨dataName, hmem, by simp [clauseOf, honly]⟩)

/-- Being covered, read through the pointers. -/
theorem covered_iff {db : DataBase} (hdb : db.Valid) {order : HashOrder String}
    {requestedData : List String} (hfound : ¬ db.Rejects requestedData) (dataName : String) :
    (∃ packName ∈ (db.providePackets order requestedData).1, db.Offers dataName packName) ↔
      ∃ entry ∈ db.providers dataName, db.Selected requestedData entry.2 := by
  have hanswer := (providePackets_accepts order hfound).1
  constructor
  · rintro ⟨packName, hmem, hoffers⟩
    obtain ⟨entry, hentry, rfl⟩ := List.mem_map.mp hoffers
    obtain ⟨ptr, hptr, hselected⟩ := (hanswer _).mp hmem
    have heq : ptr = entry.2 := packOf_injective hptr (hdb.pointsTo dataName entry hentry)
    exact ⟨entry, hentry, heq ▸ hselected⟩
  · rintro ⟨entry, hentry, hselected⟩
    exact ⟨entry.1, (hanswer _).mpr ⟨entry.2, hdb.pointsTo dataName entry hentry, hselected⟩,
      List.mem_map_of_mem hentry⟩

/-- **When an answer covers its request**: exactly when every requested name with several
entries lists a packet that is selected anyway, because its flag was already up, because it
is the only entry of some requested name, or because it is the first entry of the first
requested name with several. -/
theorem providePackets_covers_iff {order : HashOrder String} {yaml : YamlCpp} {db : DataBase}
    (hdb : Reachable order yaml db) (requestedData : List String)
    (hok : (db.providePackets order requestedData).1 ≠ [notFound]) :
    (∀ dataName ∈ requestedData,
      ∃ packName ∈ (db.providePackets order requestedData).1, db.Offers dataName packName) ↔
    ∀ dataName ∈ requestedData, 1 < (db.providers dataName).length →
      ∃ entry ∈ db.providers dataName, db.Selected requestedData entry.2 := by
  have hfound : ¬ db.Rejects requestedData :=
    fun hnone => hok ((answer_eq_notFound_iff hdb.valid order requestedData).mpr hnone)
  constructor
  · exact fun hall dataName hmem _ => (covered_iff hdb.valid hfound dataName).mp (hall dataName hmem)
  · intro hall dataName hmem
    rw [covered_iff hdb.valid hfound]
    by_cases hmany : 1 < (db.providers dataName).length
    · exact hall dataName hmem hmany
    · have hne : db.providers dataName ≠ [] := fun h => hfound ⟨dataName, hmem, h⟩
      have hlen := List.length_pos_iff.mpr hne
      obtain ⟨entry, hentry⟩ := List.length_eq_one_iff.mp (by omega :
        (db.providers dataName).length = 1)
      exact ⟨entry, by simp [hentry], selected_of_only hmem hentry⟩

theorem providePackets_covers_sample :
    let db := DataBase.empty.addAll (HashOrder.insertion String) sampleCalls
    ∀ dataName ∈ ["a_t", "b_t"],
      ∃ packName ∈ (db.providePackets (HashOrder.insertion String) ["a_t", "b_t"]).1,
        db.Offers dataName packName :=
  have hdb : Reachable (HashOrder.insertion String) YamlCpp.textless
      (DataBase.empty.addAll (HashOrder.insertion String) sampleCalls) :=
    Reachable.empty.addAll YamlCpp.coversStringMaps_textless _
  (providePackets_covers_iff hdb ["a_t", "b_t"] (by decide)).mpr (by decide)

/-- Two names with two providers each, no packet in common: the answer has one packet. -/
def disjointCalls : List AddCall :=
  [⟨UnorderedMap.empty.insert "a" "t", "node", "P1"⟩,
   ⟨UnorderedMap.empty.insert "a" "t", "node", "P2"⟩,
   ⟨UnorderedMap.empty.insert "b" "t", "node", "P3"⟩,
   ⟨UnorderedMap.empty.insert "b" "t", "node", "P4"⟩]

theorem providePackets_not_covering :
    ¬ ∀ (order : HashOrder String) (yaml : YamlCpp) (db : DataBase), Reachable order yaml db →
      ∀ requestedData : List String, (db.providePackets order requestedData).1 ≠ [notFound] →
        ∀ dataName ∈ requestedData,
          ∃ packName ∈ (db.providePackets order requestedData).1, db.Offers dataName packName := by
  intro hcovers
  have hdb : Reachable (HashOrder.insertion String) YamlCpp.textless
      (DataBase.empty.addAll (HashOrder.insertion String) disjointCalls) :=
    Reachable.empty.addAll YamlCpp.coversStringMaps_textless _
  have hb := hcovers _ _ _ hdb ["a_t", "b_t"] (by decide) "b_t" (by decide)
  exact absurd hb (by decide)

/-! ## Empty answers -/

section Empty

variable {db : DataBase} {requestedData : List String}

/-- A clause to search, and none that is empty: there is a first choice. -/
theorem exists_firstPtr (hne : db.formula requestedData ≠ [])
    (hempty : [] ∉ db.formula requestedData) :
    ∃ ptr dataName, firstPtr (db.formula requestedData) = some ptr ∧
      ptr ∈ db.clauseOf dataName := by
  obtain ⟨orClause, rest, hformula⟩ := List.exists_cons_of_ne_nil hne
  have hmem : orClause ∈ db.formula requestedData := by
    rw [hformula]
    exact List.mem_cons_self
  have hclause : orClause ≠ [] := fun h => hempty (h ▸ hmem)
  obtain ⟨ptr, ptrs, hcons⟩ := List.exists_cons_of_ne_nil hclause
  obtain ⟨dataName, _, hdata⟩ := List.mem_map.mp (List.mem_of_mem_filter hmem)
  refine ⟨ptr, dataName, ?_, ?_⟩
  · rw [hformula, hcons]
    rfl
  · rw [hdata, hcons]
    exact List.mem_cons_self

/-- A request for something selects a packet, unless it is rejected. -/
theorem exists_selected_of_mem (hdb : db.Valid) {dataName : String}
    (hmem : dataName ∈ requestedData) (hfound : ¬ db.Rejects requestedData) :
    ∃ ptr packName, db.packOf ptr = some packName ∧ db.Selected requestedData ptr := by
  by_cases hlen : (db.clauseOf dataName).length = 1
  · obtain ⟨ptr, honly⟩ := List.length_eq_one_iff.mp hlen
    have hptr : ptr ∈ db.clauseOf dataName := by
      rw [honly]
      exact List.mem_cons_self
    obtain ⟨packName, hpack, _⟩ := hdb.packOf_of_mem_clauseOf hptr
    exact ⟨ptr, packName, hpack, .inr (.inl ⟨dataName, hmem, honly⟩)⟩
  · -- the name is a clause of the formula
    have hclause : db.clauseOf dataName ∈ db.formula requestedData := by
      simp only [formula, List.mem_filter, List.mem_map]
      exact ⟨⟨dataName, hmem, rfl⟩, by simpa using hlen⟩
    obtain ⟨ptr, other, hfirst, hptr⟩ :=
      exists_firstPtr (List.ne_nil_of_mem hclause) (mt nil_mem_formula_iff.mp hfound)
    obtain ⟨packName, hpack, _⟩ := hdb.packOf_of_mem_clauseOf hptr
    exact ⟨ptr, packName, hpack, .inr (.inr hfirst)⟩

/-- **Which answers are empty**: that of the empty request, while no flag is up. -/
theorem answer_ne_nil_iff (hdb : db.Valid) (order : HashOrder String) :
    (db.providePackets order requestedData).1 ≠ [] ↔ requestedData ≠ [] ∨
      ∃ ptr packName, db.packOf ptr = some packName ∧ db.flags ptr = true := by
  by_cases hrejects : db.Rejects requestedData
  · rw [(providePackets_rejects order hrejects).1]
    obtain ⟨dataName, hmem, -⟩ := hrejects
    exact iff_of_true (by simp) (.inl (List.ne_nil_of_mem hmem))
  · have hanswer := (providePackets_accepts order hrejects).1
    constructor
    · intro hne
      obtain ⟨packName, hmem⟩ := List.exists_mem_of_ne_nil _ hne
      obtain ⟨ptr, hptr, hselected⟩ := (hanswer packName).mp hmem
      rw [or_iff_not_imp_left, not_not]
      intro hempty
      rw [hempty] at hselected
      rcases hselected with hup | ⟨_, hmem, _⟩ | hfirst
      · exact ⟨ptr, packName, hptr, hup⟩
      · simp at hmem
      · simp [formula, firstPtr] at hfirst
    · intro hor
      have hselected : ∃ ptr packName, db.packOf ptr = some packName ∧
          db.Selected requestedData ptr := by
        rcases hor with hne | ⟨ptr, packName, hptr, hup⟩
        · obtain ⟨dataName, hmem⟩ := List.exists_mem_of_ne_nil _ hne
          exact exists_selected_of_mem hdb hmem hrejects
        · exact ⟨ptr, packName, hptr, .inl hup⟩
      obtain ⟨ptr, packName, hptr, hsel⟩ := hselected
      exact List.ne_nil_of_mem ((hanswer packName).mpr ⟨ptr, hptr, hsel⟩)

end Empty

end DataBase

end ComuFrame
