import ComuFrame.DataBase.Index
import ComuFrame.DataBase.Search

/-!
# ComuFrame — what `providePackets` answers and what it leaves behind

The three loops of `providePackets`, put together: the first one is summarised by
`Collected`, the second by `deepen_accepts` and `deepen_rejects`, the third by
`mem_takenPacks`. The outcome depends on one question, whether some requested name has no
provider (`Rejects`):

* `providePackets_accepts` — no: the answer lists the packets that were already selected,
  the forced ones and the first choice of the search, and every flag is down afterwards;
* `providePackets_rejects` — yes: the answer is the error, and the flags keep what the first
  loop wrote, except behind the pointers the search visited.
-/

namespace ComuFrame

open Cpp

namespace DataBase

/-- The pointers `providePackets` reads for one requested name. -/
def clauseOf (db : DataBase) (dataName : String) : List BoolPtr :=
  (db.providers dataName).map Prod.snd

/-- The clauses that go to the search: one for each requested name that does not have
exactly one entry. -/
def formula (db : DataBase) (requestedData : List String) : List (List BoolPtr) :=
  (requestedData.map db.clauseOf).filter fun orClause => orClause.length ≠ 1

/-- The packet is the only entry of a requested name. -/
def Forced (db : DataBase) (requestedData : List String) (ptr : BoolPtr) : Prop :=
  ∃ dataName ∈ requestedData, db.clauseOf dataName = [ptr]

/-- Some requested name has no provider. -/
def Rejects (db : DataBase) (requestedData : List String) : Prop :=
  ∃ dataName ∈ requestedData, db.providers dataName = []

/-- The flag is up when an accepted request is answered. -/
def Selected (db : DataBase) (requestedData : List String) (ptr : BoolPtr) : Prop :=
  db.flags ptr = true ∨ db.Forced requestedData ptr
    ∨ firstPtr (db.formula requestedData) = some ptr

instance (db : DataBase) (requestedData : List String) : Decidable (db.Rejects requestedData) :=
  inferInstanceAs (Decidable (∃ dataName ∈ requestedData, _))

instance (db : DataBase) (requestedData : List String) (ptr : BoolPtr) :
    Decidable (db.Forced requestedData ptr) :=
  inferInstanceAs (Decidable (∃ dataName ∈ requestedData, _))

instance (db : DataBase) (requestedData : List String) (ptr : BoolPtr) :
    Decidable (db.Selected requestedData ptr) :=
  inferInstanceAs (Decidable (_ ∨ _ ∨ _))

/-- The pointers of a clause are those of packets that offer its name. -/
theorem Valid.packOf_of_mem_clauseOf {db : DataBase} (hdb : db.Valid) {dataName : String}
    {ptr : BoolPtr} (h : ptr ∈ db.clauseOf dataName) :
    ∃ packName, db.packOf ptr = some packName ∧ db.Offers dataName packName := by
  obtain ⟨entry, hentry, hptr⟩ := List.mem_map.mp h
  have hpack := hdb.pointsTo dataName entry hentry
  rw [hptr] at hpack
  exact ⟨entry.1, hpack, List.mem_map_of_mem hentry⟩

theorem nil_mem_formula_iff {db : DataBase} {requestedData : List String} :
    [] ∈ db.formula requestedData ↔ db.Rejects requestedData := by
  simp [formula, Rejects, clauseOf]

/-! ## The first loop -/

/-- What the rounds of the first loop for the names `requestedData` do to its variables. -/
structure Collected (st : Clauses) (requestedData : List String) (st' : Clauses) : Prop where
  keys : st'.db.avaiablePacks.keys = st.db.avaiablePacks.keys
  providers : ∀ dataName, st'.db.providers dataName = st.db.providers dataName
  andClause : st'.andClause = st.andClause ++ st.db.formula requestedData
  maxSize_le : st.maxSize ≤ st'.maxSize
  maxSize : ∀ orClause ∈ st.db.formula requestedData, orClause.length ≤ st'.maxSize
  flags : ∀ ptr packName, st.db.packOf ptr = some packName →
    (st'.db.flags ptr = true ↔ st.db.flags ptr = true ∨ st.db.Forced requestedData ptr)

theorem Collected.packOf {st st' : Clauses} {requestedData : List String}
    (h : Collected st requestedData st') (ptr : BoolPtr) :
    st'.db.packOf ptr = st.db.packOf ptr := by
  rw [DataBase.packOf, h.keys, DataBase.packOf]

theorem Collected.clauseOf {st st' : Clauses} {requestedData : List String}
    (h : Collected st requestedData st') : st'.db.clauseOf = st.db.clauseOf := by
  funext dataName
  rw [DataBase.clauseOf, h.providers, DataBase.clauseOf]

theorem Collected.nil (st : Clauses) : Collected st [] st where
  keys := rfl
  providers _ := rfl
  andClause := by simp [formula]
  maxSize_le := Nat.le_refl _
  maxSize orClause hmem := by simp [formula] at hmem
  flags ptr packName _ := by simp [Forced]

theorem Collected.append {st st' st'' : Clauses} {requestedData requestedData' : List String}
    (h : Collected st requestedData st') (h' : Collected st' requestedData' st'') :
    Collected st (requestedData ++ requestedData') st'' where
  keys := h'.keys.trans h.keys
  providers dataName := (h'.providers dataName).trans (h.providers dataName)
  andClause := by
    rw [h'.andClause, h.andClause, List.append_assoc]
    simp [formula, h.clauseOf]
  maxSize_le := Nat.le_trans h.maxSize_le h'.maxSize_le
  maxSize orClause hmem := by
    rw [formula, List.map_append, List.filter_append, List.mem_append] at hmem
    rcases hmem with hfst | hsnd
    · exact Nat.le_trans (h.maxSize orClause hfst) h'.maxSize_le
    · exact h'.maxSize orClause (by rwa [formula, h.clauseOf])
  flags ptr packName hptr := by
    rw [h'.flags ptr packName (by rwa [h.packOf]), h.flags ptr packName hptr, or_assoc]
    simp only [Forced, h.clauseOf, List.mem_append]
    constructor
    · rintro (h | ⟨d, hd, h⟩ | ⟨d, hd, h⟩)
      · exact Or.inl h
      · exact Or.inr ⟨d, Or.inl hd, h⟩
      · exact Or.inr ⟨d, Or.inr hd, h⟩
    · rintro (h | ⟨d, hd | hd, h⟩)
      · exact Or.inl h
      · exact Or.inr (Or.inl ⟨d, hd, h⟩)
      · exact Or.inr (Or.inr ⟨d, hd, h⟩)

/-- An inserted name reads the same as a missing one. -/
@[simp] theorem providers_subscriptIndex (db : DataBase) (data dataName : String) :
    (db.subscriptIndex data).providers dataName = db.providers dataName := by
  simp only [providers, subscriptIndex, UnorderedMap.find?_insert]
  split
  · next heq => rw [heq, Option.getD_some]
  · rfl

/-- A round whose name has one entry: the packet is selected, no clause is added. -/
theorem collectClause_only {st : Clauses} {data : String} {only : BoolPtr}
    (h : st.db.clauseOf data = [only]) :
    collectClause st data = { st with
      db := (st.db.subscriptIndex data).withFlags (Function.update st.db.flags only true) } := by
  have hclause : ((st.db.subscriptIndex data).providers data).map Prod.snd = [only] := by
    rw [providers_subscriptIndex]; exact h
  unfold collectClause
  simp only [providers] at hclause
  simp only [hclause]
  rfl

/-- A round whose name has no entry, or several. -/
theorem collectClause_clause {st : Clauses} {data : String}
    (h : (st.db.clauseOf data).length ≠ 1) :
    collectClause st data =
      { db := st.db.subscriptIndex data
        andClause := st.andClause ++ [st.db.clauseOf data]
        maxSize := if (st.db.clauseOf data).length > st.maxSize
          then (st.db.clauseOf data).length else st.maxSize } := by
  have hclause : ((st.db.subscriptIndex data).providers data).map Prod.snd
      = st.db.clauseOf data := by
    rw [providers_subscriptIndex]; rfl
  unfold collectClause
  simp only [providers] at hclause
  simp only [hclause]
  split
  · next only heq => simp [heq] at h
  · rfl

/-- One round. -/
theorem collected_collectClause (st : Clauses) (data : String) :
    Collected st [data] (collectClause st data) := by
  have hforced : ∀ ptr, st.db.Forced [data] ptr ↔ st.db.clauseOf data = [ptr] := by
    simp [Forced]
  by_cases hlen : (st.db.clauseOf data).length = 1
  · obtain ⟨only, honly⟩ := List.length_eq_one_iff.mp hlen
    have hformula : st.db.formula [data] = [] := by simp [formula, hlen]
    rw [collectClause_only honly]
    refine ⟨by simp [subscriptIndex], by simp, by simp [hformula], Nat.le_refl _,
      by simp [hformula], fun ptr packName hptr => ?_⟩
    have hptr' : (st.db.subscriptIndex data).packOf ptr = some packName := hptr
    rw [flags_withFlags hptr', hforced, honly, List.cons.injEq, eq_comm (a := only)]
    by_cases h : ptr = only
    · subst h; simp
    · simp [h]
  · have hformula : st.db.formula [data] = [st.db.clauseOf data] := by simp [formula, hlen]
    rw [collectClause_clause hlen]
    refine ⟨rfl, by simp, by simp [hformula], ?_, ?_, fun ptr packName _ => ?_⟩
    · simp only; split <;> omega
    · simp only [hformula, List.mem_singleton]
      rintro orClause rfl
      split <;> omega
    · have hnot : ¬ st.db.Forced [data] ptr := by
        rw [hforced]
        intro heq
        simp [heq] at hlen
      rw [or_iff_left hnot]
      rfl

theorem collected_foldl (requestedData : List String) (st : Clauses) :
    Collected st requestedData (requestedData.foldl collectClause st) := by
  induction requestedData generalizing st with
  | nil => exact .nil st
  | cons data rest ih =>
    simpa using (collected_collectClause st data).append (ih (collectClause st data))

/-! ## The last loop -/

/-- The names the last loop reads back: the packets whose flag is up. -/
def takenPacks (order : HashOrder String) (db : DataBase) : List String :=
  ((db.avaiablePacks.iterate order).filter Prod.snd).map Prod.fst

theorem mem_takenPacks {order : HashOrder String} {db : DataBase} {packName : String} :
    packName ∈ takenPacks order db ↔
      ∃ ptr, db.packOf ptr = some packName ∧ db.flags ptr = true := by
  rw [← mem_nodes_iff]
  simp [takenPacks]

theorem nodup_takenPacks (order : HashOrder String) (db : DataBase) :
    (takenPacks order db).Nodup :=
  (List.filter_sublist.map Prod.fst).nodup (db.avaiablePacks.iterate_keys_nodup order)

/-! ## The two outcomes -/

section Outcomes

variable (order : HashOrder String) {db : DataBase} {requestedData : List String}

/-- The call in terms of its first loop. -/
theorem providePackets_eq (db : DataBase) (requestedData : List String) :
    ∃ st, Collected ⟨db, [], 0⟩ requestedData st ∧
      st.andClause = db.formula requestedData ∧
      (∀ orClause ∈ db.formula requestedData, orClause.length ≤ st.maxSize) ∧
      db.providePackets order requestedData =
        let (found, flags) := deepen (db.formula requestedData) st.maxSize
          (List.range (db.formula requestedData).length) st.db.flags
        if found then
          (takenPacks order (st.db.withFlags flags), (st.db.withFlags flags).resetPackets)
        else ([notFound], st.db.withFlags flags) := by
  have hst := collected_foldl requestedData ⟨db, [], 0⟩
  have hand : (requestedData.foldl collectClause ⟨db, [], 0⟩).andClause
      = db.formula requestedData := hst.andClause
  refine ⟨_, hst, hand, hst.maxSize, ?_⟩
  rw [← hand]
  rfl

/-- **An accepted request.** -/
theorem providePackets_accepts (hfound : ¬ db.Rejects requestedData) :
    (∀ packName, packName ∈ (db.providePackets order requestedData).1 ↔
      ∃ ptr, db.packOf ptr = some packName ∧ db.Selected requestedData ptr) ∧
    (db.providePackets order requestedData).1.Nodup ∧
    (db.providePackets order requestedData).2.Unselected := by
  obtain ⟨st, hst, _, hmax, heq⟩ := providePackets_eq order db requestedData
  rw [deepen_accepts (fun h => hfound (nil_mem_formula_iff.mp h)) hmax] at heq
  rw [heq]
  refine ⟨fun packName => ?_, nodup_takenPacks _ _, unselected_resetPackets _⟩
  show packName ∈ takenPacks order _ ↔ _
  rw [mem_takenPacks]
  apply exists_congr
  intro ptr
  rw [packOf_withFlags, hst.packOf]
  apply and_congr_right
  intro hptr
  have hptr' : st.db.packOf ptr = some packName := by rwa [hst.packOf]
  rw [flags_withFlags hptr', Selected, ← or_assoc, ← hst.flags ptr packName hptr]
  split
  · next hfirst => simp [hfirst]
  · next hfirst => simp [hfirst]

/-- **A rejected request**: the flags the first loop raised stay up, except behind the
pointers of the formula, which the search has all written `false`. -/
theorem providePackets_rejects (hnone : db.Rejects requestedData) :
    (db.providePackets order requestedData).1 = [notFound] ∧
    ∀ ptr packName, db.packOf ptr = some packName →
      ((db.providePackets order requestedData).2.flags ptr = true ↔
        (db.flags ptr = true ∨ db.Forced requestedData ptr) ∧
          ∀ orClause ∈ db.formula requestedData, ptr ∉ orClause) := by
  obtain ⟨st, hst, _, hmax, heq⟩ := providePackets_eq order db requestedData
  rw [deepen_rejects (nil_mem_formula_iff.mpr hnone)] at heq
  rw [heq]
  refine ⟨rfl, fun ptr packName hptr => ?_⟩
  have hptr' : st.db.packOf ptr = some packName := by rwa [hst.packOf]
  show (st.db.withFlags _).flags ptr = true ↔ _
  rw [flags_withFlags hptr', ← hst.flags ptr packName hptr, clear]
  have hvisited : ptr ∈ cellPtrs _ _ ↔ _ := mem_cellPtrs_zero hmax
  split
  · next hmem =>
    obtain ⟨orClause, horClause, hin⟩ := hvisited.mp hmem
    simp only [Bool.false_eq_true, false_iff, not_and, not_forall]
    exact fun _ => ⟨orClause, horClause, not_not.mpr hin⟩
  · next hmem =>
    refine ⟨fun h => ⟨h, fun orClause horClause hin => ?_⟩, fun h => h.1⟩
    exact hmem (hvisited.mpr ⟨orClause, horClause, hin⟩)

/-- Either way a query leaves the packets and the index as they were, up to empty entries. -/
theorem providePackets_frame (db : DataBase) (requestedData : List String) :
    (db.providePackets order requestedData).2.avaiablePacks.keys = db.avaiablePacks.keys ∧
    ∀ dataName, (db.providePackets order requestedData).2.providers dataName
      = db.providers dataName := by
  obtain ⟨st, hst, _, _, heq⟩ := providePackets_eq order db requestedData
  rw [heq]
  simp only
  split
  · exact ⟨by simpa using hst.keys, fun dataName => hst.providers dataName⟩
  · exact ⟨by simpa using hst.keys, fun dataName => hst.providers dataName⟩

end Outcomes

/-! ## What stays -/

/-- Packets and index entries are only added. -/
structure Grows (db db' : DataBase) : Prop where
  keys : db.avaiablePacks.keys ⊆ db'.avaiablePacks.keys
  offers : ∀ {dataName packName}, db.Offers dataName packName → db'.Offers dataName packName

theorem Grows.refl (db : DataBase) : Grows db db := ⟨List.Subset.refl _, id⟩

theorem Grows.trans {db₁ db₂ db₃ : DataBase} (h : Grows db₁ db₂) (h' : Grows db₂ db₃) :
    Grows db₁ db₃ :=
  ⟨List.Subset.trans h.keys h'.keys, fun hoffers => h'.offers (h.offers hoffers)⟩

theorem grows_addFields (order : HashOrder String) (db : DataBase)
    (packToAdd : UnorderedMap String String) (sender name : String) :
    Grows db (db.addFields order packToAdd sender name) where
  keys _ hmem := (mem_keys_addFields order db packToAdd sender name).mpr (.inr hmem)
  offers hoffers := (offers_addFields order db packToAdd sender name).mpr (.inl hoffers)

theorem grows_providePackets (order : HashOrder String) (db : DataBase)
    (requestedData : List String) : Grows db (db.providePackets order requestedData).2 := by
  obtain ⟨hkeys, hproviders⟩ := providePackets_frame order db requestedData
  refine ⟨hkeys ▸ List.Subset.refl _, fun {dataName packName} hoffers => ?_⟩
  rw [Offers, hproviders]
  exact hoffers

/-! ## Reachable databases -/

theorem Valid.providePackets {db : DataBase} (hdb : db.Valid) (order : HashOrder String)
    (requestedData : List String) : (db.providePackets order requestedData).2.Valid :=
  hdb.congr (providePackets_frame order db requestedData).2
    (providePackets_frame order db requestedData).1

theorem Reachable.valid {order : HashOrder String} {yaml : YamlCpp} {db : DataBase}
    (h : Reachable order yaml db) : db.Valid := by
  induction h with
  | empty => exact valid_empty
  | addPacket _ hadd ih =>
    obtain ⟨packToAdd, _, rfl⟩ := addPacket_eq_some.mp hadd
    exact ih.addFields order packToAdd _ _
  | providePackets _ requestedData ih => exact ih.providePackets order requestedData

theorem Reachable.addFields {order : HashOrder String} {yaml : YamlCpp} {db : DataBase}
    (hcovers : yaml.CoversStringMaps) (h : Reachable order yaml db)
    (packToAdd : UnorderedMap String String) (sender name : String) :
    Reachable order yaml (db.addFields order packToAdd sender name) := by
  obtain ⟨YPack, hadd⟩ := exists_addPacket hcovers order db packToAdd sender name
  exact .addPacket h hadd

theorem Reachable.addAll {order : HashOrder String} {yaml : YamlCpp} {db : DataBase}
    (hcovers : yaml.CoversStringMaps) (h : Reachable order yaml db) (calls : List AddCall) :
    Reachable order yaml (db.addAll order calls) := by
  induction calls generalizing db with
  | nil => exact h
  | cons call calls ih => exact ih (h.addFields hcovers _ _ _)

end DataBase

end ComuFrame
