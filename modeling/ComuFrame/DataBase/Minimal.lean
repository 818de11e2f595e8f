import ComuFrame.DataBase.Answers
import ComuFrame.Lib.Cover

/-!
# ComuFrame — is an answer as small as it could be?

Every packet that is the only entry of a requested name is in every set that provides the
request. What an answer has beyond those is its surplus: flags that were up already, and the
first choice of the search, which is made without asking what the forced packets provide.
`providePackets_minimal_iff` says when the surplus is needed.
-/

namespace ComuFrame

open Cpp Cover

namespace DataBase

/-- All packets of the database. -/
def packs (db : DataBase) : Finset String := db.avaiablePacks.keys.toFinset

/-- The packets that are the only entry of a requested name. -/
def forcedPacks (db : DataBase) (requestedData : List String) : Finset String :=
  db.packs.filter fun packName => db.Forced requestedData (db.flagOf packName)

/-- The other packets of an answer: their flag was up before, or they are the first entry of
the first requested name with several. -/
def surplusPacks (db : DataBase) (requestedData : List String) : Finset String :=
  db.packs.filter fun packName =>
    (db.flags (db.flagOf packName) = true ∨
      firstPtr (db.formula requestedData) = some (db.flagOf packName)) ∧
    ¬ db.Forced requestedData (db.flagOf packName)

/-- No fewer packets than the surplus has complete the forced ones: some requested name is left
without a provider. -/
def SurplusNeeded (db : DataBase) (requestedData : List String) : Prop :=
  ∀ more ⊆ db.packs, more.card < (db.surplusPacks requestedData).card →
    ∃ dataName ∈ requestedData, ∀ packName ∈ db.forcedPacks requestedData ∪ more,
      ¬ db.Offers dataName packName

variable {order : HashOrder String} {db : DataBase} {requestedData : List String}

theorem sole_of_mem_forcedPacks (hdb : db.Valid) {packName : String}
    (h : packName ∈ db.forcedPacks requestedData) :
    Sole db.Offers requestedData packName := by
  obtain ⟨hmem, dataName, hdata, honly⟩ := Finset.mem_filter.mp h
  refine ⟨dataName, hdata, fun other hoffers => ?_⟩
  obtain ⟨entry, hentry, hother⟩ := List.mem_map.mp hoffers
  have hptr : entry.2 ∈ db.clauseOf dataName := List.mem_map_of_mem hentry
  rw [honly, List.mem_singleton] at hptr
  have hpack := hdb.pointsTo dataName entry hentry
  rw [hptr] at hpack
  have hself : db.packOf (db.flagOf packName) = some packName :=
    packOf_eq_some_iff.mpr ⟨List.mem_toFinset.mp hmem, rfl⟩
  rw [← hother]
  exact Option.some.inj (hpack.symm.trans hself)

theorem disjoint_forced_surplus (db : DataBase) (requestedData : List String) :
    Disjoint (db.forcedPacks requestedData) (db.surplusPacks requestedData) := by
  rw [Finset.disjoint_left]
  intro packName hforced hsurplus
  exact (Finset.mem_filter.mp hsurplus).2.2 (Finset.mem_filter.mp hforced).2

/-- An accepted answer consists of the forced packets and the surplus. -/
theorem length_answer (hfound : ¬ db.Rejects requestedData) :
    (db.providePackets order requestedData).1.length
      = (db.forcedPacks requestedData ∪ db.surplusPacks requestedData).card := by
  obtain ⟨hanswer, hnodup, -⟩ := providePackets_accepts order hfound
  rw [← List.toFinset_card_of_nodup hnodup]
  congr 1
  ext packName
  rw [List.mem_toFinset, hanswer, Finset.mem_union, forcedPacks, surplusPacks,
    Finset.mem_filter, Finset.mem_filter, ← and_or_left, packs, List.mem_toFinset]
  simp only [packOf_eq_some_iff, and_assoc, exists_and_left, exists_eq_left]
  apply and_congr_right
  intro _
  rw [Selected]
  tauto

/-- Without flags left up the surplus is the first choice of the search at most. -/
theorem card_surplusPacks_le_one (hdb : db.Unselected) :
    (db.surplusPacks requestedData).card ≤ 1 := by
  apply Finset.card_le_one.mpr
  have hchosen : ∀ packName ∈ db.surplusPacks requestedData,
      packName ∈ db.avaiablePacks.keys ∧
        firstPtr (db.formula requestedData) = some (db.flagOf packName) := by
    intro packName hmem
    obtain ⟨hpack, hor, _⟩ := Finset.mem_filter.mp hmem
    refine ⟨List.mem_toFinset.mp hpack, hor.resolve_left ?_⟩
    rw [hdb]
    exact Bool.false_ne_true
  intro packName hmem other hother
  obtain ⟨hpack, hfirst⟩ := hchosen packName hmem
  obtain ⟨hpack', hfirst'⟩ := hchosen other hother
  exact (flagOf_inj hpack hpack').mp (Option.some.inj (hfirst.symm.trans hfirst'))

/-- Without flags left up: there is no surplus, or the forced packets leave a requested name
without a provider. -/
theorem surplusNeeded_iff_of_unselected (hdb : db.Unselected) :
    db.SurplusNeeded requestedData ↔ db.surplusPacks requestedData = ∅ ∨
      ∃ dataName ∈ requestedData, ∀ packName ∈ db.forcedPacks requestedData,
        ¬ db.Offers dataName packName := by
  constructor
  · intro hneeded
    rw [or_iff_not_imp_left]
    intro hsurplus
    have hpos := Finset.card_pos.mpr (Finset.nonempty_of_ne_empty hsurplus)
    have hnone := hneeded ∅ (Finset.empty_subset _) hpos
    rwa [Finset.union_empty] at hnone
  · intro hor more hmore hlt
    have hle : (db.surplusPacks requestedData).card ≤ 1 := card_surplusPacks_le_one hdb
    have hempty : more = ∅ := Finset.card_eq_zero.mp (by omega)
    rw [hempty, Finset.union_empty]
    apply hor.resolve_left
    intro hsurplus
    rw [hsurplus, Finset.card_empty] at hlt
    omega

/-- **When no smaller set of packets provides the request**: exactly when the forced packets
cannot be completed with fewer packets than the surplus has. With no flag up before, that is
where there is no surplus or where the forced packets leave a requested name without a
provider. -/
theorem providePackets_minimal_iff {yaml : YamlCpp} (hdb : Reachable order yaml db)
    (requestedData : List String)
    (hok : (db.providePackets order requestedData).1 ≠ [notFound]) :
    ((∀ cover ⊆ db.packs, (∀ dataName ∈ requestedData, ∃ packName ∈ cover,
        db.Offers dataName packName) →
      (db.providePackets order requestedData).1.length ≤ cover.card) ↔
      db.SurplusNeeded requestedData) ∧
    (db.Unselected → (db.SurplusNeeded requestedData ↔
      db.surplusPacks requestedData = ∅ ∨
        ∃ dataName ∈ requestedData, ∀ packName ∈ db.forcedPacks requestedData,
          ¬ db.Offers dataName packName)) := by
  refine ⟨?_, surplusNeeded_iff_of_unselected⟩
  have hfound : ¬ db.Rejects requestedData :=
    fun hnone => hok ((answer_eq_notFound_iff hdb.valid order requestedData).mpr hnone)
  rw [length_answer hfound]
  unfold SurplusNeeded
  simp only [← not_covers_iff]
  exact card_le_covers_iff (fun packName h => sole_of_mem_forcedPacks hdb.valid h)
    (disjoint_forced_surplus db requestedData) (Finset.filter_subset _ _)

/-- A forced packet, and one of two for the other name: two are needed. -/
theorem providePackets_minimal_sample :
    let db := DataBase.empty.addAll (HashOrder.insertion String) sampleCalls
    ∀ cover ⊆ db.packs, (∀ dataName ∈ ["a_t", "b_t"], ∃ packName ∈ cover,
        db.Offers dataName packName) →
      (db.providePackets (HashOrder.insertion String) ["a_t", "b_t"]).1.length ≤ cover.card :=
  have hdb : Reachable (HashOrder.insertion String) YamlCpp.textless
      (DataBase.empty.addAll (HashOrder.insertion String) sampleCalls) :=
    Reachable.empty.addAll YamlCpp.coversStringMaps_textless _
  have hdown := unselected_addAll unselected_empty (HashOrder.insertion String) sampleCalls
  have hminimal := providePackets_minimal_iff hdb ["a_t", "b_t"] (by decide)
  hminimal.1.mpr ((hminimal.2 hdown).mpr (.inr (by decide)))

/-- The packet of the second sender has both data, that of the first only one. -/
def wastedCalls : List AddCall :=
  [⟨UnorderedMap.empty.insert "aInt" "int", "fakeNode2", "PackTest3"⟩,
   ⟨(UnorderedMap.empty.insert "aInt" "int").insert "aDouble" "double", "fakeNode1",
     "PackTest1"⟩]

/-- The search adds the first entry of `aInt_int`, which the forced packet provides too. -/
theorem not_providePackets_minimal : ¬ ∀ (order : HashOrder String) (yaml : YamlCpp)
    (db : DataBase), Reachable order yaml db → ∀ requestedData : List String,
      (db.providePackets order requestedData).1 ≠ [notFound] →
        ∀ cover ⊆ db.packs, (∀ dataName ∈ requestedData, ∃ packName ∈ cover,
            db.Offers dataName packName) →
          (db.providePackets order requestedData).1.length ≤ cover.card := by
  intro hminimal
  have hdb : Reachable (HashOrder.insertion String) YamlCpp.textless
      (DataBase.empty.addAll (HashOrder.insertion String) wastedCalls) :=
    Reachable.empty.addAll YamlCpp.coversStringMaps_textless _
  have hle := hminimal _ _ _ hdb ["aInt_int", "aDouble_double"] (by decide)
    {"PackTest1_fakeNode1"} (by decide) (by decide)
  exact absurd hle (by decide)

end DataBase

end ComuFrame
