import Mathlib.Data.Finset.Card
import Mathlib.Data.Finset.SDiff

/-!
# Covering demands from a stock

`offers d a` says that the item `a` of a stock meets the demand `d`. A cover is a set of items
that meets every demand. An item that is the only one to meet some demand is in every cover, so
whether an answer made of such items and of some surplus can be beaten is a question about the
surplus alone: `card_le_covers_iff`.
-/

namespace Cover

variable {α δ : Type}

def Covers (offers : δ → α → Prop) (demands : List δ) (cover : Finset α) : Prop :=
  ∀ d ∈ demands, ∃ a ∈ cover, offers d a

/-- The only item for some demand. -/
def Sole (offers : δ → α → Prop) (demands : List δ) (a : α) : Prop :=
  ∃ d ∈ demands, ∀ b, offers d b → b = a

variable {offers : δ → α → Prop} {demands : List δ} {cover stock forced surplus : Finset α}

theorem Sole.mem {a : α} (h : Sole offers demands a) (hcover : Covers offers demands cover) :
    a ∈ cover := by
  obtain ⟨d, hd, honly⟩ := h
  obtain ⟨b, hb, hoffers⟩ := hcover d hd
  exact honly b hoffers ▸ hb

theorem not_covers_iff : ¬ Covers offers demands cover ↔ ∃ d ∈ demands, ∀ a ∈ cover, ¬ offers d a := by
  simp only [Covers, not_forall, not_exists, not_and, exists_prop]

/-- **No cover is smaller than `forced ∪ surplus`** exactly when no fewer items than the surplus
has are enough to complete the forced ones. -/
theorem card_le_covers_iff [DecidableEq α] (hsole : ∀ a ∈ forced, Sole offers demands a)
    (hdisjoint : Disjoint forced surplus) (hstock : forced ⊆ stock) :
    (∀ cover ⊆ stock, Covers offers demands cover → (forced ∪ surplus).card ≤ cover.card) ↔
      ∀ more ⊆ stock, more.card < surplus.card → ¬ Covers offers demands (forced ∪ more) := by
  have hcard : (forced ∪ surplus).card = forced.card + surplus.card :=
    Finset.card_union_of_disjoint hdisjoint
  constructor
  · intro hall more hmore hlt hcovers
    have hle := hall (forced ∪ more) (Finset.union_subset hstock hmore) hcovers
    have hunion := Finset.card_union_le forced more
    omega
  · intro hall cover hcover hcovers
    have hsubset : forced ⊆ cover := fun a ha => (hsole a ha).mem hcovers
    have hsplit := Finset.card_sdiff_add_card_eq_card hsubset
    by_contra hlt
    -- what a smaller cover has beside the forced items completes them
    apply hall (cover \ forced) (Finset.sdiff_subset.trans hcover)
    · omega
    · rwa [Finset.union_sdiff_of_subset hsubset]

end Cover
