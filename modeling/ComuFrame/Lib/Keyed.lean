import Mathlib.Data.List.Basic

/-!
# Lists of records with different keys

A table that is only added to: `Keyed key` is a list of records in which every record has a
key and no two have the same, so that a table which breaks this cannot be built. `add`
appends a record whose key is new and drops any other.
-/

structure Keyed {ρ κ : Type} (key : ρ → Option κ) where
  records : List ρ
  keyed : ∀ r ∈ records, ∃ k, key r = some k
  unique : records.Pairwise fun r r' => key r ≠ key r'

namespace Keyed

variable {ρ κ : Type} {key : ρ → Option κ}

def empty : Keyed key := ⟨[], by simp, List.Pairwise.nil⟩

/-- A record has a key, and none of the table has the same one. -/
def New (t : Keyed key) (r : ρ) : Prop := (∃ k, key r = some k) ∧ key r ∉ t.records.map key

variable [DecidableEq κ]

instance (t : Keyed key) (r : ρ) : Decidable (t.New r) :=
  decidable_of_iff ((key r).isSome = true ∧ key r ∉ t.records.map key)
    (and_congr_left' Option.isSome_iff_exists)

def add (t : Keyed key) (r : ρ) : Keyed key :=
  if hnew : t.New r then
    { records := t.records ++ [r]
      keyed := by
        intro r' hr'
        rcases List.mem_append.mp hr' with hold | hlast
        · exact t.keyed r' hold
        · exact List.mem_singleton.mp hlast ▸ hnew.1
      unique := by
        refine List.pairwise_append.mpr ⟨t.unique, List.pairwise_singleton _ r, ?_⟩
        intro r' hold r'' hlast heq
        rw [List.mem_singleton.mp hlast] at heq
        exact hnew.2 (heq ▸ List.mem_map_of_mem hold) }
  else t

theorem records_add_of_new {t : Keyed key} {r : ρ} (hnew : t.New r) :
    (t.add r).records = t.records ++ [r] := by
  rw [add, dif_pos hnew]

theorem add_of_not_new {t : Keyed key} {r : ρ} (hnot : ¬ t.New r) : t.add r = t := by
  rw [add, dif_neg hnot]

/-- The records `rs`, one after the other. -/
def addAll (rs : List ρ) : Keyed key := rs.foldl add empty

@[simp] theorem addAll_nil : (addAll [] : Keyed key) = empty := rfl

theorem addAll_snoc (rs : List ρ) (r : ρ) :
    (addAll (rs ++ [r]) : Keyed key) = (addAll rs).add r := by
  rw [addAll, List.foldl_append]
  rfl

end Keyed
