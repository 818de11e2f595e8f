import Mathlib.Data.List.Nodup
import Mathlib.Data.List.Perm.Subperm

/-!
# Entries listed under keys

A table that appends each `(entry, key)` of a log to the list it keeps under `key` lists under
every key what the log has for it, `under log key`. How the lists look follows from the log:
they are without duplicates exactly when the log is.
-/

namespace Listing

variable {α κ : Type}

/-- A list without duplicates has one element exactly when all its elements are the same. -/
theorem length_eq_one_iff_of_nodup {l : List α} (hl : l.Nodup) :
    l.length = 1 ↔ ∃ a ∈ l, ∀ other ∈ l, other = a := by
  constructor
  · intro hlen
    obtain ⟨a, ha⟩ := List.length_eq_one_iff.mp hlen
    refine ⟨a, by rw [ha]; exact List.mem_singleton_self a, fun other hother => ?_⟩
    rwa [ha, List.mem_singleton] at hother
  · intro ⟨a, ha, hall⟩
    have hsub : l.Subperm [a] := by
      apply List.subperm_of_subset hl
      intro other hother
      rw [hall other hother]
      exact List.mem_singleton_self a
    have hle := hsub.length_le
    have hpos := List.length_pos_of_mem ha
    rw [List.length_singleton] at hle
    omega

/-- Only one source has anything. -/
theorem flatMap_eq_of_single {β : Type} {l : List β} {f : β → List α} {b : β} (hl : l.Nodup)
    (hb : b ∈ l) (hnone : ∀ other, other ≠ b → f other = []) : l.flatMap f = f b := by
  obtain ⟨before, behind, rfl⟩ := List.append_of_mem hb
  rw [List.nodup_middle, List.nodup_cons, List.mem_append, not_or] at hl
  have hbefore : before.flatMap f = [] := by
    rw [List.flatMap_eq_nil_iff]
    exact fun other hother => hnone other fun heq => hl.1.1 (heq ▸ hother)
  have hbehind : behind.flatMap f = [] := by
    rw [List.flatMap_eq_nil_iff]
    exact fun other hother => hnone other fun heq => hl.1.2 (heq ▸ hother)
  rw [List.flatMap_append, List.flatMap_cons, hbefore, hbehind, List.nil_append, List.append_nil]

variable [DecidableEq κ]

/-- What `log` has for `key`, in order. -/
def under (log : List (α × κ)) (key : κ) : List α :=
  (log.filter fun e => e.2 = key).map Prod.fst

@[simp] theorem under_nil (key : κ) : under ([] : List (α × κ)) key = [] := rfl

theorem under_append (log log' : List (α × κ)) (key : κ) :
    under (log ++ log') key = under log key ++ under log' key := by
  simp [under]

theorem mem_under {log : List (α × κ)} {key : κ} {a : α} :
    a ∈ under log key ↔ (a, key) ∈ log := by
  simp [under]

/-- A log put together of the logs of several sources. -/
theorem under_flatMap {β : Type} (l : List β) (log : β → List (α × κ)) (key : κ) :
    under (l.flatMap log) key = l.flatMap fun b => under (log b) key := by
  simp [under, List.filter_flatMap, List.map_flatMap]

/-- The entries of one source, all the same. -/
theorem under_map_const {β : Type} (l : List β) (a : α) (f : β → κ) (key : κ) :
    under (l.map fun b => (a, f b)) key = (l.filter fun b => f b = key).map fun _ => a := by
  simp [under, List.filter_map, Function.comp_def]

/-- A duplicate in the log is a duplicate under its key, and the other way round. -/
theorem nodup_iff_under {log : List (α × κ)} : log.Nodup ↔ ∀ key, (under log key).Nodup := by
  constructor
  · intro hlog key
    apply List.Nodup.map_on _ (hlog.filter _)
    intro e he e' he' hfst
    have hkey := of_decide_eq_true (List.mem_filter.mp he).2
    have hkey' := of_decide_eq_true (List.mem_filter.mp he').2
    exact Prod.ext hfst (hkey.trans hkey'.symm)
  · intro hkeys
    induction log with
    | nil => exact List.nodup_nil
    | cons e log ih =>
      have hsub : ∀ key, (under log key).Sublist (under (e :: log) key) := by
        intro key
        exact ((List.sublist_cons_self e log).filter _).map _
      rw [List.nodup_cons]
      refine ⟨fun hmem => ?_, ih fun key => (hsub key).nodup (hkeys key)⟩
      have hhead : under (e :: log) e.2 = e.1 :: under log e.2 := by simp [under]
      have hnodup := hkeys e.2
      rw [hhead, List.nodup_cons] at hnodup
      exact hnodup.1 (mem_under.mpr hmem)

end Listing
