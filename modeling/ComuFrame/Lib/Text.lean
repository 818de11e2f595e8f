import Mathlib.Data.List.Basic
import Mathlib.Data.List.TakeWhile

/-!
# Text — C strings and separator-joined keys

Two things programs do to strings and rely on afterwards:

* compare them with `strcmp` on their `c_str()`, which reads up to the first NUL;
* glue two of them together around a separator and use the result as a key.

For the second, `join_inj_of_notMem` says when the pieces can be read back and
`exists_other_split` that they cannot in every other case.
-/

namespace Cpp

/-- What a C function sees of `s.c_str()`: the characters before the first NUL. -/
def cStr (s : String) : List Char := s.toList.takeWhile (fun c => c ≠ '\x00')

/-- `strcmp(a.c_str(), b.c_str()) == 0`. -/
def strcmpEq (a b : String) : Bool := cStr a == cStr b

@[simp] theorem strcmpEq_self (a : String) : strcmpEq a a = true := by
  simp [strcmpEq]

theorem cStr_eq_of_notMem {s : String} (h : '\x00' ∉ s.toList) : cStr s = s.toList := by
  rw [cStr, List.takeWhile_eq_self_iff]
  intro c hc
  rw [decide_eq_true_eq]
  rintro rfl
  exact h hc

/-- Without a NUL in either string, `strcmp` compares the whole strings. -/
theorem strcmpEq_iff {a b : String} (ha : '\x00' ∉ a.toList) (hb : '\x00' ∉ b.toList) :
    strcmpEq a b = true ↔ a = b := by
  rw [strcmpEq, beq_iff_eq, cStr_eq_of_notMem ha, cStr_eq_of_notMem hb]
  exact String.toList_inj

/-! ## Joined keys -/

section Join

variable {α : Type} {sep : α} {a b a' b' : List α}

/-- A separator that occurs in neither piece marks the only place to cut. -/
theorem join_inj_of_notMem (ha : sep ∉ a) (hb : sep ∉ b)
    (h : a' ++ sep :: b' = a ++ sep :: b) : a' = a ∧ b' = b := by
  obtain ⟨hfst, -, hsnd⟩ := (List.append_cons_inj_of_notMem ha hb).mp h.symm
  exact ⟨hfst.symm, hsnd.symm⟩

/-- Otherwise there is another cut, with a different first piece. -/
theorem exists_other_split (h : sep ∈ a ∨ sep ∈ b) :
    ∃ a' b', a' ++ sep :: b' = a ++ sep :: b ∧ a' ≠ a := by
  rcases h with ha | hb
  · obtain ⟨u, v, rfl⟩ := List.append_of_mem ha
    refine ⟨u, v ++ sep :: b, by simp, ?_⟩
    intro heq
    have hlen := congrArg List.length heq
    simp only [List.length_append, List.length_cons] at hlen
    omega
  · obtain ⟨u, v, rfl⟩ := List.append_of_mem hb
    refine ⟨a ++ sep :: u, v, by simp, ?_⟩
    intro heq
    have hlen := congrArg List.length heq
    simp only [List.length_append, List.length_cons] at hlen
    omega

end Join

end Cpp
