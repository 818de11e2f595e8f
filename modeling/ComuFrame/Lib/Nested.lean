import Mathlib.Algebra.BigOperators.Group.Finset.Basic
import Mathlib.Algebra.BigOperators.Intervals
import Mathlib.Algebra.Order.BigOperators.Ring.Finset
import Mathlib.Data.Nat.Factorial.Basic

/-!
# The cost of loops nested by recursion

A function that loops `width level` times and calls itself for the next level in every round,
down to a given depth, makes `calls width depth level` calls. The number is a sum of products
(`calls_eq`), one product for each level that is reached. Where the widths go down in steps of
`c` the last product is a factorial (`factorial_le_calls`).
-/

namespace Nested

/-- The calls of a recursion that goes `depth` levels down from `level`, the first included. -/
def calls (width : ℕ → ℕ) : ℕ → ℕ → ℕ
  | 0, _ => 1
  | depth + 1, level => 1 + width level * calls width depth (level + 1)

variable {width : ℕ → ℕ}

/-- Level by level. -/
theorem calls_eq (width : ℕ → ℕ) (depth level : ℕ) :
    calls width depth level
      = ∑ m ∈ Finset.range (depth + 1), ∏ i ∈ Finset.range m, width (level + i) := by
  induction depth generalizing level with
  | zero => simp [calls]
  | succ depth ih =>
    rw [calls, ih, Finset.sum_range_succ' _ (depth + 1), Finset.mul_sum, Nat.add_comm]
    congr 1
    apply Finset.sum_congr rfl
    intro m _
    rw [Finset.prod_range_succ', Nat.mul_comm]
    congr 1
    apply Finset.prod_congr rfl
    intro i _
    rw [show level + 1 + i = level + (i + 1) by omega]

/-- The calls of one level are among them. -/
theorem prod_le_calls {depth m : ℕ} (hm : m ≤ depth) (level : ℕ) :
    ∏ i ∈ Finset.range m, width (level + i) ≤ calls width depth level := by
  rw [calls_eq]
  exact Finset.single_le_sum (f := fun m => ∏ i ∈ Finset.range m, width (level + i))
    (fun _ _ => Nat.zero_le _) (Finset.mem_range.mpr (by omega))

theorem prod_steps (c n : ℕ) : ∏ i ∈ Finset.range n, c * (n - i) = c ^ n * n.factorial := by
  induction n with
  | zero => rfl
  | succ n ih =>
    rw [Finset.prod_range_succ']
    have hshift : ∏ i ∈ Finset.range n, c * (n + 1 - (i + 1)) = c ^ n * n.factorial := by
      rw [← ih]
      apply Finset.prod_congr rfl
      intro i _
      rw [show n + 1 - (i + 1) = n - i by omega]
    rw [hshift, Nat.factorial_succ, Nat.pow_succ, Nat.sub_zero]
    ring

/-- **Widths that go down step by step** make the number of calls a factorial at least. -/
theorem factorial_le_calls {c n depth : ℕ} (hn : n ≤ depth)
    (hwidth : ∀ i < n, c * (n - i) ≤ width i) : c ^ n * n.factorial ≤ calls width depth 0 := by
  rw [← prod_steps]
  refine le_trans (Finset.prod_le_prod' fun i hi => ?_) (prod_le_calls hn 0)
  rw [Nat.zero_add]
  exact hwidth i (Finset.mem_range.mp hi)

end Nested
