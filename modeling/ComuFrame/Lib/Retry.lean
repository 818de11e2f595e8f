import Mathlib.Data.List.Basic

/-!
# Retry loops

An operation that may fail is attempted again, a bounded number of times. Each attempt starts
from the state the failed one left behind, which need not be the one it was given.

* `loop_fst_of_shrinks` — if every failure makes the state smaller, a loop with as many
  retries as the size of its first state ends with a success;
* `forall_traces` — what all attempts have in common, by an invariant of failures.
-/

namespace Retry

variable {σ τ : Type}

/-- What one attempt comes to: whether it succeeded, the state it leaves, and what it did. -/
structure Attempt (σ τ : Type) where
  ok : Bool
  state : σ
  trace : τ

/-- Whether the loop ended with a success, and what its attempts did, in order. -/
def loop (attempt : σ → Attempt σ τ) : Nat → σ → Bool × List τ
  | 0, s => ((attempt s).ok, [(attempt s).trace])
  | retries + 1, s =>
    if (attempt s).ok then (true, [(attempt s).trace])
    else
      let (ok, traces) := loop attempt retries (attempt s).state
      (ok, (attempt s).trace :: traces)

variable {attempt : σ → Attempt σ τ} {s : σ}

theorem loop_of_ok (h : (attempt s).ok = true) (retries : Nat) :
    loop attempt retries s = (true, [(attempt s).trace]) := by
  cases retries with
  | zero => rw [loop, h]
  | succ retries => rw [loop, if_pos h]

theorem loop_of_not_ok (h : (attempt s).ok = false) (retries : Nat) :
    loop attempt (retries + 1) s =
      ((loop attempt retries (attempt s).state).1,
        (attempt s).trace :: (loop attempt retries (attempt s).state).2) := by
  rw [loop, h]
  rfl

/-- Induction on the retries: without one left the state has size zero, and an attempt on it
cannot leave a smaller one. -/
theorem loop_fst_of_shrinks (size : σ → Nat)
    (hshrinks : ∀ s, (attempt s).ok = false → size (attempt s).state < size s) {retries : Nat}
    (hle : size s ≤ retries) : (loop attempt retries s).1 = true := by
  induction retries generalizing s with
  | zero =>
    cases hok : (attempt s).ok with
    | true => rw [loop_of_ok hok]
    | false =>
      have hsmaller := hshrinks s hok
      omega
  | succ retries ih =>
    cases hok : (attempt s).ok with
    | true => rw [loop_of_ok hok]
    | false =>
      have hsmaller := hshrinks s hok
      rw [loop_of_not_ok hok]
      exact ih (show size (attempt s).state ≤ retries by omega)

/-- What holds of every attempt from a state that failures preserve. -/
theorem forall_traces {P : σ → Prop} {Q : τ → Prop} (htrace : ∀ s, P s → Q (attempt s).trace)
    (hnext : ∀ s, P s → (attempt s).ok = false → P (attempt s).state) (hs : P s)
    (retries : Nat) : ∀ trace ∈ (loop attempt retries s).2, Q trace := by
  induction retries generalizing s with
  | zero =>
    show ∀ trace ∈ [(attempt s).trace], Q trace
    exact List.forall_mem_singleton.mpr (htrace s hs)
  | succ retries ih =>
    cases hok : (attempt s).ok with
    | true =>
      rw [loop_of_ok hok]
      exact List.forall_mem_singleton.mpr (htrace s hs)
    | false =>
      rw [loop_of_not_ok hok]
      exact List.forall_mem_cons.mpr ⟨htrace s hs, ih (hnext s hs hok)⟩

end Retry
