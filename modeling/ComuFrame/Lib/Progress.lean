import Mathlib.Order.WellFounded
import ComuFrame.Lib.Run

/-!
# Termination and inevitability for a labelled step function

`ok` picks the events whose steps count. From a state that `Terminates` only finitely many of
them can be taken in a row, in whatever order; a state is `Inevitable` for a goal if every way
of taking them comes to the goal, and none of them stops short of it.

* `terminates_of_measure` — a measure that goes down with every step, on the states of an
  invariant;
* `Terminates.lift` — a terminating system inside another one, whose other steps a number counts;
* `Terminates.inevitable` — where steps terminate, a goal is inevitable once every state
  without a step is in it;
* `Terminates.exists_not_ok` — an infinite run has infinitely many other events.
-/

namespace Transition

variable {σ ε : Type}

section Definitions

variable (step : σ → ε → Option σ) (ok : ε → Prop)

/-- `s'` is one step behind `s`, by an event that counts. -/
def Next (s' s : σ) : Prop := ∃ e, ok e ∧ step s e = some s'

/-- No infinite sequence of steps starts in `s`. -/
abbrev Terminates (s : σ) : Prop := Acc (Next step ok) s

/-- Every way of taking steps from here comes to `goal`. -/
inductive Inevitable (goal : σ → Prop) : σ → Prop where
  | here {s : σ} (hgoal : goal s) : Inevitable goal s
  | next {s : σ} (hnext : ∃ s', Next step ok s' s)
      (hall : ∀ s', Next step ok s' s → Inevitable goal s') : Inevitable goal s

end Definitions

variable {step : σ → ε → Option σ} {ok : ε → Prop} {goal I : σ → Prop} {s : σ}

/-- **The measure rule.** -/
theorem terminates_of_measure {α : Type} {r : α → α → Prop} (hwf : WellFounded r) (μ : σ → α)
    (hkeep : ∀ {s s'}, I s → Next step ok s' s → I s')
    (hlt : ∀ {s s'}, I s → Next step ok s' s → r (μ s') (μ s)) (hI : I s) :
    Terminates step ok s := by
  -- induction on the value of the measure
  suffices h : ∀ a s, μ s = a → I s → Terminates step ok s from h (μ s) s rfl hI
  intro a
  induction a using hwf.induction with
  | h a ih =>
    rintro s rfl hI
    exact ⟨s, fun s' hnext => ih (μ s') (hlt hI hnext) s' rfl (hkeep hI hnext)⟩

/-- **The rule of inevitability.** -/
theorem Terminates.inevitable (hterm : Terminates step ok s)
    (hkeep : ∀ {s s'}, I s → Next step ok s' s → I s')
    (hstuck : ∀ {s}, I s → (∀ s', ¬ Next step ok s' s) → goal s) (hI : I s) :
    Inevitable step ok goal s := by
  induction hterm with
  | intro s _ ih =>
    by_cases hnext : ∃ s', Next step ok s' s
    · exact .next hnext fun s' h => ih s' h (hkeep hI h)
    · exact .here (hstuck hI fun s' h => hnext ⟨s', h⟩)

/-- What is reachable stays so. -/
theorem Reachable.next {s₀ s' : σ} (hreach : Reachable step s₀ s)
    (hnext : Next step ok s' s) : Reachable step s₀ s' := by
  obtain ⟨e, -, hstep⟩ := hnext
  exact hreach.snoc hstep

/-- The goal is reached where an invariant holds. -/
theorem Inevitable.exists_kept (h : Inevitable step ok goal s)
    (hkeep : ∀ {s s'}, I s → Next step ok s' s → I s') (hI : I s) : ∃ s', I s' ∧ goal s' := by
  induction h with
  | here hgoal => exact ⟨_, hI, hgoal⟩
  | next hnext _ ih =>
    obtain ⟨s', hs'⟩ := hnext
    exact ih s' hs' (hkeep hI hs')

/-- **The rule of two measures.** A system with another one inside terminates if its steps are
steps of the inner one, or leave that alone and make a number of their own smaller. -/
theorem Terminates.lift {τ δ : Type} {step' : τ → δ → Option τ} {ok' : δ → Prop} (inner : τ → σ)
    (μ : τ → ℕ)
    (hlift : ∀ {t t'}, Next step' ok' t' t →
      Next step ok (inner t') (inner t) ∨ inner t' = inner t ∧ μ t' < μ t)
    {t : τ} (hterm : Terminates step ok (inner t)) : Terminates step' ok' t := by
  generalize hs : inner t = s at hterm
  induction hterm generalizing t with
  | intro s _ ih =>
    -- the inner system stands still: induction on the number
    induction hn : μ t using Nat.strong_induction_on generalizing t with
    | h n ihn =>
      refine ⟨t, fun t' hnext => ?_⟩
      rcases hlift hnext with hinner | ⟨hinner, hlt⟩
      · exact ih (inner t') (hs ▸ hinner) rfl
      · exact ihn (μ t') (hn ▸ hlt) (hinner.trans hs) rfl

/-- Sooner or later an infinite run takes an event that does not count. -/
theorem Terminates.exists_not_ok {run : ℕ → σ} {events : ℕ → ε}
    (hsteps : ∀ n, step (run n) (events n) = some (run (n + 1))) {start : ℕ}
    (hterm : Terminates step ok (run start)) : ∃ n, start ≤ n ∧ ¬ ok (events n) := by
  generalize hs : run start = s at hterm
  induction hterm generalizing start with
  | intro s _ ih =>
    subst hs
    by_cases hok : ok (events start)
    · obtain ⟨n, hle, hn⟩ := ih _ ⟨_, hok, hsteps start⟩ rfl
      exact ⟨n, by omega, hn⟩
    · exact ⟨start, le_refl start, hok⟩

end Transition
