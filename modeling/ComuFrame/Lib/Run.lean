import Mathlib.Data.List.Basic

/-!
# Runs of a labelled step function

`step s e = some s'` says that event `e` is possible in `s` and leads to `s'`. A `Run` is a
finite sequence of such steps; its parameter `ok` restricts which events may be taken in
which states, so that a property that needs a side condition on every step is a property
of the runs with that `ok`, and `fun _ _ => True` gives all runs.

* `Run.induction` — what holds initially and is kept by every allowed step holds in every
  state reached; the step case may use the run so far, hence every invariant proved earlier.
* `Run.of_exec` — an executed event list is a run: concrete runs are found by evaluation.
* `Run.eachStep_snoc` — what is said of each step of a run is said of one more step at its end.
* `Run.outputs_snoc` — what a run puts out is what each of its steps puts out, in order.
* `Run.conserved` — a queue with which no step loses, repeats or reorders anything holds what
  has been put in and not yet been taken out.
-/

namespace Transition

variable {σ ε : Type}

/-- The events `es` lead from `s₀` to the last argument, each one allowed by `ok` in the
state it was taken in. -/
inductive Run (step : σ → ε → Option σ) (ok : σ → ε → Prop) (s₀ : σ) : List ε → σ → Prop where
  | nil : Run step ok s₀ [] s₀
  | snoc {es : List ε} {s s' : σ} {e : ε}
      (hrun : Run step ok s₀ es s) (hok : ok s e) (hstep : step s e = some s') :
      Run step ok s₀ (es ++ [e]) s'

/-- Every event is allowed. -/
abbrev Always : σ → ε → Prop := fun _ _ => True

/-- Reachable by some unrestricted run. -/
def Reachable (step : σ → ε → Option σ) (s₀ s : σ) : Prop :=
  ∃ es, Run step Always s₀ es s

variable {step : σ → ε → Option σ} {ok ok' : σ → ε → Prop} {s₀ s : σ} {es : List ε}

/-- **The invariant rule.** -/
theorem Run.induction {I : σ → Prop} (hinit : I s₀)
    (hstep : ∀ {es s e s'}, Run step ok s₀ es s → I s → ok s e → step s e = some s' → I s')
    (hrun : Run step ok s₀ es s) : I s := by
  induction hrun with
  | nil => exact hinit
  | snoc hrun hok hs ih => exact hstep hrun ih hok hs

theorem Run.mono (himp : ∀ s e, ok s e → ok' s e) (hrun : Run step ok s₀ es s) :
    Run step ok' s₀ es s := by
  induction hrun with
  | nil => exact .nil
  | snoc _ hok hs ih => exact .snoc ih (himp _ _ hok) hs

/-- Forgetting the side condition. -/
theorem Run.reachable (hrun : Run step ok s₀ es s) : Reachable step s₀ s :=
  ⟨es, hrun.mono fun _ _ _ => trivial⟩

theorem Reachable.induction {I : σ → Prop} (hinit : I s₀)
    (hstep : ∀ {s e s'}, Reachable step s₀ s → I s → step s e = some s' → I s')
    (hreach : Reachable step s₀ s) : I s := by
  obtain ⟨es, hrun⟩ := hreach
  exact hrun.induction hinit fun hrun hI _ hs => hstep hrun.reachable hI hs

theorem Reachable.refl : Reachable step s₀ s₀ := ⟨[], .nil⟩

theorem Reachable.snoc {s' : σ} {e : ε} (hreach : Reachable step s₀ s)
    (hstep : step s e = some s') : Reachable step s₀ s' := by
  obtain ⟨es, hrun⟩ := hreach
  exact ⟨es ++ [e], hrun.snoc trivial hstep⟩

/-! ## Executing a list of events -/

section Exec

variable (step ok) [∀ s e, Decidable (ok s e)]

/-- Take the events one by one, stopping where one is impossible or not allowed. -/
def exec (s : σ) : List ε → Option σ
  | [] => some s
  | e :: es => if ok s e then (step s e).bind fun s' => exec s' es else none

variable {step ok}

theorem Run.of_exec_from {pre : List ε} {s s' : σ} (hrun : Run step ok s₀ pre s)
    (es : List ε) (hexec : exec step ok s es = some s') : Run step ok s₀ (pre ++ es) s' := by
  induction es generalizing pre s with
  | nil =>
    simp only [exec, Option.some.injEq] at hexec
    subst hexec
    simpa using hrun
  | cons e es ih =>
    simp only [exec, Option.ite_none_right_eq_some] at hexec
    obtain ⟨hok, hexec⟩ := hexec
    obtain ⟨t, ht, hrest⟩ := Option.bind_eq_some_iff.mp hexec
    simpa using ih (hrun.snoc hok ht) hrest

/-- A list of events that executes is a run, and what is read off its end holds there. -/
theorem Run.of_exec {β : Type} {f : σ → β} {b : β}
    (hexec : (exec step ok s₀ es).map f = some b) : ∃ s, Run step ok s₀ es s ∧ f s = b := by
  obtain ⟨s, hs, hb⟩ := Option.map_eq_some_iff.mp hexec
  exact ⟨s, by simpa using Run.of_exec_from .nil es hs, hb⟩

end Exec

/-! ## What each step of a run does -/

section EachStep

variable (step) (P : σ → ε → σ → Prop)

/-- Every step that the events take, one after the other, has `P`. -/
def EachStep (s : σ) : List ε → Prop
  | [] => True
  | e :: es => ∀ s', step s e = some s' → P s e s' ∧ EachStep s' es

variable {step}

/-- A run, and what follows it. -/
theorem Run.eachStep_append (hrun : Run step ok s₀ es s) (es' : List ε) :
    EachStep step P s₀ (es ++ es') ↔ EachStep step P s₀ es ∧ EachStep step P s es' := by
  induction hrun generalizing es' with
  | nil => simp [EachStep]
  | snoc hrun hok hstep ih =>
    rw [List.append_assoc, ih, ih, and_assoc]
    simp [EachStep, hstep]

/-- One more step. -/
theorem Run.eachStep_snoc {s' : σ} {e : ε} (hrun : Run step ok s₀ es s)
    (hstep : step s e = some s') :
    EachStep step P s₀ (es ++ [e]) ↔ EachStep step P s₀ es ∧ P s e s' := by
  rw [hrun.eachStep_append P [e]]
  simp [EachStep, hstep]

end EachStep

/-! ## What a run puts out -/

section Outputs

variable {α : Type} (step) (out : σ → ε → List α)

/-- The outputs of the events, one after the other, each in the state it is taken in. -/
def outputs (s : σ) : List ε → List α
  | [] => []
  | e :: es => out s e ++ ((step s e).elim [] fun s' => outputs s' es)

variable {step}

/-- A run, and what follows it. -/
theorem Run.outputs_append (hrun : Run step ok s₀ es s) (es' : List ε) :
    outputs step out s₀ (es ++ es') = outputs step out s₀ es ++ outputs step out s es' := by
  induction hrun generalizing es' with
  | nil => rfl
  | snoc hrun hok hstep ih =>
    rw [List.append_assoc, ih, ih, List.append_assoc]
    congr 1
    simp [outputs, hstep]

/-- One more step. -/
theorem Run.outputs_snoc (hrun : Run step ok s₀ es s) (e : ε) :
    outputs step out s₀ (es ++ [e]) = outputs step out s₀ es ++ out s e := by
  rw [hrun.outputs_append out [e]]
  congr 1
  cases hstep : step s e with
  | none => simp [outputs, hstep]
  | some s' => simp [outputs, hstep]

/-- Outputs that depend on the event alone. -/
theorem Run.outputs_event (f : ε → List α) (hrun : Run step ok s₀ es s) :
    outputs step (fun _ => f) s₀ es = es.flatMap f := by
  induction hrun with
  | nil => rfl
  | snoc hrun hok hstep ih => rw [hrun.outputs_snoc, ih, List.flatMap_append, List.flatMap_singleton]

/-- **The queue rule.** If what a step puts in comes behind the queue, and what it takes out
comes off its head, then so it is for a run. -/
theorem Run.conserved (put take : σ → ε → List α) (queue : σ → List α)
    (hqueue : ∀ {s e s'}, step s e = some s' → queue s ++ put s e = take s e ++ queue s')
    (hrun : Run step ok s₀ es s) :
    queue s₀ ++ outputs step put s₀ es = outputs step take s₀ es ++ queue s := by
  induction hrun with
  | nil => simp [outputs]
  | snoc hrun hok hstep ih =>
    rw [hrun.outputs_snoc, hrun.outputs_snoc, ← List.append_assoc, ih, List.append_assoc,
      hqueue hstep, List.append_assoc]

end Outputs

end Transition
