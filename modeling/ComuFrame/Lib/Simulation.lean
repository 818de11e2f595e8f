import ComuFrame.Lib.Run

/-!
# Simulation between two labelled step functions

One system explains another if it can match every step of it: `label s e` lists the events it
takes when the other takes `e` in `s`, none if the step is not visible in it, and `R` relates
the states they are in.

* `Simulation.run` — a run of the first system is matched by a run of the second, whose events
  are the labels, in order.
-/

namespace Transition

variable {σ τ ε δ : Type} {step : σ → ε → Option σ} {ok : σ → ε → Prop} {s₀ s : σ}
  {step' : τ → δ → Option τ} {ok' : τ → δ → Prop} {t₀ : τ} {label : σ → ε → List δ}
  {R : σ → τ → Prop} {es : List ε}

/-- One run behind the other. -/
theorem Run.append {s' : σ} {es' : List ε} (hrun : Run step ok s₀ es s)
    (hrun' : Run step ok s es' s') : Run step ok s₀ (es ++ es') s' := by
  induction hrun' with
  | nil => rwa [List.append_nil]
  | snoc _ hok hstep ih =>
    rw [← List.append_assoc]
    exact ih.snoc hok hstep

/-- A single step. -/
theorem Run.one {e : ε} {s' : σ} (hok : ok s e) (hstep : step s e = some s') :
    Run step ok s [e] s' := .snoc .nil hok hstep

/-- The runs of the first system are matched by the second: each step may use the runs that have
led to it, and so the invariants of both systems. -/
structure Simulation (step : σ → ε → Option σ) (ok : σ → ε → Prop) (s₀ : σ)
    (step' : τ → δ → Option τ) (ok' : τ → δ → Prop) (t₀ : τ)
    (label : σ → ε → List δ) (R : σ → τ → Prop) : Prop where
  init : R s₀ t₀
  matched : ∀ {es s ds t e s'}, Run step ok s₀ es s → Run step' ok' t₀ ds t → R s t → ok s e →
    step s e = some s' → ∃ t', Run step' ok' t (label s e) t' ∧ R s' t'

/-- **The simulation rule.** -/
theorem Simulation.run (hsim : Simulation step ok s₀ step' ok' t₀ label R)
    (hrun : Run step ok s₀ es s) : ∃ t, Run step' ok' t₀ (outputs step label s₀ es) t ∧ R s t := by
  induction hrun with
  | nil => exact ⟨t₀, .nil, hsim.init⟩
  | snoc hrun hok hstep ih =>
    obtain ⟨t, hrun', hR⟩ := ih
    obtain ⟨t', hmatch, hR'⟩ := hsim.matched hrun hrun' hR hok hstep
    rw [hrun.outputs_snoc]
    exact ⟨t', hrun'.append hmatch, hR'⟩

end Transition
