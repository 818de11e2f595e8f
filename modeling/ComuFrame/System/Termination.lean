import Mathlib.Algebra.Order.BigOperators.Group.Finset
import ComuFrame.Lib.Progress
import ComuFrame.Node.Progress
import ComuFrame.System.Registration

/-!
# ComuFrame — what can go on for ever

A Node sends its registration, its request and one "subscribed", and a registration more for
every timeout. So the number of messages Central receives of a Node is settled by its
timeouts (`messages_of_run`), and between two messages of Central the threads of a Node do a
bounded amount of work. Together: whatever the interleaving, a run that does not end has
timeouts without end (`timeouts_without_end`).

A message Central sends can bring any amount of work with it, one topic for every packet of an
answer. That is why the measure has two components: what Central can still receive goes first.
-/

namespace ComuFrame

open Cpp Transition

/-- A registration timeout elapses. -/
def Event.isTimeout {ι : Type} : Event ι → Bool
  | .act _ .timeout => true
  | _ => false

namespace System

variable {ι : Type} {D : Deployment ι} {order : HashOrder String} {yaml : YamlCpp}
  {s s' : System ι}

/-! ## What Central can still receive -/

/-- The registrations of Node `i` that are in the queue or still to be sent for the first time. -/
def registrations (s : System ι) (i : ι) : Nat :=
  ((s.up i).filter fun msg => !isSync msg).length + (s.node i).unregistered

/-- How many messages of Node `i` Central has not received, if no timeout elapses any more. -/
def toReceive (D : Deployment ι) (yaml : YamlCpp) (s : System ι) (i : ι) : Nat :=
  s.registrations i + (s.outstanding D yaml i).length

section Step

variable [DecidableEq ι]

theorem registrations_act (hinv : Inv D order yaml s) {j : ι} {action : NodeState.Action}
    (hstep : step D order yaml s (.act j action) = some s') (i : ι) :
    s.registrations i + (if i = j ∧ action = .timeout then 1 else 0) = s'.registrations i := by
  obtain ⟨⟨st, sent⟩, hact, rfl⟩ := Option.map_eq_some_iff.mp hstep
  have hunregistered := NodeState.unregistered_act (hinv.node j) hact
  unfold registrations
  by_cases hi : i = j
  · subst hi
    simp only [updateNode, Function.update_self, List.filter_append, List.length_append,
      true_and]
    omega
  · simp [updateNode, hi]

theorem toReceive_act (hinv : Inv D order yaml s) {j : ι} {action : NodeState.Action}
    (hstep : step D order yaml s (.act j action) = some s') (i : ι) :
    s.toReceive D yaml i + (if i = j ∧ action = .timeout then 1 else 0)
      = s'.toReceive D yaml i := by
  have hregistrations := registrations_act hinv hstep i
  cases step_steps hinv hstep with
  | act _ _ st sent hmove =>
    have hout : (s.updateNode j st sent).outstanding D yaml i = s.outstanding D yaml i :=
      outstanding_updateNode (NodeState.unsent_moves hmove) i
    unfold toReceive
    rw [hout, ← hregistrations]
    omega

theorem registrations_deliver (hinv : Inv D order yaml s) {j : ι}
    (hstep : step D order yaml s (.deliver j) = some s') (i : ι) :
    s'.registrations i = s.registrations i := by
  cases step_steps hinv hstep with
  | deliver _ msg rest st sent hdown hreceive =>
    have hunregistered := NodeState.unregistered_receives hreceive
    unfold registrations
    by_cases hi : i = j
    · subst hi
      simp only [updateNode, Function.update_self, List.filter_append, List.length_append]
      omega
    · simp [updateNode, hi]

theorem toReceive_deliver (hinv : Inv D order yaml s) {j : ι}
    (hstep : step D order yaml s (.deliver j) = some s') (i : ι) :
    s'.toReceive D yaml i = s.toReceive D yaml i := by
  have hregistrations := registrations_deliver hinv hstep i
  cases step_steps hinv hstep with
  | deliver _ msg rest st sent hdown hreceive =>
    have hout : (s.updateNode j st sent).outstanding D yaml i = s.outstanding D yaml i :=
      outstanding_updateNode (NodeState.unsent_receives (hinv.node j) hreceive) i
    unfold toReceive
    rw [hregistrations]
    exact congrArg (fun out => s.registrations i + List.length out) hout

/-- What Central receives is a registration or was outstanding, and only one of them. -/
theorem registrations_central (hinv : Inv D order yaml s) {j : ι}
    (hstep : step D order yaml s (.central j) = some s') (i : ι) :
    s.registrations i + (s.taken i (.central j)).length
      = s'.registrations i + (if i = j then 1 else 0) := by
  cases step_steps hinv hstep with
  | central _ msgState data rest c sent hfault hup hmsgState hmove =>
    unfold registrations
    by_cases hi : i = j
    · subst hi
      simp only [taken, hup, if_true, Function.update_self, List.take_succ_cons, List.take_zero]
      cases hsync : isSync [msgState, data] with
      | true =>
        simp only [List.filter_cons, List.filter_nil, hsync, if_true, Bool.not_true,
          Bool.false_eq_true, if_false, List.length_singleton]
      | false =>
        simp only [List.filter_cons, List.filter_nil, hsync, Bool.not_false, if_true,
          Bool.false_eq_true, if_false, List.length_nil, List.length_cons]
        omega
    · simp [taken, hi]

theorem toReceive_central (hinv : Inv D order yaml s) {j : ι}
    (hstep : step D order yaml s (.central j) = some s') (i : ι) :
    s.toReceive D yaml i = s'.toReceive D yaml i + (if i = j then 1 else 0) := by
  have hregistrations := registrations_central hinv hstep i
  have hout := congrArg List.length (outstanding_steps hinv (step_steps hinv hstep) i)
  rw [List.length_append] at hout
  unfold toReceive
  omega

/-- **The budget of a Node**: a timeout adds to it, a message received by Central takes from
it, and nothing else changes it. -/
theorem toReceive_step (hinv : Inv D order yaml s) {e : Event ι}
    (hstep : step D order yaml s e = some s') (i : ι) :
    s.toReceive D yaml i + [e].count (.act i .timeout)
      = s'.toReceive D yaml i + [e].count (.central i) := by
  cases e with
  | act j action =>
    rw [← toReceive_act hinv hstep i, List.count_singleton, List.count_singleton]
    simp only [beq_iff_eq, reduceCtorEq, if_false, Nat.add_zero, Event.act.injEq]
    simp only [eq_comm (a := i)]
  | deliver j =>
    rw [← toReceive_deliver hinv hstep i, List.count_singleton, List.count_singleton]
    simp
  | central j =>
    rw [toReceive_central hinv hstep i, List.count_singleton, List.count_singleton]
    simp only [beq_iff_eq, reduceCtorEq, if_false, Nat.add_zero, Event.central.injEq]
    simp only [eq_comm (a := i)]

/-- What the threads of a Node have to do, and what is on its way to them. -/
def work (s : System ι) (i : ι) : Nat :=
  (s.node i).work + NodeState.queueWork (s.down i)

theorem work_act (hinv : Inv D order yaml s) {j : ι} {action : NodeState.Action}
    (hstep : step D order yaml s (.act j action) = some s') (haction : action ≠ .timeout) :
    s'.work j < s.work j ∧ ∀ i, i ≠ j → s'.work i = s.work i := by
  obtain ⟨⟨st, sent⟩, hact, rfl⟩ := Option.map_eq_some_iff.mp hstep
  have hlt := NodeState.work_moves (NodeState.act_moves (hinv.node j) hact)
    (NodeState.sent_of_awaitingAck haction hact)
  constructor
  · simp only [work, updateNode, Function.update_self]
    omega
  · intro i hi
    simp [work, updateNode, hi]

theorem work_deliver (hinv : Inv D order yaml s) {j : ι}
    (hstep : step D order yaml s (.deliver j) = some s') :
    s'.work j < s.work j ∧ ∀ i, i ≠ j → s'.work i = s.work i := by
  cases step_steps hinv hstep with
  | deliver j msg rest st sent hdown hreceive =>
    have hlt := NodeState.work_receives (hinv.node j) hreceive
    constructor
    · simp only [work, updateNode, hdown, Function.update_self, NodeState.queueWork]
      omega
    · intro i hi
      simp [work, updateNode, hi]

end Step

/-! ## The measure -/

section Measure

variable [Fintype ι]

/-- What Central can still receive, and what the Nodes can do without it. -/
def rank (D : Deployment ι) (yaml : YamlCpp) (s : System ι) : Nat × Nat :=
  (∑ i, s.toReceive D yaml i, ∑ i, s.work i)

/-- One Node has less to do, the others have not more. -/
theorem sum_lt_of_one {f g : ι → Nat} {j : ι} (hlt : f j < g j) (heq : ∀ i, i ≠ j → f i = g i) :
    ∑ i, f i < ∑ i, g i := by
  refine Finset.sum_lt_sum (fun i _ => ?_) ⟨j, Finset.mem_univ j, hlt⟩
  by_cases hi : i = j
  · exact hi ▸ hlt.le
  · exact (heq i hi).le

variable [DecidableEq ι]

theorem rank_lt (hinv : Inv D order yaml s) {e : Event ι} (he : e.isTimeout = false)
    (hstep : step D order yaml s e = some s') :
    Prod.Lex (· < ·) (· < ·) (s'.rank D yaml) (s.rank D yaml) := by
  rw [Prod.lex_def]
  cases e with
  | act j action =>
    have haction : action ≠ .timeout := by
      rintro rfl
      simp [Event.isTimeout] at he
    right
    constructor
    · refine Finset.sum_congr rfl fun i _ => ?_
      rw [← toReceive_act hinv hstep i, if_neg fun h => haction h.2, Nat.add_zero]
    · obtain ⟨hlt, heq⟩ := work_act hinv hstep haction
      exact sum_lt_of_one hlt heq
  | deliver j =>
    right
    constructor
    · exact Finset.sum_congr rfl fun i _ => toReceive_deliver hinv hstep i
    · obtain ⟨hlt, heq⟩ := work_deliver hinv hstep
      exact sum_lt_of_one hlt heq
  | central j =>
    left
    refine sum_lt_of_one (j := j) ?_ fun i hi => ?_
    · rw [toReceive_central hinv hstep j, if_pos rfl]
      exact Nat.lt_succ_self _
    · rw [toReceive_central hinv hstep i, if_neg hi, Nat.add_zero]

/-- Without timeouts every run comes to an end. -/
theorem reachable_terminates (hreach : Reachable D order yaml s) :
    Terminates (step D order yaml) (fun e => e.isTimeout = false) s := by
  have hwf : WellFounded (Prod.Lex (fun a b : Nat => a < b) (fun a b : Nat => a < b)) :=
    WellFounded.prod_lex Nat.lt_wfRel.wf Nat.lt_wfRel.wf
  refine terminates_of_measure hwf (rank D yaml) (I := Inv D order yaml) ?_ ?_
    (reachable_inv hreach)
  · rintro s s' hinv ⟨e, -, hstep⟩
    exact hinv.steps (step_steps hinv hstep)
  · rintro s s' hinv ⟨e, he, hstep⟩
    exact rank_lt hinv he hstep

/-- **What can go on for ever**: in an infinite run, from whatever state, registration timeouts
elapse again and again. -/
theorem timeouts_without_end {run : ℕ → System ι} {events : ℕ → Event ι}
    (hreach : Reachable D order yaml (run 0))
    (hsteps : ∀ n, step D order yaml (run n) (events n) = some (run (n + 1))) (start : ℕ) :
    ∃ n, start ≤ n ∧ ∃ i, events n = .act i .timeout := by
  have hall : ∀ n, Reachable D order yaml (run n) := by
    intro n
    induction n with
    | zero => exact hreach
    | succ n ih =>
      obtain ⟨es, hrun⟩ := ih
      exact ⟨_, hrun.snoc trivial (hsteps n)⟩
  obtain ⟨n, hle, hn⟩ := (reachable_terminates (hall start)).exists_not_ok hsteps
  refine ⟨n, hle, ?_⟩
  match hevent : events n, hn with
  | .act i .timeout, _ => exact ⟨i, rfl⟩

end Measure

/-- Where a Node awaits the ack its timeout can elapse, and it awaits the ack again. -/
theorem timeout_possible [DecidableEq ι] {i : ι} (hservice : (s.node i).service = .awaitingAck) :
    ∃ s', step D order yaml s (.act i .timeout) = some s' ∧
      (s'.node i).service = .awaitingAck := by
  refine ⟨s.updateNode i (s.node i) [(s.node i).strMSG (yaml.emit (D.config i).sendingPackets)],
    ?_, ?_⟩
  · simp [step, NodeState.act, NodeState.timeout, hservice]
  · simpa [updateNode] using hservice

/-- A Node alone, which Central never hears of. -/
theorem timeouts_without_end_sample :
    ∃ (run : ℕ → System Bool) (events : ℕ → Event Bool),
      (∀ n, sampleStep 2 (run n) (events n) = some (run (n + 1))) ∧
      ∀ start, ∃ n, start ≤ n ∧ ∃ i, events n = .act i .timeout := by
  obtain ⟨s, hrun, hservice⟩ : ∃ s, Run (sampleStep 2) Always (init (sampleDeployment 2))
      [.act false .boot] s ∧ (s.node false).service = .awaitingAck := Run.of_exec (by decide)
  let next (s : System Bool) : System Bool := (sampleStep 2 s (.act false .timeout)).getD s
  have hstep (s : System Bool) (h : (s.node false).service = .awaitingAck) :
      sampleStep 2 s (.act false .timeout) = some (next s) ∧
        ((next s).node false).service = .awaitingAck := by
    obtain ⟨s', hs', hservice'⟩ :
        ∃ s', sampleStep 2 s (.act false .timeout) = some s' ∧
          (s'.node false).service = .awaitingAck := timeout_possible h
    have hnext : next s = s' := by simp [next, hs']
    exact ⟨hnext ▸ hs', hnext ▸ hservice'⟩
  have hall (n : ℕ) : ((next^[n] s).node false).service = .awaitingAck := by
    induction n with
    | zero => exact hservice
    | succ n ih =>
      rw [Function.iterate_succ_apply']
      exact (hstep _ ih).2
  have hsteps (n : ℕ) :
      sampleStep 2 (next^[n] s) (.act false .timeout) = some (next^[n + 1] s) := by
    rw [Function.iterate_succ_apply']
    exact (hstep _ (hall n)).1
  exact ⟨fun n => next^[n] s, fun _ => .act false .timeout, hsteps,
    timeouts_without_end hrun.reachable hsteps⟩

end System

end ComuFrame
