import ComuFrame.Lib.Arrivals

/-!
# ComuFrame — the life-cycle state machine (`fsm.cpp`)

Every party, Central and each Node, owns one `Fsm`. Its state is what a party writes into
the first frame of the messages it sends, so `toString` is part of the wire format.

* `currState_after` — where any sequence of calls leads: along the life cycle, one state for each
  call of `nextState` and no further than `Freeze`, or to `Crash` and not out of it.
-/

namespace ComuFrame

inductive State where
  | Registration | Syncronization | SyncroComplete | Trimming | TrimmingComplete
  | Running | Freeze | Crash
  deriving DecidableEq, Repr

structure Fsm where
  currState : State
  deriving DecidableEq, Repr

namespace Fsm

/-- The constructor: every party starts in `Registration`. -/
def init : Fsm := ⟨.Registration⟩

def getCurrState (fsm : Fsm) : State := fsm.currState

def toString (fsm : Fsm) : String :=
  match fsm.currState with
  | .Registration => "registration"
  | .Syncronization => "syncronization"
  | .SyncroComplete => "syncroComplete"
  | .Trimming => "trimming"
  | .TrimmingComplete => "trimmingComplete"
  | .Running => "running"
  | .Freeze => "freeze"
  | .Crash => "crash"

/-- The returned flag says whether the state changed. -/
def crash (fsm : Fsm) : Bool × Fsm :=
  if fsm.currState = .Running ∨ fsm.currState = .Trimming then (true, ⟨.Crash⟩)
  else (false, fsm)

def nextState (fsm : Fsm) : Bool × Fsm :=
  match fsm.currState with
  | .Registration => (true, ⟨.Syncronization⟩)
  | .Syncronization => (true, ⟨.SyncroComplete⟩)
  | .SyncroComplete => (true, ⟨.Trimming⟩)
  | .Trimming => (true, ⟨.TrimmingComplete⟩)
  | .TrimmingComplete => (true, ⟨.Running⟩)
  | .Running => (true, ⟨.Freeze⟩)
  | .Freeze => (false, fsm)
  | .Crash => (false, fsm)

@[simp] theorem toString_init : init.toString = "registration" := rfl

@[simp] theorem toString_nextState_init : init.nextState.2.toString = "syncronization" := rfl

/-- The texts on the wire tell the states apart. -/
theorem toString_injective : Function.Injective toString := by
  rintro ⟨s⟩ ⟨t⟩ h
  cases s <;> cases t <;> first | rfl | exact absurd h (by decide)

/-! ## Sequences of calls -/

/-- One call on the object. -/
inductive Call where
  | nextState | crash
  deriving DecidableEq, Repr

/-- The object a call leaves. -/
def perform (fsm : Fsm) : Call → Fsm
  | .nextState => fsm.nextState.2
  | .crash => fsm.crash.2

/-- A new object after the calls. -/
def after (calls : List Call) : Fsm := calls.foldl perform init

/-- The states in the order in which `nextState` goes through them. -/
def lifeCycle : Nat → State
  | 0 => .Registration
  | 1 => .Syncronization
  | 2 => .SyncroComplete
  | 3 => .Trimming
  | 4 => .TrimmingComplete
  | 5 => .Running
  | _ => .Freeze

/-- No call of `crash` comes where it counts: behind three or five calls of `nextState`. -/
def Spared (calls : List Call) : Prop :=
  Arrivals.AtEach (fun before call =>
    call = .crash → before.count .nextState ≠ 3 ∧ before.count .nextState ≠ 5) calls

theorem after_snoc (calls : List Call) (call : Call) :
    after (calls ++ [call]) = (after calls).perform call :=
  List.foldl_append

theorem nextState_lifeCycle (n : Nat) :
    (Fsm.mk (lifeCycle n)).nextState.2 = ⟨lifeCycle (n + 1)⟩ := by
  match n with
  | 0 => rfl
  | 1 => rfl
  | 2 => rfl
  | 3 => rfl
  | 4 => rfl
  | 5 => rfl
  | _ + 6 => rfl

theorem crash_lifeCycle (n : Nat) :
    (Fsm.mk (lifeCycle n)).crash.2 = ⟨if n = 3 ∨ n = 5 then .Crash else lifeCycle n⟩ := by
  match n with
  | 0 => rfl
  | 1 => rfl
  | 2 => rfl
  | 3 => rfl
  | 4 => rfl
  | 5 => rfl
  | n + 6 =>
    rw [if_neg (by omega)]
    rfl

/-- Nothing leads out of `Crash`. -/
theorem perform_crashed (call : Call) : (Fsm.mk .Crash).perform call = ⟨.Crash⟩ := by
  cases call with
  | nextState => rfl
  | crash => rfl

/-- **Where the calls lead.** -/
theorem currState_after (calls : List Call) :
    (Spared calls → (after calls).currState = lifeCycle (calls.count .nextState)) ∧
    (¬ Spared calls → (after calls).currState = .Crash) := by
  induction calls using List.reverseRecOn with
  | nil => exact ⟨fun _ => rfl, fun h => absurd (Arrivals.atEach_nil _) h⟩
  | append_singleton calls call ih =>
    obtain ⟨hspared, hcrashed⟩ := ih
    rw [after_snoc, Spared, Arrivals.atEach_snoc]
    by_cases hbefore : Spared calls
    · have hafter : after calls = ⟨lifeCycle (calls.count .nextState)⟩ :=
        congrArg Fsm.mk (hspared hbefore)
      rw [hafter]
      cases call with
      | nextState =>
        refine ⟨fun _ => ?_, fun h => absurd ⟨hbefore, nofun⟩ h⟩
        rw [perform, nextState_lifeCycle, List.count_append]
        rfl
      | crash =>
        rw [perform, crash_lifeCycle, List.count_append]
        refine ⟨fun h => ?_, fun h => ?_⟩
        · have hlast := h.2 rfl
          exact if_neg (by omega)
        · refine if_pos (by_contra fun hother => h ⟨hbefore, fun _ => ?_⟩)
          omega
    · have hafter : after calls = ⟨.Crash⟩ := congrArg Fsm.mk (hcrashed hbefore)
      rw [hafter, perform_crashed]
      exact ⟨fun h => absurd h.1 hbefore, fun _ => rfl⟩

end Fsm

end ComuFrame
