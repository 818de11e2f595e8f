import Mathlib.Data.List.Induction
import ComuFrame.Central.Rounds
import ComuFrame.Lib.Arrivals

/-!
# ComuFrame — which messages Central can take apart

A peer may put any frames behind its identity. The handlers of Central pop an identity, a
state and, on most of their branches, a third frame, without asking whether it is there;
Node's own loop over a message does ask. `Poppable` collects the branches that get by
without a third frame, and `run_fault_ne_emptyPop_iff` says that these and no others keep
the thread away from an empty message, whatever was sent before.
-/

namespace ComuFrame

open Cpp

namespace Central

variable {order : HashOrder String} {yaml : YamlCpp}

/-- The message has a third frame, or Central is in the registration loop and on a branch
that pops none: the sender is registered already, or does not name Central's state. -/
def Poppable (c : Central) : Multipart → Prop
  | sender :: msgState :: frames =>
    frames ≠ [] ∨ ∃ clients, c.phase = .registering clients ∧
      (sender ∈ clients ∨ msgState ≠ c.state.toString)
  | _ => False

/-! ## The handlers -/

section Handlers

variable {sender msgState : String} {frames : Multipart}

theorem registerRound_emptyPop_iff {state : Fsm} {db : DataBase} {clients : List String} :
    registerRound order yaml state db clients (sender :: msgState :: frames) = .error .emptyPop ↔
      frames = [] ∧ sender ∉ clients ∧ msgState = state.toString := by
  by_cases hmem : sender ∈ clients
  · simp [registerRound_of_mem hmem, hmem]
  by_cases hstate : msgState = state.toString
  · subst hstate
    cases frames with
    | nil => simp [registerRound_short hmem, hmem]
    | cons packets frames =>
      rw [registerRound_of_eq hmem]
      cases registered order yaml db sender packets <;> simp [Except.map]
  · simp [registerRound_of_ne hmem hstate, hstate]

theorem requestRound_emptyPop_iff {state : Fsm}
    {requestMap : UnorderedMap String (List String)} :
    requestRound yaml state requestMap (sender :: msgState :: frames) = .error .emptyPop ↔
      frames = [] := by
  cases frames with
  | nil => simp [requestRound_short]
  | cons data frames =>
    by_cases htake : msgState = state.toString ∧ requestMap.find? sender = none
    · obtain ⟨rfl, hnew⟩ := htake
      rw [requestRound_of_new hnew]
      cases (yaml.load data).bind (requestedNames yaml) <;> simp [Except.map]
    · simp [requestRound_discard htake]

theorem subscriptionRound_emptyPop_iff {state : Fsm}
    {connectedClients toCheckSubscriptions : List String} :
    subscriptionRound state connectedClients toCheckSubscriptions (sender :: msgState :: frames)
      = .error .emptyPop ↔ frames = [] := by
  cases frames with
  | nil => simp [subscriptionRound_short]
  | cons data frames => simp [subscriptionRound_eq]

end Handlers

/-! ## One message -/

theorem fault_registrationHead (c : Central) (clients : List String) :
    (registrationHead c clients).1.fault = c.fault := by
  unfold registrationHead
  split <;> rfl

section OnMessage

variable {c : Central} {msg : Multipart}

/-- The thread ends where its handler does, and for the same reason. -/
theorem onMessage_fault_registering {clients : List String} (hfault : c.fault = none)
    (hphase : c.phase = .registering clients) (fault : Fault) :
    (c.onMessage order yaml msg).1.fault = some fault ↔
      registerRound order yaml c.state c.db clients msg = .error fault := by
  unfold onMessage
  rw [hfault, hphase]
  cases hround : registerRound order yaml c.state c.db clients msg with
  | error fault' => simp [hround]
  | ok result => simp [hround, fault_registrationHead]

theorem onMessage_fault_collecting {requestMap : UnorderedMap String (List String)}
    (hfault : c.fault = none) (hphase : c.phase = .collecting requestMap) (fault : Fault) :
    (c.onMessage order yaml msg).1.fault = some fault ↔
      requestRound yaml c.state requestMap msg = .error fault := by
  unfold onMessage
  rw [hfault, hphase]
  cases hround : requestRound yaml c.state requestMap msg with
  | error fault' => simp [hround]
  | ok result =>
    cases result with
    | none => simp [hround, hfault]
    | some requestMap' =>
      simp only [hround]
      split <;> simp [answerRequests, hfault]

theorem onMessage_fault_subscribing {requestMap : UnorderedMap String (List String)}
    {toCheckSubscriptions : List String} (hfault : c.fault = none)
    (hphase : c.phase = .subscribing requestMap toCheckSubscriptions) (fault : Fault) :
    (c.onMessage order yaml msg).1.fault = some fault ↔
      subscriptionRound c.state c.connectedClients toCheckSubscriptions msg = .error fault := by
  unfold onMessage
  rw [hfault, hphase]
  cases hround : subscriptionRound c.state c.connectedClients toCheckSubscriptions msg with
  | error fault' => simp [hround]
  | ok result => simp [hround]

/-- **One message.** A thread still running pops from an empty message exactly when the
message is not `Poppable`. -/
theorem onMessage_emptyPop_iff (hfault : c.fault = none) (hlen : 2 ≤ msg.length) :
    (c.onMessage order yaml msg).1.fault = some .emptyPop ↔ ¬ c.Poppable msg := by
  obtain ⟨sender, msgState, frames, rfl⟩ : ∃ sender msgState frames,
      msg = sender :: msgState :: frames := by
    match msg, hlen with
    | sender :: msgState :: frames, _ => exact ⟨sender, msgState, frames, rfl⟩
  cases hphase : c.phase with
  | registering clients =>
    rw [onMessage_fault_registering hfault hphase, registerRound_emptyPop_iff]
    simp [Poppable, hphase]
  | collecting requestMap =>
    rw [onMessage_fault_collecting hfault hphase, requestRound_emptyPop_iff]
    simp [Poppable, hphase]
  | subscribing requestMap toCheckSubscriptions =>
    rw [onMessage_fault_subscribing hfault hphase, subscriptionRound_emptyPop_iff]
    simp [Poppable, hphase]

end OnMessage

/-! ## A sequence of messages -/

theorem run_snoc (c : Central) (msgs : List Multipart) (msg : Multipart) :
    c.run order yaml (msgs ++ [msg])
      = ((c.run order yaml msgs).onMessage order yaml msg).1 := by
  simp [run]

theorem run_of_fault {c : Central} {fault : Fault} (hfault : c.fault = some fault)
    (msgs : List Multipart) : c.run order yaml msgs = c := by
  induction msgs with
  | nil => rfl
  | cons msg msgs ih =>
    rw [run, List.foldl_cons, onMessage_of_fault hfault]
    exact ih

/-- `msgs` reaches the thread while it runs, each message one it can take apart. -/
def TakesApart (order : HashOrder String) (yaml : YamlCpp) (c : Central)
    (msgs : List Multipart) : Prop :=
  ∀ before msg after, msgs = before ++ msg :: after →
    (c.run order yaml before).fault = none → (c.run order yaml before).Poppable msg

theorem takesApart_snoc {c : Central} {msgs : List Multipart} {msg : Multipart} :
    TakesApart order yaml c (msgs ++ [msg]) ↔ TakesApart order yaml c msgs ∧
      ((c.run order yaml msgs).fault = none → (c.run order yaml msgs).Poppable msg) := by
  unfold TakesApart
  exact Arrivals.atEach_snoc

/-- The same from any state in which the thread has not popped an empty message yet. -/
theorem fault_run_iff {c : Central} (hstart : c.fault ≠ some .emptyPop)
    {msgs : List Multipart} (hlen : ∀ msg ∈ msgs, 2 ≤ msg.length) :
    (c.run order yaml msgs).fault ≠ some .emptyPop ↔ TakesApart order yaml c msgs := by
  induction msgs using List.reverseRecOn with
  | nil => simpa [run, TakesApart] using hstart
  | append_singleton msgs msg ih =>
    have ih := ih fun m hm => hlen m (List.mem_append_left _ hm)
    have hmsg := hlen msg (by simp)
    rw [run_snoc, takesApart_snoc, ← ih]
    cases hfault : (c.run order yaml msgs).fault with
    | none => simp [onMessage_emptyPop_iff hfault hmsg]
    | some fault => simp [onMessage_of_fault hfault, hfault]

/-- **Who survives.** Whatever the peers send, as long as each message has a frame behind
its identity: Central never pops from an empty message if and only if it could take apart
every message that reached it. -/
theorem run_fault_ne_emptyPop_iff (expectedClient : Nat) (msgs : List Multipart)
    (hlen : ∀ msg ∈ msgs, 2 ≤ msg.length) :
    ((init expectedClient).run order yaml msgs).fault ≠ some .emptyPop ↔
      TakesApart order yaml (init expectedClient) msgs :=
  fault_run_iff (by simp [init, fault_registrationHead]) hlen

/-- A repeated registration without its packets is one of the messages it can take apart. -/
theorem run_fault_ne_emptyPop_sample :
    let yaml := YamlCpp.documented (fun _ => "") fun _ => some .null
    let msgs := [["A", "registration", ""], ["A", "registration"]]
    (∀ msg ∈ msgs, 2 ≤ msg.length) ∧
    TakesApart (HashOrder.insertion String) yaml (init 2) msgs ∧
    ((init 2).run (HashOrder.insertion String) yaml msgs).fault ≠ some .emptyPop := by
  intro yaml msgs
  have hlen : ∀ msg ∈ msgs, 2 ≤ msg.length := by decide
  have hfault : ((init 2).run (HashOrder.insertion String) yaml msgs).fault ≠ some .emptyPop := by
    decide
  exact ⟨hlen, (run_fault_ne_emptyPop_iff 2 msgs hlen).mp hfault, hfault⟩

/-- A registration that stops behind its state ends the thread, in its first round. -/
theorem not_run_fault_ne_emptyPop :
    ¬ ∀ (order : HashOrder String) (yaml : YamlCpp) (expectedClient : Nat)
        (msgs : List Multipart), (∀ msg ∈ msgs, 2 ≤ msg.length) →
      ((init expectedClient).run order yaml msgs).fault ≠ some .emptyPop := by
  intro hsurvives
  exact hsurvives (HashOrder.insertion String) YamlCpp.textless 1
    [["A", "registration"]] (by decide) (by decide)

end Central

end ComuFrame
