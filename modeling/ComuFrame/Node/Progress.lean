import ComuFrame.Node.Threads

/-!
# ComuFrame — how much the threads of a Node still have to do

Between two messages of Central the threads of a Node do a bounded amount of work: the notice
goes to the main thread, to the sub thread, through the subscribe loop and back. Only the
timeout of the service thread can elapse any number of times.

* `work_moves`, `work_receives` — `work` bounds the steps the threads can still take without
  Central: each of them takes some of it, and a message of Central brings a bounded amount;
* `OneNotice` — there is one notice from the filling of the subscriptions to the report, and
  none before and after;
* `Blocked.spec` — what a Node looks like that waits for Central.
-/

namespace ComuFrame

open Cpp

namespace NodeState

/-- The registration is still to be sent for the first time. -/
def unregistered (st : NodeState) : Nat := if st.service = .boot then 1 else 0

/-- A bound on the steps the threads can take without Central, timeouts apart. A notice that
has not reached the sub thread still has the subscribe loop before it. -/
def work (st : NodeState) : Nat :=
  st.unregistered + st.serviceToMain.length +
    st.serviceToMain.count (syncMSG "received subscriptions") * (st.subscriptions.length + 5) +
    st.mainToSub.length * (st.subscriptions.length + 5) +
    (match st.sub with
      | .subscribing topics => topics.length + 4
      | _ => 0) +
    2 * st.subToMain.length + st.mainToService.length

/-- The most that a message of Central can bring. -/
def messageWork (msg : Multipart) : Nat := msg.length + 7

/-- The most that the messages of a queue can bring. -/
def queueWork : List Multipart → Nat
  | [] => 0
  | msg :: rest => messageWork msg + queueWork rest

/-- One notice, from the filling of the subscriptions to the report. -/
def OneNotice (st : NodeState) : Prop :=
  st.started = if st.service.filled = true ∧ st.sub ≠ .reported then 1 else 0

theorem oneNotice_init : OneNotice NodeState.init := rfl

/-- Only a timeout sends anything from where the service thread awaits the ack. -/
theorem sent_of_awaitingAck {yaml : YamlCpp} {cfg : NodeConfig} {st st' : NodeState}
    {sent : List Multipart} {action : Action} (haction : action ≠ .timeout)
    (hstep : st.act yaml cfg action = some (st', sent)) (hservice : st.service = .awaitingAck) :
    sent = [] := by
  cases action with
  | boot => simp [act, boot, hservice] at hstep
  | timeout => exact absurd rfl haction
  | forward => simp [act, forward, hservice] at hstep
  | mainFromService => exact (step_of_map hstep).2
  | mainFromSub => exact (step_of_map hstep).2
  | subStart => exact (step_of_map hstep).2
  | subTopic => exact (step_of_map hstep).2
  | subReport => exact (step_of_map hstep).2

section Steps

variable {yaml : YamlCpp} {cfg : NodeConfig} {st st' : NodeState} {msg : Multipart}
  {sent : List Multipart}

/-! ## Registrations -/

/-- A message outside `Syncronization` is the first registration or a repetition. -/
theorem unregistered_act (hst : st.Coherent) {action : Action}
    (hstep : st.act yaml cfg action = some (st', sent)) :
    st.unregistered + (if action = .timeout then 1 else 0) =
      (sent.filter fun msg => !isSync msg).length + st'.unregistered := by
  have hregistration : isSync (registration yaml cfg) = false := by
    simp [isSync, registration]
  by_cases haction : action = .timeout
  · subst haction
    simp only [act, timeout, Option.ite_none_right_eq_some, Option.some.injEq,
      Prod.mk.injEq] at hstep
    obtain ⟨hservice, rfl, rfl⟩ := hstep
    rw [strMSG_of_registering hst (by simp [hservice, Service.registering])]
    simp [unregistered, hservice, isSync]
  · have hsent := sent_of_awaitingAck haction hstep
    cases act_moves hst hstep with
    | boot hservice => simp [unregistered, hservice, haction, hregistration]
    | timeout hservice => simp at hsent; exact absurd hservice hsent
    | forward rest hservice hqueue => simp [unregistered, haction]
    | _ => simp [unregistered, haction]

theorem unregistered_receives (hreceive : Receives yaml cfg st msg st' sent) :
    st.unregistered = (sent.filter fun msg => !isSync msg).length + st'.unregistered := by
  cases hreceive with
  | ack hservice => simp [unregistered, hservice]
  | state hservice => simp [unregistered, hservice, request]
  | packets hservice => simp [unregistered, hservice]
  | allSubscribed hservice => simp [unregistered, hservice]
  | ignore hservice => simp [unregistered, hservice]
  | stop hservice hshort => simp [unregistered, hservice]

/-! ## Work -/

/-- **Every step but a timeout does some of the work.** -/
theorem work_moves (hmove : Moves yaml cfg st st' sent)
    (hsent : st.service = .awaitingAck → sent = []) : st'.work < st.work := by
  cases hmove with
  | boot hservice => simp [work, unregistered, hservice]
  | timeout hservice => simp at hsent; exact absurd hservice hsent
  | forward rest hservice hqueue =>
    simp only [work, unregistered, hqueue, List.length_cons]
    omega
  | pass rest hfilled hqueue =>
    simp only [work, unregistered, hqueue, List.length_cons, List.count_cons_self,
      List.length_append, List.length_nil, Nat.zero_add, Nat.add_mul, Nat.one_mul]
    omega
  | ignore rest hfilled hqueue =>
    have hne : syncMSG "AllSubscribed" ≠ syncMSG "received subscriptions" := by decide
    simp only [work, unregistered, hqueue, List.length_cons, List.count_cons_of_ne hne]
    omega
  | report rest hfilled hqueue =>
    simp only [work, unregistered, hqueue, List.length_cons, List.length_append,
      List.length_nil, Nat.zero_add]
    omega
  | subStart msg rest hfilled hsub hqueue =>
    simp only [work, unregistered, hqueue, hsub, List.length_cons, Nat.add_mul, Nat.one_mul]
    omega
  | subTopic topic rest hfilled hsub =>
    simp only [work, unregistered, hsub, List.length_cons]
    omega
  | subReport hfilled hsub =>
    simp only [work, unregistered, hsub, List.length_append, List.length_singleton,
      List.length_nil]
    omega

/-- What a message brings is bounded by its frames: they become the topics. -/
theorem work_receives (hst : st.Coherent) (hreceive : Receives yaml cfg st msg st' sent) :
    st'.work < st.work + messageWork msg := by
  cases hreceive with
  | ack hservice => simp [work, unregistered, hservice, messageWork]
  | state hservice => simp [work, unregistered, hservice, messageWork]
  | packets hservice =>
    rw [hst.quiet (by simp [hservice, Service.filled])]
    simp [work, unregistered, hservice, NodeState.init, messageWork]
    omega
  | allSubscribed hservice =>
    have hcount : [syncMSG "AllSubscribed"].count (syncMSG "received subscriptions") = 0 := by
      decide
    simp only [work, unregistered, List.length_append, List.length_singleton, List.count_append,
      hcount, Nat.add_zero, messageWork]
    omega
  | ignore hservice => simp [messageWork]
  | stop hservice hshort => simp [work, unregistered, hservice, messageWork]

/-! ## The one notice -/

theorem OneNotice.moves (hone : st.OneNotice)
    (hmove : Moves yaml cfg st st' sent) : st'.OneNotice := by
  unfold OneNotice at hone ⊢
  cases hmove with
  | boot hservice => simpa [started, hservice, Service.filled] using hone
  | timeout => exact hone
  | forward rest hservice hqueue => exact hone
  | pass rest hfilled hqueue =>
    refine Eq.trans ?_ hone
    simp only [started, hqueue, List.count_cons_self, List.length_append,
      List.length_singleton]
    omega
  | ignore rest hfilled hqueue =>
    have hne : syncMSG "AllSubscribed" ≠ syncMSG "received subscriptions" := by decide
    simpa [started, hqueue, List.count_cons_of_ne hne] using hone
  | report rest hfilled hqueue => exact hone
  | subStart msg rest hfilled hsub hqueue =>
    simp only [hfilled, hsub, ne_eq, reduceCtorEq, not_false_eq_true, and_self, if_true] at hone ⊢
    simp only [started, hqueue, hsub, List.length_cons] at hone ⊢
    omega
  | subTopic topic rest hfilled hsub => simpa [started, hsub] using hone
  | subReport hfilled hsub =>
    simp only [hfilled, hsub, ne_eq, reduceCtorEq, not_false_eq_true, and_self, if_true,
      not_true_eq_false, and_false, if_false] at hone ⊢
    simp only [started, hsub] at hone ⊢
    omega

theorem OneNotice.receives (hst : st.Coherent) (hone : st.OneNotice)
    (hreceive : Receives yaml cfg st msg st' sent) : st'.OneNotice := by
  unfold OneNotice at hone ⊢
  cases hreceive with
  | ack hservice => simpa [started, hservice, Service.filled] using hone
  | state hservice => simpa [started, hservice, Service.filled] using hone
  | packets hservice =>
    rw [hst.quiet (by simp [hservice, Service.filled])]
    simp [started, NodeState.init, Service.filled]
  | allSubscribed hservice =>
    have hcount : [syncMSG "AllSubscribed"].count (syncMSG "received subscriptions") = 0 := by
      decide
    simpa [started, List.count_append, hcount] using hone
  | ignore => exact hone
  | stop hservice hshort => simpa [started, hservice, Service.filled] using hone

end Steps

/-! ## Waiting for Central -/

/-- No thread can go on, timeouts apart. -/
def Blocked (yaml : YamlCpp) (cfg : NodeConfig) (st : NodeState) : Prop :=
  ∀ action, action ≠ .timeout → st.act yaml cfg action = none

section Blocked

variable {yaml : YamlCpp} {cfg : NodeConfig} {st : NodeState}

/-- The main thread takes whatever the service thread has sent. -/
theorem mainFromService_ne_none (hmain : st.main = .loop) (hqueue : st.serviceToMain ≠ []) :
    st.mainFromService ≠ none := by
  obtain ⟨msg, rest, hcons⟩ := List.exists_cons_of_ne_nil hqueue
  unfold mainFromService
  rw [hmain, hcons]
  simp only
  split
  · simp
  · split
    · split
      · simp
      · simp
    · simp

theorem mainFromSub_ne_none (hmain : st.main = .loop) (hqueue : st.subToMain ≠ []) :
    st.mainFromSub ≠ none := by
  obtain ⟨msg, rest, hcons⟩ := List.exists_cons_of_ne_nil hqueue
  unfold mainFromSub
  rw [hmain, hcons]
  simp only
  split
  · simp
  · split
    · split
      · simp
      · simp
    · simp

theorem forward_ne_none (hservice : st.service = .loop) (hqueue : st.mainToService ≠ []) :
    st.forward ≠ none := by
  obtain ⟨msg, rest, hcons⟩ := List.exists_cons_of_ne_nil hqueue
  unfold forward
  rw [hservice, hcons]
  simp only
  split
  · simp
  · simp

variable (hst : st.Coherent) (hblocked : st.Blocked yaml cfg)
include hst hblocked

/-- The queues to the main thread are empty. -/
theorem Blocked.main_queues : st.serviceToMain = [] ∧ st.subToMain = [] := by
  constructor
  · by_contra hqueue
    refine mainFromService_ne_none hst.main hqueue ?_
    simpa [act] using hblocked .mainFromService (by decide)
  · by_contra hqueue
    refine mainFromSub_ne_none hst.main hqueue ?_
    simpa [act] using hblocked .mainFromSub (by decide)

/-- The sub thread is through, once there is something for it to do. -/
theorem Blocked.sub_reported (hfilled : st.service.filled = true) : st.sub = .reported := by
  by_contra hsub
  have hearly := hst.early hfilled hsub
  cases hcase : st.sub with
  | waiting =>
    -- the notice would be in its queue
    cases hqueue : st.mainToSub with
    | nil => simp [started, (hblocked.main_queues hst).1, hqueue, hcase] at hearly
    | cons msg rest =>
      have hstart := hblocked .subStart (by decide)
      simp [act, subStart, hcase, hqueue] at hstart
  | subscribing topics =>
    cases topics with
    | nil =>
      have hreport := hblocked .subReport (by decide)
      simp [act, subReport, hcase] at hreport
    | cons topic rest =>
      have htopic := hblocked .subTopic (by decide)
      simp [act, subTopic, hcase] at htopic
  | reported => exact hsub hcase

/-- **Where a Node waits for Central** nothing is left in its queues, and its sub thread has
reported if there were subscriptions. -/
theorem Blocked.spec (hone : st.OneNotice) :
    st.service ≠ .boot ∧ st.serviceToMain = [] ∧ st.mainToSub = [] ∧ st.subToMain = [] ∧
    (st.service = .loop → st.mainToService = [] ∧ st.sub = .reported) := by
  obtain ⟨hserviceToMain, hsubToMain⟩ := hblocked.main_queues hst
  refine ⟨fun hservice => ?_, hserviceToMain, ?_, hsubToMain, fun hservice => ⟨?_, ?_⟩⟩
  · have hboot := hblocked .boot (by decide)
    simp [act, boot, hservice] at hboot
  · by_cases hfilled : st.service.filled = true
    · have hsub := hblocked.sub_reported hst hfilled
      have hnone : st.started = 0 := by simpa [OneNotice, hsub] using hone
      unfold started at hnone
      exact List.length_eq_zero_iff.mp (by omega)
    · rw [hst.quiet (by simpa using hfilled)]
      rfl
  · by_contra hqueue
    refine forward_ne_none hservice hqueue ?_
    simpa [act] using hblocked .forward (by decide)
  · exact hblocked.sub_reported hst (by simp [hservice, Service.filled])

end Blocked

end NodeState

end ComuFrame
