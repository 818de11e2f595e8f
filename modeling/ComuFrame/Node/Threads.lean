import ComuFrame.Node.Basic

/-!
# ComuFrame — what the threads of a Node keep between them

The service thread fills the subscriptions once and tells the main thread, which tells the
sub thread, which subscribes and reports back along the same way. That one notice is the
only thing in the queues, apart from the "AllSubscribed" that Central's broadcast puts
there. `Coherent` says so, and it is kept by every step:

* `act_moves`, `receive_receives` — what a step of a coherent Node can do, case by case;
  the results below and the ones about the whole system start from these;
* `Coherent.moves`, `Coherent.receives` — it stays coherent;
* `unsent_moves`, `unsent_receives` — what the Node still has to send to Central in the
  state `Syncronization` is fixed from the start: its request and one "subscribed".
-/

namespace ComuFrame

open Cpp

/-- A message sent in the state `Syncronization`. -/
def syncMSG (data : String) : Multipart := ["syncronization", data]

/-- Sent in the state `Syncronization`, to go by its first frame. -/
def isSync (msg : Multipart) : Bool := msg.head? == some "syncronization"

@[simp] theorem isSync_syncMSG (data : String) : isSync (syncMSG data) = true := by
  simp [isSync, syncMSG]

namespace Service

/-- Before the first message of Central. -/
def registering : Service → Bool
  | .boot => true
  | .awaitingAck => true
  | _ => false

/-- The message that becomes the subscriptions has been received. -/
def filled : Service → Bool
  | .loop => true
  | .stopped _ => true
  | _ => false

/-- How many messages of Central have been received, before the final loop. -/
def position : Service → Nat
  | .boot => 0
  | .awaitingAck => 0
  | .awaitingState => 1
  | .awaitingPackets => 2
  | .loop => 3
  | .stopped _ => 3

end Service

namespace NodeState

/-! ## The notice and its way through the queues -/

/-- Notices on their way to the sub thread, or at it. -/
def started (st : NodeState) : Nat :=
  st.serviceToMain.count (syncMSG "received subscriptions") + st.mainToSub.length +
    (match st.sub with
      | .subscribing _ => 1
      | _ => 0)

/-- Notices that have not come out as a "subscribed" to Central. -/
def pending (st : NodeState) : Nat :=
  st.started + st.subToMain.length + st.mainToService.length

/-- What the threads of one Node keep true between them. -/
structure Coherent (st : NodeState) : Prop where
  state : st.state = if st.service.registering then Fsm.init else Fsm.init.nextState.2
  main : st.main = .loop
  /-- Until the subscriptions are filled only the service thread does anything. -/
  quiet : st.service.filled = false →
    st = { NodeState.init with state := st.state, service := st.service }
  serviceToMain : ∀ msg ∈ st.serviceToMain,
    msg = syncMSG "received subscriptions" ∨ msg = syncMSG "AllSubscribed"
  subToMain : ∀ msg ∈ st.subToMain, msg = syncMSG "subscribed"
  mainToService : ∀ msg ∈ st.mainToService, msg = syncMSG "subscribed"
  early : st.service.filled = true → st.sub ≠ .reported → 1 ≤ st.started
  late : st.sub ≠ .reported → st.subToMain = [] ∧ st.mainToService = []
  topics : match st.sub with
    | .waiting => True
    | .subscribing rest => st.topics ++ rest = literalTopic :: st.subscriptions
    | .reported => st.topics = literalTopic :: st.subscriptions

theorem coherent_init : Coherent NodeState.init where
  state := rfl
  main := rfl
  quiet _ := rfl
  serviceToMain := by simp [NodeState.init]
  subToMain := by simp [NodeState.init]
  mainToService := by simp [NodeState.init]
  early h := by simp [NodeState.init, Service.filled] at h
  late _ := ⟨rfl, rfl⟩
  topics := trivial

theorem registering_eq_false_of_filled {service : Service} (h : service.filled = true) :
    service.registering = false := by
  cases service <;> simp_all [Service.filled, Service.registering]

section Coherent

variable {st : NodeState} (hst : st.Coherent)
include hst

/-- Where the Node's Fsm is past `Registration`. -/
theorem Coherent.state_eq (h : st.service.registering = false) :
    st.state = Fsm.init.nextState.2 := by
  rw [hst.state, h]
  rfl

theorem Coherent.registering_of_state (h : st.state = Fsm.init) :
    st.service.registering = true := by
  by_contra hreg
  rw [hst.state_eq (by simpa using hreg)] at h
  exact absurd h (by decide)

/-- Something in a queue: the subscriptions are filled. -/
theorem Coherent.filled_of_queue (h : st.serviceToMain ≠ [] ∨ st.mainToService ≠ [] ∨
    st.mainToSub ≠ [] ∨ st.subToMain ≠ [] ∨ st.sub ≠ .waiting) : st.service.filled = true := by
  by_contra hfilled
  rw [hst.quiet (by simpa using hfilled)] at h
  simp [NodeState.init] at h

theorem Coherent.strMSG_eq (h : st.service.registering = false) (msg : String) :
    st.strMSG msg = syncMSG msg := by
  rw [strMSG, hst.state_eq h]
  rfl

theorem Coherent.strMSG_of_filled (h : st.service.filled = true) (msg : String) :
    st.strMSG msg = syncMSG msg :=
  hst.strMSG_eq (registering_eq_false_of_filled h) msg

/-- No notice left anywhere: the sub thread has been through its loop and has reported. -/
theorem Coherent.reported (hfilled : st.service.filled = true) (h : st.pending = 0) :
    st.sub = .reported ∧ st.topics = literalTopic :: st.subscriptions := by
  have hsub : st.sub = .reported := by
    by_contra hsub
    have hearly := hst.early hfilled hsub
    unfold pending at h
    omega
  have htopics := hst.topics
  rw [hsub] at htopics
  exact ⟨hsub, htopics⟩

end Coherent

/-! ## Steps without Central -/

section Moves

variable (yaml : YamlCpp) (cfg : NodeConfig)

/-- The registration, as the service thread sends it at first and after each timeout. -/
def registration : Multipart := ["registration", yaml.emit cfg.sendingPackets]

/-- The request for data. -/
def request : Multipart := syncMSG (yaml.emit cfg.requestedData)

/-- The steps of `act` on a coherent Node. -/
inductive Moves (st : NodeState) : NodeState → List Multipart → Prop where
  | boot (hservice : st.service = .boot) :
    Moves st { st with service := .awaitingAck } [registration yaml cfg]
  | timeout (hservice : st.service = .awaitingAck) : Moves st st [registration yaml cfg]
  | forward (rest : List Multipart) (hservice : st.service = .loop)
      (hqueue : st.mainToService = syncMSG "subscribed" :: rest) :
    Moves st { st with mainToService := rest } [syncMSG "subscribed"]
  | pass (rest : List Multipart) (hfilled : st.service.filled = true)
      (hqueue : st.serviceToMain = syncMSG "received subscriptions" :: rest) :
    Moves st { st with
      serviceToMain := rest
      mainToSub := st.mainToSub ++ [syncMSG "received subscriptions"] } []
  | ignore (rest : List Multipart) (hfilled : st.service.filled = true)
      (hqueue : st.serviceToMain = syncMSG "AllSubscribed" :: rest) :
    Moves st { st with serviceToMain := rest } []
  | report (rest : List Multipart) (hfilled : st.service.filled = true)
      (hqueue : st.subToMain = syncMSG "subscribed" :: rest) :
    Moves st { st with
      subToMain := rest, mainToService := st.mainToService ++ [syncMSG "subscribed"] } []
  | subStart (msg : Multipart) (rest : List Multipart) (hfilled : st.service.filled = true)
      (hsub : st.sub = .waiting) (hqueue : st.mainToSub = msg :: rest) :
    Moves st { st with
      mainToSub := rest, sub := .subscribing st.subscriptions, topics := [literalTopic] } []
  | subTopic (topic : String) (rest : List String) (hfilled : st.service.filled = true)
      (hsub : st.sub = .subscribing (topic :: rest)) :
    Moves st { st with sub := .subscribing rest, topics := st.topics ++ [topic] } []
  | subReport (hfilled : st.service.filled = true) (hsub : st.sub = .subscribing []) :
    Moves st { st with
      sub := .reported, subToMain := st.subToMain ++ [syncMSG "subscribed"] } []

end Moves

variable {yaml : YamlCpp} {cfg : NodeConfig} {st st' : NodeState} {msg : Multipart}
  {sent : List Multipart}

theorem strMSG_of_registering (hst : st.Coherent) (h : st.service.registering = true)
    (text : String) : st.strMSG text = ["registration", text] := by
  rw [strMSG, hst.state, if_pos h]
  rfl

theorem forward_moves (hst : st.Coherent) (hstep : st.forward = some (st', sent)) :
    Moves yaml cfg st st' sent := by
  unfold forward at hstep
  split at hstep
  · next msg rest hservice hqueue =>
    obtain rfl : msg = syncMSG "subscribed" := hst.mainToService msg (by simp [hqueue])
    have hreg : st.service.registering = false := by simp [hservice, Service.registering]
    simp only [syncMSG, bind, Except.bind, Multipart.popstr_cons, Option.some.injEq,
      Prod.mk.injEq] at hstep
    obtain ⟨rfl, rfl⟩ := hstep
    have hmsg : ({ st with mainToService := rest } : NodeState).strMSG "subscribed"
        = syncMSG "subscribed" := hst.strMSG_eq hreg _
    rw [hmsg]
    exact .forward rest hservice hqueue
  · simp at hstep

theorem mainFromService_moves (hst : st.Coherent) (hstep : st.mainFromService = some st') :
    Moves yaml cfg st st' [] := by
  unfold mainFromService at hstep
  split at hstep
  · next msg rest _ hqueue =>
    have hfilled := hst.filled_of_queue (.inl (by simp [hqueue]))
    have hmsg : ({ st with serviceToMain := rest } : NodeState).strMSG "received subscriptions"
        = syncMSG "received subscriptions" := hst.strMSG_of_filled hfilled _
    rcases hst.serviceToMain msg (by simp [hqueue]) with rfl | rfl
    · simp only [syncMSG, bind, Except.bind, Multipart.popstr_cons, strcmpEq_self, if_true,
        Option.some.injEq] at hstep
      subst hstep
      rw [hmsg]
      exact .pass rest hfilled hqueue
    · have hne : strcmpEq "AllSubscribed" "received subscriptions" = false := by decide
      simp only [syncMSG, bind, Except.bind, Multipart.popstr_cons, strcmpEq_self, hne, if_true,
        Bool.false_eq_true, if_false, Option.some.injEq] at hstep
      subst hstep
      exact .ignore rest hfilled hqueue
  · simp at hstep

theorem mainFromSub_moves (hst : st.Coherent) (hstep : st.mainFromSub = some st') :
    Moves yaml cfg st st' [] := by
  unfold mainFromSub at hstep
  split at hstep
  · next msg rest _ hqueue =>
    have hfilled := hst.filled_of_queue (.inr (.inr (.inr (.inl (by simp [hqueue])))))
    have hmsg : ({ st with subToMain := rest } : NodeState).strMSG "subscribed"
        = syncMSG "subscribed" := hst.strMSG_of_filled hfilled _
    obtain rfl := hst.subToMain msg (by simp [hqueue])
    simp only [syncMSG, bind, Except.bind, Multipart.popstr_cons, strcmpEq_self, if_true,
      Option.some.injEq] at hstep
    subst hstep
    rw [hmsg]
    exact .report rest hfilled hqueue
  · simp at hstep

theorem subStart_moves (hst : st.Coherent) (hstep : st.subStart = some st') :
    Moves yaml cfg st st' [] := by
  unfold subStart at hstep
  split at hstep
  · next msg rest hsub hqueue =>
    simp only [Option.some.injEq] at hstep
    subst hstep
    exact .subStart msg rest (hst.filled_of_queue (.inr (.inr (.inl (by simp [hqueue]))))) hsub
      hqueue
  · simp at hstep

theorem subTopic_moves (hst : st.Coherent) (hstep : st.subTopic = some st') :
    Moves yaml cfg st st' [] := by
  unfold subTopic at hstep
  split at hstep
  · next topic rest hsub =>
    simp only [Option.some.injEq] at hstep
    subst hstep
    exact .subTopic topic rest
      (hst.filled_of_queue (.inr (.inr (.inr (.inr (by simp [hsub])))))) hsub
  · simp at hstep

theorem subReport_moves (hst : st.Coherent) (hstep : st.subReport = some st') :
    Moves yaml cfg st st' [] := by
  unfold subReport at hstep
  split at hstep
  · next hsub =>
    have hfilled := hst.filled_of_queue (.inr (.inr (.inr (.inr (by simp [hsub])))))
    simp only [Option.some.injEq] at hstep
    subst hstep
    rw [hst.strMSG_of_filled hfilled]
    exact .subReport hfilled hsub
  · simp at hstep

/-- The main and the sub thread send nothing to Central. -/
theorem step_of_map {step : Option NodeState}
    (hstep : step.map (fun st => (st, ([] : List Multipart))) = some (st', sent)) :
    step = some st' ∧ sent = [] := by
  obtain ⟨_, h, heq⟩ := Option.map_eq_some_iff.mp hstep
  obtain ⟨rfl, rfl⟩ := Prod.mk.inj heq
  exact ⟨h, rfl⟩

/-- **What a step without Central can be.** -/
theorem act_moves (hst : st.Coherent) {action : Action}
    (hstep : st.act yaml cfg action = some (st', sent)) : Moves yaml cfg st st' sent := by
  cases action with
  | boot =>
    simp only [act, boot, Option.ite_none_right_eq_some, Option.some.injEq,
      Prod.mk.injEq] at hstep
    obtain ⟨hservice, rfl, rfl⟩ := hstep
    rw [strMSG_of_registering hst (by simp [hservice, Service.registering])]
    exact .boot hservice
  | timeout =>
    simp only [act, timeout, Option.ite_none_right_eq_some, Option.some.injEq,
      Prod.mk.injEq] at hstep
    obtain ⟨hservice, rfl, rfl⟩ := hstep
    rw [strMSG_of_registering hst (by simp [hservice, Service.registering])]
    exact .timeout hservice
  | forward => exact forward_moves hst hstep
  | mainFromService =>
    obtain ⟨hthread, rfl⟩ := step_of_map hstep
    exact mainFromService_moves hst hthread
  | mainFromSub =>
    obtain ⟨hthread, rfl⟩ := step_of_map hstep
    exact mainFromSub_moves hst hthread
  | subStart =>
    obtain ⟨hthread, rfl⟩ := step_of_map hstep
    exact subStart_moves hst hthread
  | subTopic =>
    obtain ⟨hthread, rfl⟩ := step_of_map hstep
    exact subTopic_moves hst hthread
  | subReport =>
    obtain ⟨hthread, rfl⟩ := step_of_map hstep
    exact subReport_moves hst hthread

/-! ## Messages of Central -/

section Receives

variable (yaml : YamlCpp) (cfg : NodeConfig)

/-- What a coherent Node makes of a message with at least one frame. -/
inductive Receives (st : NodeState) (msg : Multipart) :
    NodeState → List Multipart → Prop where
  | ack (hservice : st.service = .awaitingAck) :
    Receives st msg { st with state := Fsm.init.nextState.2, service := .awaitingState } []
  | state (hservice : st.service = .awaitingState) :
    Receives st msg { st with service := .awaitingPackets } [request yaml cfg]
  | packets (hservice : st.service = .awaitingPackets) :
    Receives st msg { st with
      subscriptions := msg, service := .loop
      serviceToMain := [syncMSG "received subscriptions"] } []
  | allSubscribed (hservice : st.service = .loop) :
    Receives st msg { st with
      serviceToMain := st.serviceToMain ++ [syncMSG "AllSubscribed"] } []
  | ignore (hservice : st.service = .loop) : Receives st msg st []
  | stop (hservice : st.service = .loop) (hshort : msg.length < 2) :
    Receives st msg { st with service := .stopped .emptyPop } []

end Receives

/-- In the final loop two frames are popped, whatever the message is. -/
theorem loopMessage_cases (hst : st.Coherent) (hservice : st.service = .loop)
    (hmsg : msg ≠ []) :
    (msg.length < 2 ∧ st.loopMessage msg = .error .emptyPop) ∨
    st.loopMessage msg = .ok { st with
      serviceToMain := st.serviceToMain ++ [syncMSG "AllSubscribed"] } ∨
    st.loopMessage msg = .ok st := by
  have hreg : st.service.registering = false := by simp [hservice, Service.registering]
  match msg with
  | [] => exact absurd rfl hmsg
  | [_] => exact .inl ⟨by simp, rfl⟩
  | msgState :: data :: frames =>
    right
    simp only [loopMessage, bind, Except.bind, Multipart.popstr_cons,
      hst.strMSG_eq hreg]
    split
    · split
      · exact .inl rfl
      · exact .inr rfl
    · exact .inr rfl

/-- **What a message of Central can be taken for.** -/
theorem receive_receives (hst : st.Coherent) (hmsg : msg ≠ [])
    (hstep : st.receive yaml cfg msg = some (st', sent)) :
    Receives yaml cfg st msg st' sent := by
  unfold receive at hstep
  split at hstep
  · simp at hstep
  · next hservice =>
    cases msg with
    | nil => exact absurd rfl hmsg
    | cons frame rest =>
      simp only [Multipart.popstr_cons, Option.some.injEq, Prod.mk.injEq] at hstep
      obtain ⟨rfl, rfl⟩ := hstep
      rw [hst.state, hservice]
      exact .ack hservice
  · next hservice =>
    simp only [Option.some.injEq, Prod.mk.injEq] at hstep
    obtain ⟨rfl, rfl⟩ := hstep
    rw [hst.strMSG_eq (by simp [hservice, Service.registering])]
    exact .state hservice
  · next hservice =>
    simp only [Option.some.injEq, Prod.mk.injEq] at hstep
    obtain ⟨rfl, rfl⟩ := hstep
    have hquiet := hst.quiet (by simp [hservice, Service.filled])
    -- so the frames appended to nothing are all there is
    have hsubscriptions : st.subscriptions = [] := by rw [hquiet]; rfl
    have hqueue : st.serviceToMain = [] := by rw [hquiet]; rfl
    rw [hst.strMSG_eq (by simp [hservice, Service.registering]), hsubscriptions, hqueue]
    exact .packets hservice
  · next hservice =>
    rcases loopMessage_cases hst hservice hmsg with ⟨hshort, hloop⟩ | hloop | hloop
    · simp only [hloop, Option.some.injEq, Prod.mk.injEq] at hstep
      obtain ⟨rfl, rfl⟩ := hstep
      exact .stop hservice hshort
    · simp only [hloop, Option.some.injEq, Prod.mk.injEq] at hstep
      obtain ⟨rfl, rfl⟩ := hstep
      exact .allSubscribed hservice
    · simp only [hloop, Option.some.injEq, Prod.mk.injEq] at hstep
      obtain ⟨rfl, rfl⟩ := hstep
      exact .ignore hservice
  · simp at hstep

/-! ## A coherent Node stays coherent -/

theorem Coherent.moves (hst : st.Coherent) (hmove : Moves yaml cfg st st' sent) :
    st'.Coherent := by
  cases hmove with
  | boot hservice =>
    have hquiet := hst.quiet (by simp [hservice, Service.filled])
    have hstate : st.state = Fsm.init := by simpa [hservice, Service.registering] using hst.state
    rw [hquiet, hstate]
    exact { coherent_init with
      early := fun h => by simp [Service.filled] at h
      quiet := fun _ => rfl }
  | timeout => exact hst
  | forward rest hservice hqueue =>
    -- what is forwarded has been reported
    have hfilled : st.service.filled = true := by simp [hservice, Service.filled]
    exact { hst with
      quiet := fun h => absurd hfilled (by simpa using h)
      mainToService := fun msg hmsg => hst.mainToService msg (by simp [hqueue, hmsg])
      late := fun hsub => absurd (hst.late hsub).2 (by simp [hqueue]) }
  | pass rest hfilled hqueue =>
    -- the notice moves one queue on
    exact { hst with
      quiet := fun h => absurd hfilled (by simpa using h)
      serviceToMain := fun msg hmsg => hst.serviceToMain msg (by simp [hqueue, hmsg])
      early := fun _ hsub => by
        have hearly := hst.early hfilled hsub
        simp only [started, hqueue, List.count_cons_self, List.length_append,
          List.length_singleton] at hearly ⊢
        omega }
  | ignore rest hfilled hqueue =>
    -- "AllSubscribed" is no notice
    exact { hst with
      quiet := fun h => absurd hfilled (by simpa using h)
      serviceToMain := fun msg hmsg => hst.serviceToMain msg (by simp [hqueue, hmsg])
      early := fun _ hsub => by
        have hearly := hst.early hfilled hsub
        rw [started, hqueue, List.count_cons_of_ne (by decide)] at hearly
        exact hearly }
  | report rest hfilled hqueue =>
    -- nothing comes from the sub thread before its report
    have hsub : st.sub = .reported := by
      by_contra hsub
      exact absurd (hst.late hsub).1 (by simp [hqueue])
    exact { hst with
      quiet := fun h => absurd hfilled (by simpa using h)
      subToMain := fun msg hmsg => hst.subToMain msg (by simp [hqueue, hmsg])
      mainToService := fun msg hmsg => by
        rcases List.mem_append.mp hmsg with hold | hnew
        · exact hst.mainToService msg hold
        · exact List.mem_singleton.mp hnew
      late := fun h => absurd hsub h }
  | subStart msg rest hfilled hsub hqueue =>
    -- the notice is taken from the queue and counts at the sub thread
    exact { hst with
      quiet := fun h => absurd hfilled (by simpa using h)
      early := fun _ _ => by simp only [started]; omega
      late := fun _ => hst.late (by simp [hsub])
      topics := rfl }
  | subTopic topic rest hfilled hsub =>
    have htopics := hst.topics
    rw [hsub] at htopics
    exact { hst with
      quiet := fun h => absurd hfilled (by simpa using h)
      early := fun _ _ => by simp only [started]; omega
      late := fun _ => hst.late (by simp [hsub])
      topics := by simpa using htopics }
  | subReport hfilled hsub =>
    have htopics := hst.topics
    rw [hsub] at htopics
    exact { hst with
      quiet := fun h => absurd hfilled (by simpa using h)
      subToMain := fun msg hmsg => by
        rcases List.mem_append.mp hmsg with hold | hnew
        · exact hst.subToMain msg hold
        · exact List.mem_singleton.mp hnew
      early := fun _ h => absurd rfl h
      late := fun h => absurd rfl h
      topics := by simpa using htopics }

theorem Coherent.receives (hst : st.Coherent) (hreceive : Receives yaml cfg st msg st' sent) :
    st'.Coherent := by
  cases hreceive with
  | ack hservice =>
    rw [hst.quiet (by simp [hservice, Service.filled])]
    exact { coherent_init with
      state := rfl
      early := fun h => by simp [Service.filled] at h
      quiet := fun _ => rfl }
  | state hservice =>
    have hstate := hst.state_eq (by simp [hservice, Service.registering])
    rw [hst.quiet (by simp [hservice, Service.filled]), hstate]
    exact { coherent_init with
      state := rfl
      early := fun h => by simp [Service.filled] at h
      quiet := fun _ => rfl }
  | packets hservice =>
    -- the one notice there will be
    have hstate := hst.state_eq (by simp [hservice, Service.registering])
    rw [hst.quiet (by simp [hservice, Service.filled]), hstate]
    exact { coherent_init with
      state := rfl
      serviceToMain := by simp
      early := fun _ _ => by simp [started, NodeState.init]
      quiet := fun h => by simp [Service.filled] at h }
  | allSubscribed hservice =>
    have hfilled : st.service.filled = true := by simp [hservice, Service.filled]
    exact { hst with
      quiet := fun h => absurd hfilled (by simpa using h)
      serviceToMain := fun msg hmsg => by
        rcases List.mem_append.mp hmsg with hold | hnew
        · exact hst.serviceToMain msg hold
        · exact .inr (List.mem_singleton.mp hnew)
      early := fun h hsub => by
        have hearly := hst.early h hsub
        simp only [started, List.count_append] at hearly ⊢
        omega }
  | ignore hservice => exact hst
  | stop hservice hshort =>
    have hfilled : st.service.filled = true := by simp [hservice, Service.filled]
    have hstate := hst.state_eq (by simp [hservice, Service.registering])
    exact { hst with
      state := hstate
      quiet := fun h => by simp [Service.filled] at h
      early := fun _ hsub => hst.early hfilled hsub }

/-! ## What is still to be sent -/

section Unsent

variable (yaml cfg)

/-- The messages the Node has yet to send in the state `Syncronization`. -/
def unsent (st : NodeState) : List Multipart :=
  match st.service with
  | .awaitingPackets => [syncMSG "subscribed"]
  | .loop => List.replicate st.pending (syncMSG "subscribed")
  | .stopped _ => List.replicate st.pending (syncMSG "subscribed")
  | _ => [request yaml cfg, syncMSG "subscribed"]

end Unsent

theorem unsent_of_filled (h : st.service.filled = true) :
    st.unsent yaml cfg = List.replicate st.pending (syncMSG "subscribed") := by
  unfold unsent
  cases hservice : st.service <;> simp_all [Service.filled]

/-- A step moves notices along; only forwarding takes one out, and sends it. -/
theorem pending_moves (hmove : Moves yaml cfg st st' sent) :
    st.pending = (sent.filter isSync).length + st'.pending := by
  cases hmove with
  | boot hservice => simp [pending, started, isSync, registration]
  | timeout => simp [isSync, registration]
  | forward rest hservice hqueue =>
    simp only [pending, started, hqueue, List.length_cons, List.filter_singleton,
      isSync_syncMSG, cond_true, List.length_nil]
    omega
  | pass rest hfilled hqueue =>
    simp only [pending, started, hqueue, List.count_cons_self, List.length_append,
      List.length_singleton, List.filter_nil, List.length_nil]
    omega
  | ignore rest hfilled hqueue =>
    have hne : syncMSG "AllSubscribed" ≠ syncMSG "received subscriptions" := by decide
    simp [pending, started, hqueue, List.count_cons_of_ne hne]
  | report rest hfilled hqueue =>
    simp only [pending, started, hqueue, List.length_cons, List.length_append, List.filter_nil,
      List.length_nil]
    omega
  | subStart msg rest hfilled hsub hqueue =>
    simp only [pending, started, hqueue, hsub, List.length_cons, List.filter_nil,
      List.length_nil]
    omega
  | subTopic topic rest hfilled hsub =>
    simp [pending, started, hsub]
  | subReport hfilled hsub =>
    simp only [pending, started, hsub, List.length_append, List.length_singleton,
      List.filter_nil, List.length_nil]
    omega

/-- Where a step without Central can take the service thread. -/
theorem service_moves (hmove : Moves yaml cfg st st' sent) :
    st'.service = st.service ∨ (st.service = .boot ∧ st'.service = .awaitingAck) := by
  cases hmove with
  | boot hservice => exact .inr ⟨hservice, rfl⟩
  | _ => exact .inl rfl

theorem subscriptions_moves (hmove : Moves yaml cfg st st' sent) :
    st'.subscriptions = st.subscriptions := by
  cases hmove <;> rfl

theorem state_moves (hmove : Moves yaml cfg st st' sent) : st'.state = st.state := by
  cases hmove <;> rfl

theorem sent_receives (hreceive : Receives yaml cfg st msg st' sent) :
    sent = [request yaml cfg] ∨ sent = [] := by
  cases hreceive with
  | state hservice => exact .inl rfl
  | _ => exact .inr rfl

/-- Nothing but registrations and "subscribed" leaves the Node without Central. -/
theorem sent_moves (hmove : Moves yaml cfg st st' sent) :
    (st.service.registering = true ∧ sent = [registration yaml cfg]) ∨
    (st.service = .loop ∧ sent = [syncMSG "subscribed"]) ∨ sent = [] := by
  cases hmove with
  | boot hservice => exact .inl ⟨by simp [hservice, Service.registering], rfl⟩
  | timeout hservice => exact .inl ⟨by simp [hservice, Service.registering], rfl⟩
  | forward rest hservice hqueue => exact .inr (.inl ⟨hservice, rfl⟩)
  | _ => exact .inr (.inr rfl)

/-- **What a step sends comes off what was still to be sent.** -/
theorem unsent_moves (hmove : Moves yaml cfg st st' sent) :
    st.unsent yaml cfg = sent.filter isSync ++ st'.unsent yaml cfg := by
  have hpending := pending_moves hmove
  -- past the filling, what is still to be sent is the pending notices
  have hnotices (hfilled : st.service.filled = true) (hfilled' : st'.service.filled = true)
      (hsent : ∀ msg ∈ sent.filter isSync, msg = syncMSG "subscribed") :
      st.unsent yaml cfg = sent.filter isSync ++ st'.unsent yaml cfg := by
    rw [unsent_of_filled hfilled, unsent_of_filled hfilled', hpending, List.replicate_add,
      ← List.eq_replicate_of_mem hsent]
  cases hmove with
  | boot hservice => simp [unsent, hservice, isSync, registration]
  | timeout hservice => simp [isSync, registration]
  | forward rest hservice hqueue =>
    have hfilled : st.service.filled = true := by simp [hservice, Service.filled]
    exact hnotices hfilled hfilled (by simp)
  | pass rest hfilled hqueue => exact hnotices hfilled hfilled (by simp)
  | ignore rest hfilled hqueue => exact hnotices hfilled hfilled (by simp)
  | report rest hfilled hqueue => exact hnotices hfilled hfilled (by simp)
  | subStart msg rest hfilled hsub hqueue => exact hnotices hfilled hfilled (by simp)
  | subTopic topic rest hfilled hsub => exact hnotices hfilled hfilled (by simp)
  | subReport hfilled hsub => exact hnotices hfilled hfilled (by simp)

theorem unsent_receives (hst : st.Coherent) (hreceive : Receives yaml cfg st msg st' sent) :
    st.unsent yaml cfg = sent.filter isSync ++ st'.unsent yaml cfg := by
  cases hreceive with
  | ack hservice => simp [unsent, hservice]
  | state hservice =>
    -- the request is sent here
    simp [unsent, hservice, request]
  | packets hservice =>
    -- one "subscribed" to be sent becomes one pending notice
    have hquiet := hst.quiet (by simp [hservice, Service.filled])
    simp only [unsent, hservice, List.filter_nil, List.nil_append]
    rw [hquiet]
    simp [pending, started, NodeState.init]
  | allSubscribed hservice =>
    have hcount : [syncMSG "AllSubscribed"].count (syncMSG "received subscriptions") = 0 := by
      decide
    simp [unsent, hservice, pending, started, List.count_append, hcount]
  | ignore => rfl
  | stop hservice hshort => simp [unsent, hservice, pending, started]

end NodeState

end ComuFrame
