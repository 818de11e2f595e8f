import ComuFrame.Central.Moves
import ComuFrame.Node.Threads
import ComuFrame.System.Basic

/-!
# ComuFrame — what a step of the system can be

The basic invariant `Inv` puts the two kinds of party together: every party is coherent, the
queues hold nothing but what the parties send, and a Node that has heard from Central is a
client. Its centre is `outstanding`: what a Node has sent in the state `Syncronization` and
Central has not received, and what it has yet to send. It starts as a request and one
"subscribed" and only ever loses its head, each time Central receives it.

* `step_steps` — a step from a state with `Inv` is one of three kinds (`Steps`);
* `outstanding_steps` — what each kind does to `outstanding`;
* `reachable_inv` — every reachable state has `Inv`;
* `central_induction` — what Central keeps when it receives a message holds in every reachable
  state; `node_induction` is the same for a Node.
-/

namespace ComuFrame

open Cpp Transition

namespace System

variable {ι : Type} (D : Deployment ι) (order : HashOrder String) (yaml : YamlCpp)

/-! ## The invariant -/

/-- The messages of a Node in the state `Syncronization` that Central has not received: the
ones in the queue, and the ones not sent yet. -/
def outstanding (s : System ι) (i : ι) : List Multipart :=
  (s.up i).filter isSync ++ (s.node i).unsent yaml (D.config i)

structure Inv (s : System ι) : Prop where
  central : s.central.Coherent order yaml
  node : ∀ i, (s.node i).Coherent
  up : ∀ i, ∀ msg ∈ s.up i, msg = NodeState.registration yaml (D.config i) ∨
    msg = NodeState.request yaml (D.config i) ∨ msg = syncMSG "subscribed"
  down : ∀ i, ∀ msg ∈ s.down i, msg ≠ []
  outstanding : ∀ i, s.outstanding D yaml i <:+
    [NodeState.request yaml (D.config i), syncMSG "subscribed"]
  /-- Central has spoken to nobody but its clients. -/
  registered : ∀ i, (s.node i).state ≠ Fsm.init ∨ s.down i ≠ [] →
    D.routingId i ∈ s.central.clients
  /-- All clients are Nodes. -/
  clients : ∀ client ∈ s.central.clients, ∃ i, D.routingId i = client

theorem inv_init : Inv D order yaml (init D) where
  central := Central.coherent_init _
  node _ := NodeState.coherent_init
  up i msg hmsg := by simp [init] at hmsg
  down i msg hmsg := by simp [init] at hmsg
  outstanding i := List.suffix_rfl
  registered i h := by simp [init, NodeState.init] at h
  clients client hclient := by simp [init] at hclient

/-! ## Kinds of steps -/

section Steps

variable [DecidableEq ι]

/-- The steps of a state with `Inv`. -/
inductive Steps (s : System ι) : Event ι → System ι → Prop where
  | act (i : ι) (action : NodeState.Action) (st : NodeState) (sent : List Multipart)
      (hmove : NodeState.Moves yaml (D.config i) (s.node i) st sent) :
    Steps s (.act i action) (s.updateNode i st sent)
  | deliver (i : ι) (msg : Multipart) (rest : List Multipart) (st : NodeState)
      (sent : List Multipart) (hdown : s.down i = msg :: rest)
      (hreceive : NodeState.Receives yaml (D.config i) (s.node i) msg st sent) :
    Steps s (.deliver i)
      { s.updateNode i st sent with down := Function.update s.down i rest }
  | central (i : ι) (msgState data : String) (rest : List Multipart) (c : Central)
      (sent : List Multipart) (hfault : s.central.fault = none)
      (hup : s.up i = [msgState, data] :: rest)
      (hmsgState : msgState = "registration" ∨ msgState = "syncronization")
      (hmove : Central.Moves order yaml s.central (D.routingId i) msgState data c sent) :
    Steps s (.central i)
      { s with
        central := c
        up := Function.update s.up i rest
        down := fun j => s.down j ++ sent.filterMap (routed (D.routingId j)) }

end Steps

variable {D order yaml}

/-- The frames of a message of a Node. -/
theorem Inv.up_frames {s : System ι} (hinv : Inv D order yaml s) {i : ι} {msg : Multipart}
    (hmsg : msg ∈ s.up i) : ∃ msgState data, msg = [msgState, data] ∧
      (msgState = "registration" ∨ msgState = "syncronization") := by
  rcases hinv.up i msg hmsg with rfl | rfl | rfl
  · exact ⟨_, _, rfl, .inl rfl⟩
  · exact ⟨_, _, rfl, .inr rfl⟩
  · exact ⟨_, _, rfl, .inr rfl⟩

theorem step_steps [DecidableEq ι] {s s' : System ι} (hinv : Inv D order yaml s) {e : Event ι}
    (hstep : step D order yaml s e = some s') : Steps D order yaml s e s' := by
  cases e with
  | act i action =>
    obtain ⟨⟨st, sent⟩, hact, rfl⟩ := Option.map_eq_some_iff.mp hstep
    exact .act i action st sent (NodeState.act_moves (hinv.node i) hact)
  | deliver i =>
    simp only [step] at hstep
    split at hstep
    · simp at hstep
    · next msg rest hdown =>
      obtain ⟨⟨st, sent⟩, hreceive, rfl⟩ := Option.map_eq_some_iff.mp hstep
      exact .deliver i msg rest st sent hdown (NodeState.receive_receives (hinv.node i)
        (hinv.down i msg (by simp [hdown])) hreceive)
  | central i =>
    simp only [step] at hstep
    split at hstep
    · simp at hstep
    · next msg rest hup =>
      split at hstep
      · next hfault =>
        obtain ⟨msgState, data, rfl, hmsgState⟩ :=
          hinv.up_frames (show msg ∈ s.up i by simp [hup])
        simp only [Option.some.injEq] at hstep
        subst hstep
        exact .central i msgState data rest _ _ hfault hup hmsgState
          (Central.onMessage_moves hfault hinv.central.few)
      · simp at hstep

/-- A delivery is what the service thread does with the head of the queue. -/
theorem step_deliver_iff [DecidableEq ι] {s s' : System ι} {i : ι} :
    step D order yaml s (.deliver i) = some s' ↔ ∃ msg rest st sent,
      s.down i = msg :: rest ∧
      (s.node i).receive yaml (D.config i) msg = some (st, sent) ∧
      s' = { s.updateNode i st sent with down := Function.update s.down i rest } := by
  simp only [step]
  split
  · next hdown => simp [hdown]
  · next msg rest hdown =>
    constructor
    · intro hstep
      obtain ⟨⟨st, sent⟩, hreceive, heq⟩ := Option.map_eq_some_iff.mp hstep
      exact ⟨msg, rest, st, sent, hdown, hreceive, heq.symm⟩
    · intro ⟨msg', rest', st, sent, hdown', hreceive, heq⟩
      obtain ⟨rfl, rfl⟩ := List.cons.inj (hdown.symm.trans hdown')
      rw [hreceive, heq]
      rfl

/-- Central's step is what its thread does with the head of the queue. -/
theorem central_of_step [DecidableEq ι] {s s' : System ι} {i : ι}
    (hstep : step D order yaml s (.central i) = some s') :
    ∃ msg rest, s.up i = msg :: rest ∧ s.central.fault = none ∧
      s' = { s with
        central := (s.central.onMessage order yaml (D.routingId i :: msg)).1
        up := Function.update s.up i rest
        down := fun j => s.down j ++
          (s.central.onMessage order yaml (D.routingId i :: msg)).2.filterMap
            (routed (D.routingId j)) } := by
  simp only [step] at hstep
  split at hstep
  · simp at hstep
  · next msg rest hup =>
    split at hstep
    · next hfault =>
      simp only [Option.some.injEq] at hstep
      exact ⟨msg, rest, hup, hfault, hstep.symm⟩
    · simp at hstep

/-! ## Outstanding messages -/

/-- A Node that has sent its request has had its registration confirmed. -/
theorem Inv.mem_clients_of_unsent {s : System ι} (hinv : Inv D order yaml s) {i : ι}
    (hunsent : ((s.node i).unsent yaml (D.config i)).length < 2) :
    D.routingId i ∈ s.central.clients := by
  refine hinv.registered i (.inl fun hstate => ?_)
  -- before its first message a Node has both still to send
  have hreg := (hinv.node i).registering_of_state hstate
  unfold NodeState.unsent at hunsent
  cases hservice : (s.node i).service <;> simp_all [Service.registering]

/-- A Node with a message in `Syncronization` on its way is a client. -/
theorem Inv.mem_clients_of_isSync {s : System ι} (hinv : Inv D order yaml s) {i : ι}
    {msg : Multipart} (hmsg : msg ∈ s.up i) (hsync : isSync msg = true) :
    D.routingId i ∈ s.central.clients := by
  refine hinv.mem_clients_of_unsent ?_
  have hlen := (hinv.outstanding i).length_le
  have hfilter : 0 < ((s.up i).filter isSync).length :=
    List.length_pos_of_mem (List.mem_filter.mpr ⟨hmsg, hsync⟩)
  simp only [System.outstanding, List.length_append, List.length_cons, List.length_nil] at hlen
  omega

/-- Likewise, by the state in the message. -/
theorem Inv.mem_clients_of_state {s : System ι} (hinv : Inv D order yaml s) {i : ι}
    {msgState data : String} {rest : List Multipart} (hup : s.up i = [msgState, data] :: rest)
    (hstate : msgState = "syncronization") : D.routingId i ∈ s.central.clients :=
  hinv.mem_clients_of_isSync (show [msgState, data] ∈ s.up i by simp [hup])
    (by simp [isSync, hstate])

section Outstanding

variable [DecidableEq ι]

theorem outstanding_updateNode {s : System ι} {i : ι} {st : NodeState} {sent : List Multipart}
    (hunsent : (s.node i).unsent yaml (D.config i)
      = sent.filter isSync ++ st.unsent yaml (D.config i)) (j : ι) :
    (s.updateNode i st sent).outstanding D yaml j = s.outstanding D yaml j := by
  unfold outstanding updateNode
  by_cases hj : j = i
  · subst hj
    simp [hunsent]
  · simp [hj]

/-- What Central's step takes from a Node, among the messages in `Syncronization`. -/
def taken (s : System ι) (i : ι) : Event ι → List Multipart
  | .central j => if i = j then ((s.up i).take 1).filter isSync else []
  | _ => []

/-- What is taken from a Node is in its queue, and the step is Central's on that queue. -/
theorem mem_taken {s : System ι} {i : ι} {e : Event ι} {msg : Multipart}
    (hmem : msg ∈ s.taken i e) : e = .central i ∧ msg ∈ s.up i ∧ isSync msg = true := by
  cases e with
  | act => simp [taken] at hmem
  | deliver => simp [taken] at hmem
  | central j =>
    simp only [taken] at hmem
    split at hmem
    · next hi =>
      obtain ⟨hhead, hsync⟩ := List.mem_filter.mp hmem
      exact ⟨by rw [hi], List.mem_of_mem_take hhead, hsync⟩
    · simp at hmem

/-- **Outstanding messages.** They leave at the head, by being received. -/
theorem outstanding_steps {s s' : System ι} (hinv : Inv D order yaml s) {e : Event ι}
    (hsteps : Steps D order yaml s e s') (i : ι) :
    s.outstanding D yaml i = s.taken i e ++ s'.outstanding D yaml i := by
  cases hsteps with
  | act j action st sent hmove =>
    exact (outstanding_updateNode (NodeState.unsent_moves hmove) i).symm
  | deliver j msg rest st sent hdown hreceive =>
    exact (outstanding_updateNode (NodeState.unsent_receives (hinv.node j) hreceive) i).symm
  | central j msgState data rest c sent hfault hup hmsgState hmove =>
    -- only the head of this one queue goes
    unfold outstanding taken
    by_cases hi : i = j
    · subst hi
      simp only [hup, if_true, Function.update_self, List.take_succ_cons, List.take_zero]
      rw [← List.append_assoc, ← List.filter_append, List.singleton_append]
    · simp [hi]

/-- Nothing is ever added. -/
theorem outstanding_suffix {s s' : System ι} (hinv : Inv D order yaml s) {e : Event ι}
    (hsteps : Steps D order yaml s e s') (i : ι) :
    s'.outstanding D yaml i <:+ s.outstanding D yaml i :=
  ⟨s.taken i e, (outstanding_steps hinv hsteps i).symm⟩

/-- A message in `Syncronization` that Central receives was the head. -/
theorem outstanding_received {s s' : System ι} (hinv : Inv D order yaml s) {i : ι}
    {data : String} {rest : List Multipart} (hup : s.up i = syncMSG data :: rest)
    (hsteps : Steps D order yaml s (.central i) s') :
    s.outstanding D yaml i = syncMSG data :: s'.outstanding D yaml i := by
  rw [outstanding_steps hinv hsteps i]
  simp [taken, hup]

end Outstanding

/-! ## What reaches a Node -/

theorem routed_ne_nil {identity : String} {msg frames : Multipart}
    (h : routed identity msg = some frames) : frames ≠ [] := by
  match msg with
  | [] => simp [routed] at h
  | [_] => simp [routed] at h
  | addressee :: frame :: rest =>
    simp only [routed, Option.ite_none_right_eq_some, Option.some.injEq] at h
    simp [← h.2]

/-- What is delivered was addressed to the Node. -/
theorem routed_cons {identity client : String} {msg frames : Multipart}
    (h : routed identity (client :: msg) = some frames) : client = identity := by
  cases msg with
  | nil => simp [routed] at h
  | cons frame rest =>
    simp only [routed, Option.ite_none_right_eq_some] at h
    exact h.1

/-! ## Every reachable state -/

section Reachable

variable [DecidableEq ι]

theorem Inv.act {s : System ι} (hinv : Inv D order yaml s) {i : ι} {st : NodeState}
    {sent : List Multipart}
    (hmove : NodeState.Moves yaml (D.config i) (s.node i) st sent) :
    Inv D order yaml (s.updateNode i st sent) where
  central := hinv.central
  node j := by
    by_cases hj : j = i
    · subst hj
      simpa [updateNode] using (hinv.node j).moves hmove
    · simpa [updateNode, hj] using hinv.node j
  up j msg hmsg := by
    by_cases hj : j = i
    · subst hj
      simp only [updateNode, Function.update_self, List.mem_append] at hmsg
      rcases hmsg with hold | hnew
      · exact hinv.up j msg hold
      · rcases NodeState.sent_moves hmove with ⟨-, rfl⟩ | ⟨-, rfl⟩ | rfl
        · exact .inl (List.mem_singleton.mp hnew)
        · exact .inr (.inr (List.mem_singleton.mp hnew))
        · simp at hnew
    · simp only [updateNode, Function.update_of_ne hj] at hmsg
      exact hinv.up j msg hmsg
  down := hinv.down
  outstanding j := by
    rw [outstanding_updateNode (NodeState.unsent_moves hmove)]
    exact hinv.outstanding j
  registered j h := by
    refine hinv.registered j ?_
    by_cases hj : j = i
    · subst hj
      simpa [updateNode, NodeState.state_moves hmove] using h
    · simpa [updateNode, hj] using h
  clients := hinv.clients

theorem Inv.deliver {s : System ι} (hinv : Inv D order yaml s) {i : ι} {msg : Multipart}
    {rest : List Multipart} {st : NodeState} {sent : List Multipart}
    (hdown : s.down i = msg :: rest)
    (hreceive : NodeState.Receives yaml (D.config i) (s.node i) msg st sent) :
    Inv D order yaml
      { s.updateNode i st sent with down := Function.update s.down i rest } where
  central := hinv.central
  node j := by
    by_cases hj : j = i
    · subst hj
      simpa [updateNode] using (hinv.node j).receives hreceive
    · simpa [updateNode, hj] using hinv.node j
  up j msg' hmsg := by
    by_cases hj : j = i
    · subst hj
      simp only [updateNode, Function.update_self, List.mem_append] at hmsg
      rcases hmsg with hold | hnew
      · exact hinv.up j msg' hold
      · rcases NodeState.sent_receives hreceive with rfl | rfl
        · exact .inr (.inl (List.mem_singleton.mp hnew))
        · simp at hnew
    · simp only [updateNode, Function.update_of_ne hj] at hmsg
      exact hinv.up j msg' hmsg
  down j msg' hmsg := by
    by_cases hj : j = i
    · subst hj
      simp only [Function.update_self] at hmsg
      exact hinv.down j msg' (by simp [hdown, hmsg])
    · simp only [Function.update_of_ne hj] at hmsg
      exact hinv.down j msg' hmsg
  outstanding j := by
    have h := outstanding_updateNode (s := s)
      (NodeState.unsent_receives (hinv.node i) hreceive) j
    exact h ▸ hinv.outstanding j
  registered j h := by
    by_cases hj : j = i
    · -- it has been spoken to: the message is in its queue
      subst hj
      exact hinv.registered j (.inr (by simp [hdown]))
    · refine hinv.registered j ?_
      simpa [updateNode, hj] using h
  clients := hinv.clients

theorem Inv.central_step {s : System ι} (hinv : Inv D order yaml s) {i : ι}
    {msgState data : String} {rest : List Multipart} {c : Central} {sent : List Multipart}
    (hfault : s.central.fault = none) (hup : s.up i = [msgState, data] :: rest)
    (hmsgState : msgState = "registration" ∨ msgState = "syncronization")
    (hmove : Central.Moves order yaml s.central (D.routingId i) msgState data c sent) :
    Inv D order yaml { s with
      central := c
      up := Function.update s.up i rest
      down := fun j => s.down j ++ sent.filterMap (routed (D.routingId j)) } where
  central := hinv.central.moves (hinv.mem_clients_of_state hup) hmove
  node := hinv.node
  up j msg hmsg := by
    by_cases hj : j = i
    · subst hj
      simp only [Function.update_self] at hmsg
      exact hinv.up j msg (by simp [hup, hmsg])
    · simp only [Function.update_of_ne hj] at hmsg
      exact hinv.up j msg hmsg
  down j msg hmsg := by
    rcases List.mem_append.mp hmsg with hold | hnew
    · exact hinv.down j msg hold
    · obtain ⟨_, -, hrouted⟩ := List.mem_filterMap.mp hnew
      exact routed_ne_nil hrouted
  outstanding j := by
    have h := outstanding_steps hinv (.central i msgState data rest c sent hfault hup hmsgState hmove) j
    exact (List.suffix_append _ _).trans (h ▸ hinv.outstanding j)
  registered j h := by
    have hsubset := Central.clients_subset_moves hmove
    by_cases hold : (s.node j).state ≠ Fsm.init ∨ s.down j ≠ []
    · exact hsubset (hinv.registered j hold)
    · -- the message that makes the difference is addressed to a client
      have hnew : sent.filterMap (routed (D.routingId j)) ≠ [] := by
        intro hnil
        simp only [hnil, List.append_nil] at h
        exact hold h
      obtain ⟨frames, hframes⟩ := List.exists_mem_of_ne_nil _ hnew
      obtain ⟨msg, hmsg, hrouted⟩ := List.mem_filterMap.mp hframes
      obtain ⟨client, hclient, rest', rfl⟩ := Central.addressee_moves hinv.central
        (hinv.mem_clients_of_state hup) hmsgState hmove hmsg
      exact routed_cons hrouted ▸ hclient
  clients client hclient := by
    rcases Central.clients_moves hmove with h | ⟨-, h, -⟩
    · exact hinv.clients client (h ▸ hclient)
    · rcases List.mem_append.mp (h ▸ hclient) with hold | hnew
      · exact hinv.clients client hold
      · exact ⟨i, (List.mem_singleton.mp hnew).symm⟩

theorem Inv.steps {s s' : System ι} (hinv : Inv D order yaml s) {e : Event ι}
    (hsteps : Steps D order yaml s e s') : Inv D order yaml s' := by
  cases hsteps with
  | act i action st sent hmove => exact hinv.act hmove
  | deliver i msg rest st sent hdown hreceive => exact hinv.deliver hdown hreceive
  | central i msgState data rest c sent hfault hup hmsgState hmove =>
    exact hinv.central_step hfault hup hmsgState hmove

/-- **Every reachable state has the basic invariant.** -/
theorem reachable_inv {s : System ι} (hreach : Reachable D order yaml s) :
    Inv D order yaml s :=
  hreach.induction (inv_init D order yaml)
    fun _ hinv hstep => hinv.steps (step_steps hinv hstep)

/-- **The invariant rule for Central**: nobody else changes it, and what it receives has three
frames. -/
theorem central_induction {I : Central → Prop} (hinit : I (Central.init D.expectedClient))
    (hmessage : ∀ {s : System ι} {i msgState data rest}, Reachable D order yaml s →
      s.central.fault = none → s.up i = [msgState, data] :: rest → I s.central →
      I (s.central.onMessage order yaml [D.routingId i, msgState, data]).1)
    {s : System ι} (hreach : Reachable D order yaml s) : I s.central := by
  refine hreach.induction (I := fun s => I s.central) hinit ?_
  intro s e s' hreach ih hstep
  cases e with
  | act i action =>
    obtain ⟨moved, -, rfl⟩ := Option.map_eq_some_iff.mp hstep
    exact ih
  | deliver i =>
    obtain ⟨msg, rest, st, sent, -, -, rfl⟩ := step_deliver_iff.mp hstep
    exact ih
  | central i =>
    obtain ⟨msg, rest, hup, hfault, rfl⟩ := central_of_step hstep
    obtain ⟨msgState, data, rfl, -⟩ :=
      (reachable_inv hreach).up_frames (show msg ∈ s.up i by simp [hup])
    exact hmessage hreach hfault hup ih

/-- **The invariant rule for a Node**: it changes by its own moves and by what it receives. -/
theorem node_induction {I : NodeState → Prop} {i : ι} (hinit : I NodeState.init)
    (hact : ∀ {s : System ι} {st sent}, Reachable D order yaml s → I (s.node i) →
      NodeState.Moves yaml (D.config i) (s.node i) st sent → I st)
    (hreceive : ∀ {s : System ι} {msg rest st sent}, Reachable D order yaml s → I (s.node i) →
      s.down i = msg :: rest → NodeState.Receives yaml (D.config i) (s.node i) msg st sent → I st)
    {s : System ι} (hreach : Reachable D order yaml s) : I (s.node i) := by
  refine hreach.induction (I := fun s => I (s.node i)) hinit ?_
  intro s e s' hreach ih hstep
  cases step_steps (reachable_inv hreach) hstep with
  | act j action st sent hmove =>
    by_cases hi : i = j
    · subst hi
      simpa [updateNode] using hact hreach ih hmove
    · simpa [updateNode, hi] using ih
  | deliver j msg rest st sent hdown hmsg =>
    by_cases hi : i = j
    · subst hi
      simpa [updateNode] using hreceive hreach ih hdown hmsg
    · simpa [updateNode, hi] using ih
  | central => exact ih

end Reachable

end System

end ComuFrame
