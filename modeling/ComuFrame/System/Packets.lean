import ComuFrame.System.Provenance
import ComuFrame.System.Transcript

/-!
# ComuFrame — what a Node takes for its packets

A Node fills its subscriptions with the third message it receives. Which one that is depends on
nothing but how often Central has confirmed its registration, and so on how many repetitions of
it were sent in time.

* `subscriptions_iff_confirmations` — confirmed once, it takes the answer to its request;
  confirmed twice, the new state of Central; confirmed more often, a confirmation. There is no
  other case, in any interleaving;
* `notReconfirmed_of_confirmations` — a Node that was confirmed once was not confirmed again by
  any step, which is what the results on the order of Central's messages ask for.
-/

namespace ComuFrame

open Cpp Transition

/-! ## The third message -/

namespace NodeState

/-- These are the messages a Node has received: it has counted the first three, and the third
has become its subscriptions. -/
structure Took (st : NodeState) (messages : List Multipart) : Prop where
  counted : st.service.filled = false → messages.length = st.service.position
  third : st.service.filled = true →
    ∃ first second rest, messages = first :: second :: st.subscriptions :: rest

variable {yaml : YamlCpp} {cfg : NodeConfig} {st st' : NodeState} {msg : Multipart}
  {sent messages : List Multipart}

theorem took_init : Took NodeState.init [] where
  counted _ := rfl
  third h := by simp [NodeState.init, Service.filled] at h

/-- Without a message of Central nothing is counted. -/
theorem Took.moves (htook : st.Took messages) (hmove : Moves yaml cfg st st' sent) :
    st'.Took messages := by
  have hsubscriptions := subscriptions_moves hmove
  rcases service_moves hmove with hservice | ⟨hboot, hservice⟩
  · constructor
    · rw [hservice]
      exact htook.counted
    · rw [hservice, hsubscriptions]
      exact htook.third
  · have hnone := htook.counted (by simp [hboot, Service.filled])
    rw [hboot] at hnone
    constructor
    · rw [hservice]
      exact fun _ => hnone
    · rw [hservice]
      exact fun h => by simp [Service.filled] at h

theorem Took.receives (htook : st.Took messages)
    (hreceive : Receives yaml cfg st msg st' sent) : st'.Took (messages ++ [msg]) := by
  -- in the final loop a message is one of the rest
  have hlater (hservice : st.service = .loop) : ∃ first second rest,
      messages ++ [msg] = first :: second :: st.subscriptions :: rest := by
    obtain ⟨first, second, rest, heq⟩ := htook.third (by simp [hservice, Service.filled])
    exact ⟨first, second, rest ++ [msg], by rw [heq]; rfl⟩
  cases hreceive with
  | ack hservice =>
    have hcounted := htook.counted (by simp [hservice, Service.filled])
    rw [hservice] at hcounted
    exact ⟨fun _ => by simp [hcounted, Service.position], fun h => by simp [Service.filled] at h⟩
  | state hservice =>
    have hcounted := htook.counted (by simp [hservice, Service.filled])
    rw [hservice] at hcounted
    exact ⟨fun _ => by simp [hcounted, Service.position], fun h => by simp [Service.filled] at h⟩
  | packets hservice =>
    have hcounted := htook.counted (by simp [hservice, Service.filled])
    rw [hservice] at hcounted
    obtain ⟨first, second, rfl⟩ := List.length_eq_two.mp hcounted
    exact ⟨fun h => by simp [Service.filled] at h, fun _ => ⟨first, second, [], rfl⟩⟩
  | allSubscribed hservice =>
    exact ⟨fun h => by simp [hservice, Service.filled] at h, fun _ => hlater hservice⟩
  | ignore hservice =>
    exact ⟨fun h => by simp [hservice, Service.filled] at h, fun _ => hlater hservice⟩
  | stop hservice =>
    exact ⟨fun h => by simp [Service.filled] at h, fun _ => hlater hservice⟩

end NodeState

namespace Central

variable {order : HashOrder String} {yaml : YamlCpp} {c : Central}

/-- A confirmation is not told behind the confirmations: no answer looks like one. -/
theorem connected_notMem_told (hc : Coherent order yaml c) (identity : String) :
    ["connected"] ∉ c.told identity := by
  intro hmem
  unfold told at hmem
  split at hmem
  · cases hphase : c.phase with
    | registering => simp [hphase] at hmem
    | collecting => simp [hphase, syncMSG] at hmem
    | subscribing requestMap toCheckSubscriptions =>
      simp only [hphase, List.mem_append, List.mem_cons, syncMSG, List.cons.injEq] at hmem
      rcases hmem with (⟨hne, -⟩ | hanswer) | hreleased
      · exact absurd hne (by decide)
      · obtain ⟨db, hdb, heq⟩ := hc.replies requestMap toCheckSubscriptions hphase
        obtain ⟨reply, hreply, -, hpackets⟩ := mem_answers hanswer
        obtain ⟨hreplydb, hprovided⟩ := reply_of_mem_replyLoop hdb (heq ▸ hreply)
        have hframe := DataBase.frame_of_mem_answer hreplydb.valid
          (show "connected" ∈ (reply.db.providePackets order reply.request).1 by
            rw [← hprovided, hpackets]; simp)
        exact absurd hframe (by decide)
      · split at hreleased
        · simp at hreleased
        · simp at hreleased
  · simp at hmem

/-- Behind the confirmations the new state comes first, -/
theorem first_of_told {identity : String} {first : Multipart} {rest : List Multipart}
    (htold : c.told identity = first :: rest) : first = syncMSG "syncronization" := by
  unfold told at htold
  split at htold
  · cases hphase : c.phase with
    | registering => simp [hphase] at htold
    | collecting =>
      rw [hphase] at htold
      exact (List.cons.inj htold).1.symm
    | subscribing =>
      rw [hphase] at htold
      exact (List.cons.inj htold).1.symm
  · simp at htold

/-- and then the answer, if the client is not sent "AllSubscribed" without one. -/
theorem second_of_told {identity : String} {first second : Multipart} {rest : List Multipart}
    (htold : c.told identity = first :: second :: rest)
    (hne : second ≠ syncMSG "AllSubscribed") :
    ∃ reply ∈ c.replies, reply.client = identity ∧ second = reply.packetNeeded := by
  unfold told at htold
  split at htold
  · cases hphase : c.phase with
    | registering => simp [hphase] at htold
    | collecting => simp [hphase] at htold
    | subscribing requestMap toCheckSubscriptions =>
      simp only [hphase, List.cons_append, List.cons.injEq] at htold
      have hmem : second ∈ (c.replies.map Reply.message).filterMap (routed identity) ++
          (if toCheckSubscriptions = [] then [syncMSG "AllSubscribed"] else []) := by
        rw [htold.2]
        exact List.mem_cons_self
      rcases List.mem_append.mp hmem with hanswer | hreleased
      · obtain ⟨reply, hreply, hclient, hpackets⟩ := mem_answers hanswer
        exact ⟨reply, hreply, hclient, hpackets.symm⟩
      · split at hreleased
        · exact absurd (List.mem_singleton.mp hreleased) hne
        · simp at hreleased
  · simp at htold

/-- The replies are what some database has provided, in every phase. -/
def Provided (order : HashOrder String) (yaml : YamlCpp) (c : Central) : Prop :=
  ∀ reply ∈ c.replies, DataBase.Reachable order yaml reply.db ∧
    reply.packetNeeded = (reply.db.providePackets order reply.request).1

theorem provided_init (expectedClient : Nat) : Provided order yaml (init expectedClient) := by
  unfold init registrationHead
  split
  · exact fun reply hreply => by simp at hreply
  · exact fun reply hreply => by simp at hreply

theorem Provided.moves {c' : Central} {sender msgState data : String} {sent : List Multipart}
    (hprovided : Provided order yaml c) (hc : Coherent order yaml c)
    (hmove : Moves order yaml c sender msgState data c' sent) : Provided order yaml c' := by
  cases hmove with
  | takeLast requestMap names => exact fun reply hreply => reply_of_mem_replyLoop hc.db hreply
  | _ => exact hprovided

end Central

namespace System

variable {ι : Type} [DecidableEq ι] {D : Deployment ι} {order : HashOrder String}
  {yaml : YamlCpp} {s s' : System ι} {es : List (Event ι)} {i : ι}

/-- What a Node has received, from the start. -/
theorem took_of_run (hrun : Run (step D order yaml) Always (init D) es s) (i : ι) :
    (s.node i).Took (outputs (step D order yaml) (received i) (init D) es) := by
  induction hrun with
  | nil => exact NodeState.took_init
  | @snoc es s e s' hrun _ hstep ih =>
    rw [hrun.outputs_snoc]
    have hinv := reachable_inv hrun.reachable
    cases step_steps hinv hstep with
    | act j action st sent hmove =>
      simp only [received, List.append_nil]
      by_cases hi : i = j
      · subst hi
        simpa [updateNode] using ih.moves hmove
      · simpa [updateNode, hi] using ih
    | deliver j msg rest st sent hdown hreceive =>
      by_cases hi : i = j
      · subst hi
        simpa [updateNode, received, hdown] using ih.receives hreceive
      · simpa [updateNode, received, hi] using ih
    | central => simpa [received] using ih

theorem reachable_provided (hreach : Reachable D order yaml s) :
    s.central.Provided order yaml := by
  refine central_induction (Central.provided_init _) ?_ hreach
  intro s i msgState data rest hreach hfault _ ih
  have hc := (reachable_inv hreach).central
  exact ih.moves hc (Central.onMessage_moves hfault hc.few)

/-! ## The released are through -/

/-- "AllSubscribed" never becomes the subscriptions: it comes to Nodes that have them. -/
theorem subscriptions_ne_released (hreach : Reachable D order yaml s) (i : ι) :
    (s.node i).subscriptions ≠ syncMSG "AllSubscribed" := by
  refine node_induction (I := fun st => st.subscriptions ≠ syncMSG "AllSubscribed") ?_ ?_ ?_
    hreach
  · simp [NodeState.init, syncMSG]
  · intro s st sent _ ih hmove
    rwa [NodeState.subscriptions_moves hmove]
  · intro s msg rest st sent hreach ih hdown hreceive
    cases hreceive with
    | packets hservice =>
      intro heq
      obtain rfl : msg = syncMSG "AllSubscribed" := heq
      -- the Node would have reported before it has anything to report
      have hmem : syncMSG "AllSubscribed" ∈ s.down i := by simp [hdown]
      have hinv := reachable_inv hreach
      obtain ⟨requestMap, hphase⟩ := released_of_down hreach hmem
      have hclient := hinv.registered i (.inr (List.ne_nil_of_mem hmem))
      rw [(Central.subscribing_eq hphase).2.1] at hclient
      obtain ⟨j, hj, hsub, -⟩ := subscribed_of_down hreach hmem _ hclient
      obtain rfl := D.distinct hj
      have hfilled := (hinv.node j).filled_of_queue
        (.inr (.inr (.inr (.inr (by rw [hsub]; decide)))))
      rw [hservice] at hfilled
      exact absurd hfilled (by decide)
    | _ => exact ih

/-! ## What is taken for the packets -/

/-- How often Central has confirmed the registration of Node `i`. -/
def confirmations (D : Deployment ι) (order : HashOrder String) (yaml : YamlCpp) (i : ι)
    (es : List (Event ι)) : ℕ :=
  (outputs (step D order yaml) (tells D order yaml i) (init D) es).count ["connected"]

/-- The subscriptions are the packets of Central's reply to the Node. -/
def HasAnswer (D : Deployment ι) (i : ι) (s : System ι) : Prop :=
  ∃ reply ∈ s.central.replies, reply.client = D.routingId i ∧
    (s.node i).subscriptions = reply.packetNeeded

theorem confirmations_eq (hrun : Run (step D order yaml) Always (init D) es s) (i : ι) :
    outputs (step D order yaml) (received i) (init D) es ++ s.down i
      = List.replicate (confirmations D order yaml i es) ["connected"]
        ++ s.central.told (D.routingId i) ∧
    (D.routingId i ∈ s.central.clients ↔ 0 < confirmations D order yaml i es) := by
  obtain ⟨n, htells, hclient, -⟩ := told_of_run hrun i
  have hcount : confirmations D order yaml i es = n := by
    have hnone := List.count_eq_zero.mpr
      (Central.connected_notMem_told (reachable_inv hrun.reachable).central (D.routingId i))
    rw [confirmations, htells, List.count_append, hnone, List.count_replicate_self]
    rfl
  rw [hcount, ← (conveyed hrun i).1]
  exact ⟨htells, hclient⟩

/-- The third message, counted from the first confirmation. -/
theorem taken_of_confirmations (hrun : Run (step D order yaml) Always (init D) es s)
    (hfilled : (s.node i).service.filled = true) :
    (confirmations D order yaml i es = 1 ∧ HasAnswer D i s) ∨
    (confirmations D order yaml i es = 2 ∧
      (s.node i).subscriptions = syncMSG "syncronization") ∨
    (2 < confirmations D order yaml i es ∧ (s.node i).subscriptions = ["connected"]) := by
  have hinv := reachable_inv hrun.reachable
  obtain ⟨htold, hclient⟩ := confirmations_eq hrun i
  obtain ⟨first, second, rest, hthird⟩ := (took_of_run hrun i).third hfilled
  have hpos : 0 < confirmations D order yaml i es := by
    refine hclient.mp (hinv.registered i (.inl fun hstate => ?_))
    -- whose subscriptions are filled has heard from Central
    have hreg := (hinv.node i).registering_of_state hstate
    rw [NodeState.registering_eq_false_of_filled hfilled] at hreg
    exact absurd hreg (by decide)
  rw [hthird] at htold
  generalize confirmations D order yaml i es = n at htold hclient hpos ⊢
  -- the third of the messages told, counted from the first confirmation
  obtain rfl | rfl | hmany : n = 1 ∨ n = 2 ∨ 2 < n := by omega
  · have hbehind : s.central.told (D.routingId i)
        = second :: (s.node i).subscriptions :: (rest ++ s.down i) :=
      (List.cons.inj htold).2.symm
    exact .inl ⟨rfl, Central.second_of_told hbehind
      (subscriptions_ne_released hrun.reachable i)⟩
  · have hbehind : s.central.told (D.routingId i)
        = (s.node i).subscriptions :: (rest ++ s.down i) :=
      (List.cons.inj (List.cons.inj htold).2).2.symm
    exact .inr (.inl ⟨rfl, Central.first_of_told hbehind⟩)
  · obtain ⟨m, rfl⟩ : ∃ m, n = m + 3 := ⟨n - 3, by omega⟩
    simp only [List.replicate_succ, List.cons_append, List.cons.injEq] at htold
    exact .inr (.inr ⟨hmany, htold.2.2.1⟩)

/-- **What a Node takes for its packets** depends on how often it was confirmed, which it was:
exactly if once, it is the answer to its request; exactly if twice, it is Central's new state;
exactly if more often, it is one more confirmation. -/
theorem subscriptions_iff_confirmations (hrun : Run (step D order yaml) Always (init D) es s)
    (hfilled : (s.node i).service.filled = true) :
    0 < confirmations D order yaml i es ∧
    (HasAnswer D i s ↔ confirmations D order yaml i es = 1) ∧
    ((s.node i).subscriptions = syncMSG "syncronization" ↔
      confirmations D order yaml i es = 2) ∧
    ((s.node i).subscriptions = ["connected"] ↔ 2 < confirmations D order yaml i es) := by
  have htaken := taken_of_confirmations hrun hfilled
  -- an answer consists of packets or of the error text, and is neither of the others
  have hanswer (h : HasAnswer D i s) : (s.node i).subscriptions ≠ syncMSG "syncronization" ∧
      (s.node i).subscriptions ≠ ["connected"] := by
    obtain ⟨reply, hreply, -, hsubscriptions⟩ := h
    obtain ⟨hreplydb, hprovided⟩ := reachable_provided hrun.reachable reply hreply
    rw [hprovided] at hsubscriptions
    have hframe (frame : String) (hmem : frame ∈ (s.node i).subscriptions) :
        frame = DataBase.notFound ∨ '_' ∈ frame.toList :=
      DataBase.frame_of_mem_answer hreplydb.valid (hsubscriptions ▸ hmem)
    constructor
    · intro hstate
      exact absurd (hframe "syncronization" (by simp [hstate, syncMSG])) (by decide)
    · intro hconnected
      exact absurd (hframe "connected" (by simp [hconnected])) (by decide)
  have hne : syncMSG "syncronization" ≠ ["connected"] := by decide
  rcases htaken with ⟨honce, h⟩ | ⟨htwice, h⟩ | ⟨hmore, h⟩
  · obtain ⟨hstate, hconnected⟩ := hanswer h
    exact ⟨by omega, iff_of_true h honce, iff_of_false hstate (by omega),
      iff_of_false hconnected (by omega)⟩
  · exact ⟨by omega, iff_of_false (fun h' => (hanswer h').1 h) (by omega), iff_of_true h htwice,
      iff_of_false (fun h' => hne (h.symm.trans h')) (by omega)⟩
  · exact ⟨by omega, iff_of_false (fun h' => (hanswer h').2 h) (by omega),
      iff_of_false (fun h' => hne (h'.symm.trans h)) (by omega), iff_of_true h hmore⟩

/-- A Node confirmed twice. -/
theorem subscriptions_iff_confirmations_sample :
    ∃ s, Run (sampleStep 2) Always (init (sampleDeployment 2)) reconfirmed s ∧
      ¬ HasAnswer (sampleDeployment 2) false s ∧
      (s.node false).subscriptions = syncMSG "syncronization" := by
  obtain ⟨s, hrun, hfilled⟩ : ∃ s, Run (sampleStep 2) Always (init (sampleDeployment 2))
      reconfirmed s ∧ (s.node false).service.filled = true := Run.of_exec (by decide)
  have htwice : confirmations (sampleDeployment 2) (HashOrder.insertion String) sampleYaml false
      reconfirmed = 2 := by decide
  obtain ⟨-, honce, hstate, -⟩ := subscriptions_iff_confirmations hrun hfilled
  exact ⟨s, hrun, fun hanswer => absurd (honce.mp hanswer) (by omega), hstate.mpr htwice⟩

/-! ## Confirmed once -/

theorem confirmations_snoc (hrun : Run (step D order yaml) Always (init D) es s) (e : Event ι) :
    confirmations D order yaml i (es ++ [e])
      = confirmations D order yaml i es + (tells D order yaml i s e).count ["connected"] := by
  rw [confirmations, hrun.outputs_snoc, List.count_append]
  rfl

/-- In the registration loop a message of a client is answered with a confirmation. -/
theorem tells_of_reconfirmed (hinv : Inv D order yaml s)
    (hstep : step D order yaml s (.central i) = some s')
    (hreg : s.central.registering = true) (hclient : D.routingId i ∈ s.central.clients) :
    tells D order yaml i s (.central i) = [["connected"]] := by
  obtain ⟨msg, rest, hup, hfault, -⟩ := central_of_step hstep
  obtain ⟨msgState, data, rfl, -⟩ := hinv.up_frames (show msg ∈ s.up i by simp [hup])
  cases hphase : s.central.phase with
  | registering clients =>
    rw [Central.clients_registering hphase] at hclient
    have honMessage :
        s.central.onMessage order yaml [D.routingId i, msgState, data] = _ :=
      Central.onMessage_registering hfault hphase (hinv.central.few clients hphase)
    rw [if_pos hclient] at honMessage
    simp only [tells, sentBy, hup, honMessage, Central.routed_single, if_true]
  | collecting => simp [(Central.collecting_eq hphase).1] at hreg
  | subscribing => simp [(Central.subscribing_eq hphase).1] at hreg

/-- A Node that Central has confirmed at most once was not confirmed again by any step. -/
theorem notReconfirmed_of_confirmations
    (hrun : Run (step D order yaml) Always (init D) es s)
    (honce : confirmations D order yaml i es ≤ 1) :
    Run (step D order yaml) (NotReconfirmed D i) (init D) es s := by
  induction hrun with
  | nil => exact .nil
  | @snoc es s e s' hrun _ hstep ih =>
    rw [confirmations_snoc hrun] at honce
    refine .snoc (ih (by omega)) (fun he hreg hclient => ?_) hstep
    subst he
    have hpos := (confirmations_eq hrun i).2.mp hclient
    rw [tells_of_reconfirmed (reachable_inv hrun.reachable) hstep hreg hclient,
      List.count_singleton_self] at honce
    omega

end System

end ComuFrame
