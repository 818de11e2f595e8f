import ComuFrame.Central.Script
import ComuFrame.Node.Progress
import ComuFrame.System.Subscriptions

/-!
# ComuFrame — the conversation of a Node with Central

What passes over the connection of one Node, from the first message to the last, in every
interleaving and with any timeouts.

* `central_of_run` — Central in the system is Central on the messages as they arrive, and what
  it sends reaches each Node in order, nothing lost and nothing twice, so whatever holds of
  Central for any sequence of messages holds in the system;
* `conversation_of_run` — a Node says its registration once and once more for each timeout, then
  its request and "subscribed" once; it is told "connected" any number of times, at least once
  if it is a client, and behind that its new state, the answer and "AllSubscribed", each at
  most once.
-/

namespace ComuFrame

open Cpp Transition

namespace Central

/-- What Central has told the client `identity` behind its confirmations. -/
def told (c : Central) (identity : String) : List Multipart :=
  if identity ∈ c.clients then
    match c.phase with
    | .registering _ => []
    | .collecting _ => [syncMSG "syncronization"]
    | .subscribing _ toCheckSubscriptions => syncMSG "syncronization" ::
        (c.replies.map Reply.message).filterMap (routed identity) ++
        (if toCheckSubscriptions = [] then [syncMSG "AllSubscribed"] else [])
  else []

theorem told_of_notMem {c : Central} {identity : String} (h : identity ∉ c.clients) :
    c.told identity = [] := if_neg h

theorem told_registering {c : Central} {clients : List String}
    (hphase : c.phase = .registering clients) (identity : String) : c.told identity = [] := by
  unfold told
  split
  · rw [hphase]
  · rfl

theorem told_collecting {c : Central} {requestMap : UnorderedMap String (List String)}
    (hphase : c.phase = .collecting requestMap) {identity : String}
    (hmem : identity ∈ c.clients) : c.told identity = [syncMSG "syncronization"] := by
  rw [told, if_pos hmem, hphase]

theorem told_subscribing {c : Central} {requestMap : UnorderedMap String (List String)}
    {toCheckSubscriptions : List String}
    (hphase : c.phase = .subscribing requestMap toCheckSubscriptions) {identity : String}
    (hmem : identity ∈ c.clients) :
    c.told identity = syncMSG "syncronization" ::
        (c.replies.map Reply.message).filterMap (routed identity) ++
        (if toCheckSubscriptions = [] then [syncMSG "AllSubscribed"] else []) := by
  rw [told, if_pos hmem, hphase]

variable {order : HashOrder String} {yaml : YamlCpp} {c c' : Central}
  {sender msgState data : String} {sent : List Multipart} {identity : String}

/-- One message of each kind at most. -/
theorem length_told_le (hc : Coherent order yaml c) (identity : String) :
    (c.told identity).length ≤ 3 := by
  unfold told
  split
  · cases hphase : c.phase with
    | registering => simp
    | collecting => simp
    | subscribing requestMap toCheckSubscriptions =>
      have hanswers := length_answers_le identity (hc.replies_spec hphase).1
      simp only [List.length_append, List.length_cons]
      split
      · simp only [List.length_singleton]
        omega
      · simp only [List.length_nil]
        omega
  · simp

/-- "AllSubscribed" is told with nobody left on the list. An answer does not look like it. -/
theorem released_of_told (hc : Coherent order yaml c)
    (htold : syncMSG "AllSubscribed" ∈ c.told identity) :
    ∃ requestMap, c.phase = .subscribing requestMap [] := by
  have hne : syncMSG "AllSubscribed" ≠ syncMSG "syncronization" := by decide
  by_cases hmem : identity ∈ c.clients
  · cases hphase : c.phase with
    | registering clients => simp [told_registering hphase] at htold
    | collecting requestMap => simp [told_collecting hphase hmem, hne] at htold
    | subscribing requestMap toCheckSubscriptions =>
      by_cases hnil : toCheckSubscriptions = []
      · exact ⟨requestMap, by rw [hnil]⟩
      · rw [told_subscribing hphase hmem, if_neg hnil, List.append_nil] at htold
        obtain ⟨db, hdb, heq⟩ := hc.replies requestMap toCheckSubscriptions hphase
        obtain ⟨reply, hreply, -, hpackets⟩ :=
          mem_answers ((List.mem_cons.mp htold).resolve_left hne)
        obtain ⟨hreplydb, hanswer⟩ := reply_of_mem_replyLoop hdb (heq ▸ hreply)
        have hframe := DataBase.frame_of_mem_answer hreplydb.valid
          (show "syncronization" ∈ (reply.db.providePackets order reply.request).1 by
            rw [← hanswer, hpackets]; simp [syncMSG])
        exact absurd hframe (by decide)
  · simp [told_of_notMem hmem] at htold

/-- What a step adds to what the client `identity` is told: in the registration loop confirmations
come first, `atMost` so many, and later there are none. -/
def Tells (c c' : Central) (identity : String) (sent : List Multipart) (atMost : ℕ) : Prop :=
  ∃ confirmations new, (confirmations = 0 ∨ c.told identity = []) ∧
    sent.filterMap (routed identity) = List.replicate confirmations ["connected"] ++ new ∧
    c'.told identity = c.told identity ++ new ∧
    (identity ∈ c'.clients ↔ identity ∈ c.clients ∨ 0 < confirmations) ∧
    confirmations ≤ atMost

/-- Past the registration loop, and where nobody is registered. -/
theorem Tells.of_append {atMost : ℕ} (hclients : identity ∈ c'.clients ↔ identity ∈ c.clients)
    (htold : c'.told identity = c.told identity ++ sent.filterMap (routed identity)) :
    Tells c c' identity sent atMost :=
  ⟨0, sent.filterMap (routed identity), .inl rfl, rfl, htold, by simp [hclients], Nat.zero_le _⟩

/-- A new client is confirmed, and an old one stays. -/
theorem mem_push_iff {clients : List String} (hmem' : identity ∈ clients ++ [sender]) :
    identity ∈ clients ++ [sender] ↔
      identity ∈ clients ∨ 0 < if sender = identity then 1 else 0 := by
  refine ⟨fun _ => ?_, fun _ => hmem'⟩
  rcases List.mem_append.mp hmem' with hold | hnew
  · exact .inl hold
  · rw [if_pos (List.mem_singleton.mp hnew).symm]
    exact .inr Nat.zero_lt_one

/-- Of a confirmation to the sender. -/
theorem routed_connected (sender identity : String) :
    [[sender, "connected"]].filterMap (routed identity)
      = List.replicate (if sender = identity then 1 else 0) ["connected"] := by
  rw [routed_single]
  split
  · rfl
  · rfl

theorem tells_moves (hc : Coherent order yaml c)
    (hsync : msgState = "syncronization" → sender ∈ c.clients)
    (hmsgState : msgState = "registration" ∨ msgState = "syncronization")
    (hmove : Moves order yaml c sender msgState data c' sent) (identity : String) :
    Tells c c' identity sent (if sender = identity then 1 else 0) := by
  by_cases hmem' : identity ∈ c'.clients
  · have haddressee {msg : Multipart} (hmsg : msg ∈ sent) :=
      addressee_moves hc hsync hmsgState hmove hmsg
    have hnodup := hc.nodup_moves hmove
    cases hmove with
    | confirm clients hphase hmem =>
      refine ⟨_, [], .inr (told_registering hphase identity), ?_, (List.append_nil _).symm, ?_,
        le_refl _⟩
      · rw [routed_connected, List.append_nil]
      · simp [hmem']
    | redirect clients hphase hmem hstate =>
      -- strangers only register
      obtain ⟨client, hclient, frames, heq⟩ := haddressee (List.mem_singleton_self _)
      obtain rfl := (List.cons.inj heq).1
      exact absurd (clients_registering hphase ▸ hclient) hmem
    | register clients db hphase hmem hdb hlt =>
      refine ⟨_, [], .inr (told_registering hphase identity), ?_, ?_, ?_, le_refl _⟩
      · rw [routed_connected, List.append_nil]
      · rw [told_registering rfl, told_registering hphase, List.append_nil]
      · rw [clients_registering hphase]
        exact mem_push_iff hmem'
    | registerLast clients db hphase hmem hdb =>
      have hnodup' : (clients ++ [sender]).Nodup := hnodup
      have hmem'' : identity ∈ clients ++ [sender] := hmem'
      refine ⟨_, [syncMSG "syncronization"], .inr (told_registering hphase identity), ?_, ?_, ?_,
        le_refl _⟩
      · rw [← List.singleton_append, List.filterMap_append, routed_connected,
          routed_broadcast hnodup', if_pos hmem'', hc.state_registering (registering_eq hphase)]
        rfl
      · rw [told_registering hphase, List.nil_append]
        exact told_collecting rfl hmem'
      · rw [clients_registering hphase]
        exact mem_push_iff hmem'
    | discard => exact .of_append Iff.rfl (by simp)
    | take requestMap names hphase hstate hnew hnames hsize =>
      have hclients := (collecting_eq hphase).2.1
      refine .of_append (by rw [hclients]; exact Iff.rfl) ?_
      rw [told_collecting rfl hmem', told_collecting hphase (hclients ▸ hmem')]
      rfl
    | takeLast requestMap names hphase hstate hnew hnames hsize =>
      have hclients := (collecting_eq hphase).2.1
      refine .of_append (by rw [hclients]; exact Iff.rfl) ?_
      -- there is somebody left to hear of
      have hne : c.connectedClients ≠ [] := List.ne_nil_of_mem hmem'
      rw [told_subscribing rfl hmem', told_collecting hphase (hclients ▸ hmem'), if_neg hne,
        List.append_nil]
      rfl
    | hear requestMap toCheckSubscriptions hphase hstate hany =>
      obtain ⟨hreg, hclients, -⟩ := subscribing_eq hphase
      refine .of_append (by rw [hclients]; exact Iff.rfl) ?_
      have hne : toCheckSubscriptions ≠ [] := by
        intro hnil
        simp [hnil] at hany
      have hmem : identity ∈ c.connectedClients := hmem'
      rw [told_subscribing rfl hmem', told_subscribing hphase (hclients ▸ hmem), if_neg hne,
        List.append_nil]
      simp only [List.length_eq_zero_iff]
      split
      · rw [routed_broadcast (hclients ▸ hc.nodup), if_pos hmem, hc.state_later hreg]
        rfl
      · rfl
    | unheard => exact .of_append Iff.rfl (by simp)
    | crash fault => exact .of_append Iff.rfl (List.append_nil _).symm
  · have hmem : identity ∉ c.clients := fun h => hmem' (clients_subset_moves hmove h)
    refine .of_append (by simp [hmem, hmem']) ?_
    rw [told_of_notMem hmem', told_of_notMem hmem,
      routed_of_notMem hc hsync hmsgState hmove hmem', List.append_nil]

end Central

namespace NodeState

variable {yaml : YamlCpp} {cfg : NodeConfig} {st st' : NodeState} {msg : Multipart}
  {messages sent : List Multipart} {timeouts : ℕ}

/-- The messages of a Node: registrations, one more than timeouts once it has booted, and behind
them what is not `unsent` of its request and its report. -/
def Speaks (yaml : YamlCpp) (cfg : NodeConfig) (st : NodeState) (messages : List Multipart)
    (timeouts : ℕ) : Prop :=
  ∃ registrations said,
    messages = List.replicate registrations (registration yaml cfg) ++ said ∧
    said ++ st.unsent yaml cfg = [request yaml cfg, syncMSG "subscribed"] ∧
    registrations + st.unregistered = 1 + timeouts

theorem speaks_init : Speaks yaml cfg NodeState.init [] 0 := ⟨0, [], rfl, rfl, rfl⟩

theorem Speaks.act (hspeaks : Speaks yaml cfg st messages timeouts) (hst : st.Coherent)
    {action : Action} (hstep : st.act yaml cfg action = some (st', sent)) :
    Speaks yaml cfg st' (messages ++ sent) (timeouts + if action = .timeout then 1 else 0) := by
  obtain ⟨registrations, said, rfl, hsaid, hcount⟩ := hspeaks
  have hunregistered := unregistered_act hst hstep
  have hmove : Moves yaml cfg st st' sent := act_moves hst hstep
  have hunsent := unsent_moves hmove
  rcases sent_moves hmove with ⟨hservice, rfl⟩ | ⟨-, rfl⟩ | rfl
  · -- it registers before it says anything else
    have hnone : said = [] := by
      have hlen := congrArg List.length hsaid
      have htwo : st.unsent yaml cfg = [request yaml cfg, syncMSG "subscribed"] := by
        unfold unsent
        cases hcase : st.service <;> simp_all [Service.registering]
      rw [htwo, List.length_append] at hlen
      exact List.length_eq_zero_iff.mp (by omega)
    subst hnone
    refine ⟨registrations + 1, [], ?_, ?_, ?_⟩
    · rw [List.append_nil, List.append_nil, List.replicate_succ']
    · rw [← hsaid, hunsent]
      simp [isSync, registration]
    · simp only [isSync, registration, List.filter_cons, List.filter_nil] at hunregistered
      simp at hunregistered
      omega
  · refine ⟨registrations, said ++ [syncMSG "subscribed"], (List.append_assoc _ _ _), ?_, ?_⟩
    · rw [← hsaid, hunsent]
      simp
    · simp at hunregistered
      omega
  · refine ⟨registrations, said, List.append_nil _, ?_, ?_⟩
    · rw [← hsaid, hunsent]
      rfl
    · simp at hunregistered
      omega

theorem Speaks.receives (hspeaks : Speaks yaml cfg st messages timeouts) (hst : st.Coherent)
    (hreceive : Receives yaml cfg st msg st' sent) :
    Speaks yaml cfg st' (messages ++ sent) timeouts := by
  obtain ⟨registrations, said, rfl, hsaid, hcount⟩ := hspeaks
  have hunregistered := unregistered_receives hreceive
  have hunsent := unsent_receives hst hreceive
  have hsync : sent.filter isSync = sent ∧ (sent.filter fun msg => !isSync msg).length = 0 := by
    rcases sent_receives hreceive with rfl | rfl
    · simp [request]
    · simp
  rw [hsync.1] at hunsent
  refine ⟨registrations, said ++ sent, List.append_assoc _ _ _, ?_, ?_⟩
  · rw [← hsaid, hunsent, List.append_assoc]
  · omega

end NodeState

namespace System

variable {ι : Type} {D : Deployment ι} {order : HashOrder String} {yaml : YamlCpp}
  {s s' : System ι} {es : List (Event ι)}

/-! ## Central in the system -/

/-- What Central receives with an event, the identity in front that ROUTER puts there. -/
def arrived (D : Deployment ι) (s : System ι) : Event ι → List Multipart
  | .central i => ((s.up i).take 1).map (D.routingId i :: ·)
  | _ => []

/-- What Central sends to Node `i` with an event, as ROUTER delivers it. -/
def tells (D : Deployment ι) (order : HashOrder String) (yaml : YamlCpp) (i : ι) (s : System ι)
    (e : Event ι) : List Multipart :=
  (sentBy D order yaml s e).filterMap (routed (D.routingId i))

section Run

variable [DecidableEq ι]

/-- What Node `i` receives with an event. -/
def received (i : ι) (s : System ι) : Event ι → List Multipart
  | .deliver j => if i = j then (s.down i).take 1 else []
  | _ => []

/-- What Node `i` sends with an event. -/
def utters (D : Deployment ι) (yaml : YamlCpp) (i : ι) (s : System ι) : Event ι → List Multipart
  | .act j action =>
    if i = j then ((s.node i).act yaml (D.config i) action).elim [] Prod.snd else []
  | .deliver j =>
    if i = j then
      (s.down i).head?.elim [] fun msg =>
        ((s.node i).receive yaml (D.config i) msg).elim [] Prod.snd
    else []
  | .central _ => []

/-- What Central receives of Node `i` with an event. -/
def heardOf (i : ι) (s : System ι) : Event ι → List Multipart
  | .central j => if i = j then (s.up i).take 1 else []
  | _ => []

/-- The queue to a Node. -/
theorem down_step {e : Event ι} (hstep : step D order yaml s e = some s') (i : ι) :
    s.down i ++ tells D order yaml i s e = received i s e ++ s'.down i := by
  unfold tells
  cases e with
  | act j action =>
    obtain ⟨_, -, rfl⟩ := Option.map_eq_some_iff.mp hstep
    simp [sentBy, received, updateNode]
  | deliver j =>
    obtain ⟨msg, rest, st, sent, hdown, -, rfl⟩ := step_deliver_iff.mp hstep
    by_cases hi : i = j
    · subst hi
      simp [sentBy, received, hdown]
    · simp [sentBy, received, hi]
  | central j =>
    obtain ⟨msg, rest, hup, -, rfl⟩ := central_of_step hstep
    simp [sentBy, received, hup]

/-- The queue from a Node. -/
theorem up_step {e : Event ι} (hstep : step D order yaml s e = some s') (i : ι) :
    s.up i ++ utters D yaml i s e = heardOf i s e ++ s'.up i := by
  cases e with
  | act j action =>
    obtain ⟨⟨st, sent⟩, hact, rfl⟩ := Option.map_eq_some_iff.mp hstep
    by_cases hi : i = j
    · subst hi
      simp [utters, heardOf, updateNode, hact]
    · simp [utters, heardOf, updateNode, hi]
  | deliver j =>
    obtain ⟨msg, rest, st, sent, hdown, hreceive, rfl⟩ := step_deliver_iff.mp hstep
    by_cases hi : i = j
    · subst hi
      simp [utters, heardOf, updateNode, hdown, hreceive]
    · simp [utters, heardOf, updateNode, hi]
  | central j =>
    obtain ⟨msg, rest, hup, -, rfl⟩ := central_of_step hstep
    by_cases hi : i = j
    · subst hi
      simp [utters, heardOf, hup]
    · simp [utters, heardOf, hi]

/-- Central does what it does on the message that arrives. -/
theorem central_step {e : Event ι} (hstep : step D order yaml s e = some s') :
    s'.central = s.central.run order yaml (arrived D s e) ∧
      sentBy D order yaml s e = s.central.sentIn order yaml (arrived D s e) := by
  cases e with
  | act j action =>
    obtain ⟨_, -, rfl⟩ := Option.map_eq_some_iff.mp hstep
    exact ⟨rfl, rfl⟩
  | deliver j =>
    obtain ⟨msg, rest, st, sent, -, -, rfl⟩ := step_deliver_iff.mp hstep
    exact ⟨rfl, rfl⟩
  | central j =>
    obtain ⟨msg, rest, hup, -, rfl⟩ := central_of_step hstep
    simp [sentBy, arrived, hup, Central.run, Central.sentIn]

/-- Nothing is lost on a connection, and nothing comes twice or out of order. -/
theorem conveyed (hrun : Run (step D order yaml) Always (init D) es s) (i : ι) :
    outputs (step D order yaml) (tells D order yaml i) (init D) es
        = outputs (step D order yaml) (received i) (init D) es ++ s.down i ∧
      outputs (step D order yaml) (utters D yaml i) (init D) es
        = outputs (step D order yaml) (heardOf i) (init D) es ++ s.up i :=
  ⟨hrun.conserved (tells D order yaml i) (received i) (fun s => s.down i)
      fun hstep => down_step hstep i,
    hrun.conserved (utters D yaml i) (heardOf i) (fun s => s.up i) fun hstep => up_step hstep i⟩

/-- **Central in the system.** In every run Central's thread is where the messages that have
arrived take it, and what it has sent to each Node has been received or is in the queue, in
the order it was sent in, nothing lost and nothing twice. -/
theorem central_of_run (hrun : Run (step D order yaml) Always (init D) es s) :
    ∃ msgs, msgs = outputs (step D order yaml) (arrived D) (init D) es ∧
      s.central = (Central.init D.expectedClient).run order yaml msgs ∧
      ∀ i, ((Central.init D.expectedClient).sentIn order yaml msgs).filterMap
          (routed (D.routingId i))
        = outputs (step D order yaml) (received i) (init D) es ++ s.down i := by
  refine ⟨_, rfl, ?_⟩
  suffices h : s.central = (Central.init D.expectedClient).run order yaml
        (outputs (step D order yaml) (arrived D) (init D) es) ∧
      ∀ i, ((Central.init D.expectedClient).sentIn order yaml
          (outputs (step D order yaml) (arrived D) (init D) es)).filterMap
            (routed (D.routingId i))
        = outputs (step D order yaml) (tells D order yaml i) (init D) es from
    ⟨h.1, fun i => (h.2 i).trans (conveyed hrun i).1⟩
  induction hrun with
  | nil => exact ⟨rfl, fun i => rfl⟩
  | snoc hrun _ hstep ih =>
    obtain ⟨hcentral, htells⟩ := ih
    obtain ⟨hcentral', hsent⟩ := central_step hstep
    rw [hrun.outputs_snoc]
    refine ⟨by rw [Central.run_append, ← hcentral, hcentral'], fun i => ?_⟩
    rw [Central.sentIn_append, ← hcentral, ← hsent, List.filterMap_append, htells,
      hrun.outputs_snoc]
    rfl

/-! ## Both directions of a connection -/

theorem speaks_step (hinv : Inv D order yaml s) {e : Event ι}
    (hstep : step D order yaml s e = some s') {i : ι} {messages : List Multipart} {timeouts : ℕ}
    (hspeaks : (s.node i).Speaks yaml (D.config i) messages timeouts) :
    (s'.node i).Speaks yaml (D.config i) (messages ++ utters D yaml i s e)
      (timeouts + [e].count (.act i .timeout)) := by
  rw [List.count_singleton]
  cases e with
  | act j action =>
    obtain ⟨⟨st, sent⟩, hact, rfl⟩ := Option.map_eq_some_iff.mp hstep
    by_cases hi : i = j
    · subst hi
      simpa [utters, updateNode, hact] using hspeaks.act (hinv.node i) hact
    · simpa [utters, updateNode, hi, Ne.symm hi] using hspeaks
  | deliver j =>
    obtain ⟨msg, rest, st, sent, hdown, hreceive, rfl⟩ := step_deliver_iff.mp hstep
    by_cases hi : i = j
    · subst hi
      have hreceives : NodeState.Receives yaml (D.config i) (s.node i) msg st sent :=
        NodeState.receive_receives (hinv.node i) (hinv.down i msg (by simp [hdown])) hreceive
      simpa [utters, updateNode, hdown, hreceive] using hspeaks.receives (hinv.node i) hreceives
    · simpa [utters, updateNode, hi] using hspeaks
  | central j =>
    cases step_steps hinv hstep with
    | central => simpa [utters] using hspeaks

/-- What a Node has said, from the start. -/
theorem speaks_of_run (hrun : Run (step D order yaml) Always (init D) es s) (i : ι) :
    (s.node i).Speaks yaml (D.config i)
      (outputs (step D order yaml) (utters D yaml i) (init D) es)
      (es.count (.act i .timeout)) := by
  induction hrun with
  | nil => exact NodeState.speaks_init
  | snoc hrun _ hstep ih =>
    rw [hrun.outputs_snoc, List.count_append]
    exact speaks_step (reachable_inv hrun.reachable) hstep ih

theorem tells_step (hinv : Inv D order yaml s) {e : Event ι}
    (hstep : step D order yaml s e = some s') (i : ι) :
    Central.Tells s.central s'.central (D.routingId i) (sentBy D order yaml s e)
      ([e].count (.central i)) := by
  cases e with
  | act j action =>
    obtain ⟨_, -, rfl⟩ := Option.map_eq_some_iff.mp hstep
    exact .of_append Iff.rfl (List.append_nil _).symm
  | deliver j =>
    cases step_steps hinv hstep with
    | deliver => exact .of_append Iff.rfl (List.append_nil _).symm
  | central j =>
    obtain ⟨msg, rest, hup, hfault, rfl⟩ := central_of_step hstep
    obtain ⟨msgState, data, rfl, hmsgState⟩ := hinv.up_frames (show msg ∈ s.up j by simp [hup])
    have hmove : Central.Moves order yaml s.central (D.routingId j) msgState data _ _ :=
      Central.onMessage_moves hfault hinv.central.few
    have htells := Central.tells_moves hinv.central (hinv.mem_clients_of_state hup) hmsgState hmove
      (D.routingId i)
    simp only [D.distinct.eq_iff] at htells
    simpa [sentBy, hup, List.count_singleton] using htells

/-- What a Node has been told, from the start. -/
theorem told_of_run (hrun : Run (step D order yaml) Always (init D) es s) (i : ι) :
    ∃ confirmations,
      outputs (step D order yaml) (tells D order yaml i) (init D) es
        = List.replicate confirmations ["connected"] ++ s.central.told (D.routingId i) ∧
      (D.routingId i ∈ s.central.clients ↔ 0 < confirmations) ∧
      confirmations ≤ es.count (.central i) := by
  induction hrun with
  | nil => exact ⟨0, (Central.told_of_notMem (by simp [init])).symm, by simp [init], le_refl _⟩
  | snoc hrun _ hstep ih =>
    obtain ⟨confirmations, htells, hclient, hle⟩ := ih
    obtain ⟨confirmations', new, hfirst, hsent, htold, hclient', hle'⟩ :=
      tells_step (reachable_inv hrun.reachable) hstep i
    rw [hrun.outputs_snoc, htells, List.count_append, tells, hsent, htold]
    refine ⟨confirmations + confirmations', ?_, ?_, Nat.add_le_add hle hle'⟩
    · rcases hfirst with rfl | hnone
      · rw [List.replicate_zero, List.nil_append, Nat.add_zero, List.append_assoc]
      · rw [hnone, List.append_nil, List.nil_append, List.replicate_add, List.append_assoc]
    · rw [hclient', hclient]
      omega

/-- What has passed over the connection of Node `i`, or is on its way. -/
structure Conversation (D : Deployment ι) (order : HashOrder String) (yaml : YamlCpp) (i : ι)
    (es : List (Event ι)) (s : System ι) : Prop where
  /-- The registration, once and once more for each timeout, and behind it the request and the
  report, once each. -/
  upward : ∃ registrations said,
    outputs (step D order yaml) (heardOf i) (init D) es ++ s.up i
      = List.replicate registrations (NodeState.registration yaml (D.config i)) ++ said ∧
    said ++ (s.node i).unsent yaml (D.config i)
      = [NodeState.request yaml (D.config i), syncMSG "subscribed"] ∧
    registrations + (s.node i).unregistered = 1 + es.count (.act i .timeout)
  /-- Confirmations, to clients only, and behind them what Central has told its clients. -/
  downward : ∃ confirmations,
    outputs (step D order yaml) (received i) (init D) es ++ s.down i
      = List.replicate confirmations ["connected"] ++ s.central.told (D.routingId i) ∧
    (D.routingId i ∈ s.central.clients ↔ 0 < confirmations) ∧
    confirmations ≤ es.count (.central i)
  once : (s.central.told (D.routingId i)).length ≤ 3

/-- **The conversation of a Node.** In every interleaving and with any timeouts, what a Node and
Central say to each other keeps to its form: registrations, one request and one report; then
confirmations, and behind them the new state, the answer and "AllSubscribed", each at most
once, as far as Central's thread has got. -/
theorem conversation_of_run (hrun : Run (step D order yaml) Always (init D) es s) (i : ι) :
    Conversation D order yaml i es s where
  upward := (conveyed hrun i).2 ▸ speaks_of_run hrun i
  downward := (conveyed hrun i).1 ▸ told_of_run hrun i
  once := Central.length_told_le (reachable_inv hrun.reachable).central _

omit [DecidableEq ι] in
/-- Nobody left on the list: all clients are through their subscribe loops. -/
theorem subscribed_of_released (hinv : Inv D order yaml s) (hguarded : Guarded D yaml s)
    {requestMap : UnorderedMap String (List String)}
    (hphase : s.central.phase = .subscribing requestMap []) :
    ∀ client ∈ s.central.connectedClients, ∃ i, D.routingId i = client ∧
      Subscribed (s.node i) := by
  obtain ⟨heard, hheard, hlen⟩ := hguarded.heard requestMap [] hphase
  intro client hclient
  have hmem := hheard.all (by simpa using hlen) client hclient
  obtain ⟨i, rfl⟩ := hinv.clients client ((Central.subscribing_eq hphase).2.1.symm ▸ hclient)
  exact ⟨i, rfl, hinv.subscribed (hheard.none i hmem)⟩

/-- "AllSubscribed" is in a queue with nobody left on the list. -/
theorem released_of_down (hreach : Reachable D order yaml s) {i : ι}
    (hdown : syncMSG "AllSubscribed" ∈ s.down i) :
    ∃ requestMap, s.central.phase = .subscribing requestMap [] := by
  have hinv := reachable_inv hreach
  obtain ⟨es, hrun⟩ := hreach
  obtain ⟨confirmations, htells, -⟩ := told_of_run hrun i
  have hmem : syncMSG "AllSubscribed" ∈
      List.replicate confirmations ["connected"] ++ s.central.told (D.routingId i) := by
    rw [← htells, (conveyed hrun i).1]
    exact List.mem_append_right _ hdown
  have htold : syncMSG "AllSubscribed" ∈ s.central.told (D.routingId i) :=
    (List.mem_append.mp hmem).resolve_left fun h =>
      absurd (List.eq_of_mem_replicate h) (by decide)
  exact Central.released_of_told hinv.central htold

/-- Then all clients are through their subscribe loops. -/
theorem subscribed_of_down (hreach : Reachable D order yaml s) {i : ι}
    (hdown : syncMSG "AllSubscribed" ∈ s.down i) :
    ∀ client ∈ s.central.connectedClients, ∃ i, D.routingId i = client ∧
      Subscribed (s.node i) := by
  obtain ⟨requestMap, hphase⟩ := released_of_down hreach hdown
  exact subscribed_of_released (reachable_inv hreach) (reachable_guarded hreach) hphase

end Run

/-- A Node that is confirmed twice, and the run in which it is. -/
def confirmedTwice : List (Event Bool) :=
  [.act false .boot, .act false .timeout, .central false, .central false, .deliver false,
    .deliver false]

theorem conversation_of_run_sample :
    ∃ s, Run (sampleStep 2) Always (init (sampleDeployment 2)) confirmedTwice s ∧
      Conversation (sampleDeployment 2) (HashOrder.insertion String) sampleYaml false
        confirmedTwice s := by
  obtain ⟨s, hrun, -⟩ : ∃ s, Run (sampleStep 2) Always (init (sampleDeployment 2))
      confirmedTwice s ∧ () = () := Run.of_exec (by decide)
  exact ⟨s, hrun, conversation_of_run hrun false⟩

end System

end ComuFrame
