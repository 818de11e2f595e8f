import ComuFrame.System.Barrier
import ComuFrame.System.Requests

/-!
# ComuFrame — which message becomes the subscriptions

A Node takes Central's messages by position: the first is the confirmation, the second the
new state, the third its packets, whatever is in them. `due` is what Central sends to a
client it has confirmed once, and there the third message is the answer. A confirmation sent
again shifts all that follows by one, and the Node takes the state for its packets
(`not_subscriptions_agree`) and, in its final loop, the packets for a state and a text
(`not_never_emptyPop`).

`NotReconfirmed` says that a step does not do this to a Node. In runs with it the Node's
connection carries what is `due` (`Ordered`), hence the two results at the end of the module.
-/

namespace ComuFrame

open Cpp Transition

/-! ## What Central sends to one client -/

namespace Central

/-- What Central has sent to the client `identity` up to the answer, the confirmation sent
once. -/
def due (c : Central) (identity : String) : List Multipart :=
  if identity ∈ c.clients then
    match c.phase with
    | .registering _ => [["connected"]]
    | .collecting _ => [["connected"], syncMSG "syncronization"]
    | .subscribing _ _ => [["connected"], syncMSG "syncronization"] ++
        (c.replies.map Reply.message).filterMap (routed identity)
  else []

theorem due_of_notMem {c : Central} {identity : String} (h : identity ∉ c.clients) :
    c.due identity = [] := if_neg h

theorem due_registering {c : Central} {clients : List String} {identity : String}
    (hphase : c.phase = .registering clients) (h : identity ∈ clients) :
    c.due identity = [["connected"]] := by
  rw [due, clients_registering hphase, if_pos h, hphase]

theorem due_collecting {c : Central} {requestMap : UnorderedMap String (List String)}
    {identity : String} (hphase : c.phase = .collecting requestMap)
    (h : identity ∈ c.connectedClients) :
    c.due identity = [["connected"], syncMSG "syncronization"] := by
  rw [due, (collecting_eq hphase).2.1, if_pos h, hphase]

theorem due_subscribing {c : Central} {requestMap : UnorderedMap String (List String)}
    {toCheckSubscriptions : List String} {identity : String}
    (hphase : c.phase = .subscribing requestMap toCheckSubscriptions)
    (h : identity ∈ c.connectedClients) :
    c.due identity = [["connected"], syncMSG "syncronization"] ++
      (c.replies.map Reply.message).filterMap (routed identity) := by
  rw [due, (subscribing_eq hphase).2.1, if_pos h, hphase]

/-- A third message is due only after the request loop. -/
theorem subscribing_of_due {c : Central} {identity : String} (h : 3 ≤ (c.due identity).length) :
    ∃ requestMap toCheckSubscriptions,
      c.phase = .subscribing requestMap toCheckSubscriptions ∧
      c.due identity = [["connected"], syncMSG "syncronization"] ++
        (c.replies.map Reply.message).filterMap (routed identity) := by
  by_cases hmem : identity ∈ c.clients
  · cases hphase : c.phase with
    | registering clients =>
      rw [due_registering hphase (clients_registering hphase ▸ hmem)] at h
      simp at h
    | collecting requestMap =>
      rw [due_collecting hphase ((collecting_eq hphase).2.1 ▸ hmem)] at h
      simp at h
    | subscribing requestMap toCheckSubscriptions =>
      exact ⟨_, _, rfl, due_subscribing hphase ((subscribing_eq hphase).2.1 ▸ hmem)⟩
  · rw [due_of_notMem hmem] at h
    simp at h

/-- One message to one addressee. -/
theorem routed_single {identity client frame : String} :
    [[client, frame]].filterMap (routed identity) = if client = identity then [[frame]] else [] := by
  by_cases h : client = identity <;> simp [routed, h]

/-- A broadcast reaches every client once. -/
theorem routed_broadcast {clients : List String} (hnodup : clients.Nodup) (state : Fsm)
    (text identity : String) :
    (clients.map (strMSG state text)).filterMap (routed identity)
      = if identity ∈ clients then [[state.toString, text]] else [] := by
  induction clients with
  | nil => rfl
  | cons client clients ih =>
    obtain ⟨hclient, hnodup⟩ := List.nodup_cons.mp hnodup
    have ih := ih hnodup
    rw [List.map_cons]
    by_cases h : client = identity
    · subst h
      rw [if_neg hclient] at ih
      rw [List.filterMap_cons_some (b := [state.toString, text]) (by simp [strMSG, routed]), ih]
      simp
    · rw [List.filterMap_cons_none (by simp [strMSG, routed, h]), ih]
      simp [Ne.symm h]

theorem routed_confirm_broadcast {clients : List String} (hnodup : clients.Nodup)
    (sender : String) (state : Fsm) (text identity : String) :
    ([sender, "connected"] :: clients.map (strMSG state text)).filterMap (routed identity)
      = (if sender = identity then [["connected"]] else []) ++
        (if identity ∈ clients then [[state.toString, text]] else []) := by
  rw [← List.singleton_append, List.filterMap_append, routed_single, routed_broadcast hnodup]

variable {order : HashOrder String} {yaml : YamlCpp} {c c' : Central}
  {sender msgState data : String} {sent : List Multipart}

/-- Nothing is delivered to strangers. -/
theorem routed_of_notMem (hc : Coherent order yaml c)
    (hsync : msgState = "syncronization" → sender ∈ c.clients)
    (hmsgState : msgState = "registration" ∨ msgState = "syncronization")
    (hmove : Moves order yaml c sender msgState data c' sent) {identity : String}
    (hmem : identity ∉ c'.clients) : sent.filterMap (routed identity) = [] := by
  rw [List.filterMap_eq_nil_iff]
  intro msg hmsg
  obtain ⟨client, hclient, frames, rfl⟩ := addressee_moves hc hsync hmsgState hmove hmsg
  by_contra hrouted
  obtain ⟨frames', hrouted⟩ := Option.ne_none_iff_exists'.mp hrouted
  exact hmem (System.routed_cons hrouted ▸ hclient)

/-- **What a step adds to `due` is what it delivers**, to a client that it does not confirm
again, and "AllSubscribed" apart. -/
theorem due_moves (hc : Coherent order yaml c)
    (hsync : msgState = "syncronization" → sender ∈ c.clients)
    (hmsgState : msgState = "registration" ∨ msgState = "syncronization")
    (hmove : Moves order yaml c sender msgState data c' sent) {identity : String}
    (hconfirm : c.registering = true → sender = identity → identity ∉ c.clients)
    (hnotAll : identity ∈ c.clients →
      ∀ client, [client, "syncronization", "AllSubscribed"] ∉ sent) :
    c'.due identity = c.due identity ++ sent.filterMap (routed identity) := by
  by_cases hmem' : identity ∈ c'.clients
  · have haddressee {msg : Multipart} (hmsg : msg ∈ sent) :=
      addressee_moves hc hsync hmsgState hmove hmsg
    have hnodup := hc.nodup_moves hmove
    cases hmove with
    | confirm clients hphase hmem =>
      -- a second confirmation, to somebody else
      have hne : sender ≠ identity := fun h => hconfirm (registering_eq hphase) h hmem'
      rw [routed_single, if_neg hne, List.append_nil]
    | redirect clients hphase hmem hstate =>
      -- strangers only register
      obtain ⟨client, hclient, frames, heq⟩ := haddressee (List.mem_singleton_self _)
      obtain rfl := (List.cons.inj heq).1
      exact absurd (clients_registering hphase ▸ hclient) hmem
    | register clients db hphase hmem hdb hlt =>
      rw [due_registering rfl hmem', routed_single]
      by_cases hsender : sender = identity
      · subst hsender
        rw [due_of_notMem (clients_registering hphase ▸ hmem), if_pos rfl, List.nil_append]
      · have hold : identity ∈ clients := by
          simpa [Central.clients, Ne.symm hsender] using hmem'
        rw [due_registering hphase hold, if_neg hsender, List.append_nil]
    | registerLast clients db hphase hmem hdb =>
      have hcstate := hc.state_registering (registering_eq hphase)
      have hmem'' : identity ∈ clients ++ [sender] := hmem'
      have hnodup' : (clients ++ [sender]).Nodup := hnodup
      rw [due_collecting rfl hmem', routed_confirm_broadcast hnodup', if_pos hmem'', hcstate]
      by_cases hsender : sender = identity
      · subst hsender
        rw [due_of_notMem (clients_registering hphase ▸ hmem), if_pos rfl]
        rfl
      · have hold : identity ∈ clients := by
          simpa [Central.clients, Ne.symm hsender] using hmem'
        rw [due_registering hphase hold, if_neg hsender]
        rfl
    | discard => simp
    | take requestMap names hphase hstate hnew hnames hsize =>
      rw [due_collecting rfl hmem', due_collecting hphase hmem']
      rfl
    | takeLast requestMap names hphase hstate hnew hnames hsize =>
      rw [due_subscribing rfl hmem', due_collecting hphase hmem']
      rfl
    | hear requestMap toCheckSubscriptions hphase hstate hany =>
      -- no broadcast: nothing is sent
      have hnil : ¬ (toCheckSubscriptions.eraseP (strcmpEq sender)).length = 0 := by
        intro hnil
        refine hnotAll ((subscribing_eq hphase).2.1.symm ▸ hmem') identity ?_
        rw [if_pos hnil]
        refine List.mem_map.mpr ⟨identity, hmem', ?_⟩
        rw [hc.state_later (subscribing_eq hphase).1]
        rfl
      rw [if_neg hnil, due_subscribing rfl hmem', due_subscribing hphase hmem']
      simp
    | unheard => simp
    | crash fault =>
      simp only [List.filterMap_nil, List.append_nil]
      rfl
  · have hmem : identity ∉ c.clients := fun h => hmem' (clients_subset_moves hmove h)
    rw [due_of_notMem hmem', due_of_notMem hmem,
      routed_of_notMem hc hsync hmsgState hmove hmem']
    rfl

/-- One answer at most for each client. -/
theorem length_answers_le {replies : List Reply} (identity : String)
    (hnodup : (replies.map Reply.client).Nodup) :
    ((replies.map Reply.message).filterMap (routed identity)).length ≤ 1 := by
  induction replies with
  | nil => simp
  | cons reply replies ih =>
    obtain ⟨hreply, hnodup⟩ := List.nodup_cons.mp hnodup
    rw [List.map_cons]
    cases hrouted : routed identity reply.message with
    | none =>
      rw [List.filterMap_cons_none hrouted]
      exact ih hnodup
    | some frames =>
      -- the others are addressed to others
      have hnone : (replies.map Reply.message).filterMap (routed identity) = [] := by
        rw [List.filterMap_eq_nil_iff]
        intro msg hmsg
        obtain ⟨other, hother, rfl⟩ := List.mem_map.mp hmsg
        by_contra hne
        obtain ⟨frames', hrouted'⟩ := Option.ne_none_iff_exists'.mp hne
        have hclient := (System.routed_cons hrouted').trans (System.routed_cons hrouted).symm
        exact hreply (hclient ▸ List.mem_map_of_mem hother)
      rw [List.filterMap_cons_some hrouted, hnone, List.length_singleton]

/-- The answer to a client is one of the replies. -/
theorem mem_answers {replies : List Reply} {identity : String} {frames : Multipart}
    (h : frames ∈ (replies.map Reply.message).filterMap (routed identity)) :
    ∃ reply ∈ replies, reply.client = identity ∧ reply.packetNeeded = frames := by
  obtain ⟨msg, hmsg, hrouted⟩ := List.mem_filterMap.mp h
  obtain ⟨reply, hreply, rfl⟩ := List.mem_map.mp hmsg
  refine ⟨reply, hreply, System.routed_cons hrouted, ?_⟩
  rw [Reply.message] at hrouted
  cases hpackets : reply.packetNeeded with
  | nil => simp [hpackets, routed] at hrouted
  | cons frame rest => simpa [hpackets, routed, System.routed_cons hrouted] using hrouted

/-- The replies are to the requests of the clients, one each. -/
theorem Coherent.replies_spec (hc : Coherent order yaml c)
    {requestMap : UnorderedMap String (List String)} {toCheckSubscriptions : List String}
    (hphase : c.phase = .subscribing requestMap toCheckSubscriptions) :
    (c.replies.map Reply.client).Nodup ∧ ∀ reply ∈ c.replies,
      requestMap.find? reply.client = some reply.request ∧
      reply.packetNeeded = (reply.db.providePackets order reply.request).1 := by
  obtain ⟨db, hdb, heq⟩ := hc.replies requestMap toCheckSubscriptions hphase
  have hpairs : c.replies.map (fun reply => (reply.client, reply.request))
      = requestMap.iterate order := by rw [heq, map_replyLoop]
  constructor
  · have hkeys := UnorderedMap.iterate_keys_nodup order requestMap
    rw [← hpairs, List.map_map] at hkeys
    exact hkeys
  · intro reply hreply
    have hpair := List.mem_map_of_mem (f := fun reply => (reply.client, reply.request)) hreply
    rw [hpairs, UnorderedMap.mem_iterate] at hpair
    exact ⟨UnorderedMap.find?_eq_some.mpr hpair,
      (reply_of_mem_replyLoop hdb (heq ▸ hreply)).2⟩

end Central

namespace System

variable {ι : Type} {D : Deployment ι} {order : HashOrder String} {yaml : YamlCpp}
  {s s' : System ι}

/-! ## The connection to one Node -/

/-- The Node has its answer, and nothing but "AllSubscribed" can follow. -/
structure Answered (D : Deployment ι) (i : ι) (s : System ι) : Prop where
  service : (s.node i).service = .loop
  down : ∀ msg ∈ s.down i, msg = syncMSG "AllSubscribed"
  phase : ∃ requestMap toCheckSubscriptions,
    s.central.phase = .subscribing requestMap toCheckSubscriptions
  reply : ∃ reply ∈ s.central.replies, reply.client = D.routingId i ∧
    (s.node i).subscriptions = reply.packetNeeded

/-- The Node has received the first messages of what is due to it, and the others are in the
queue, until it has its answer. -/
structure Ordered (D : Deployment ι) (i : ι) (s : System ι) : Prop where
  due : (s.node i).service.filled = false → ∃ received : List Multipart,
    received.length = (s.node i).service.position ∧
    s.central.due (D.routingId i) = received ++ s.down i
  answered : (s.node i).service.filled = true → Answered D i s

theorem ordered_init (D : Deployment ι) (i : ι) : Ordered D i (init D) where
  due _ := ⟨[], rfl, Central.due_of_notMem (by simp [init])⟩
  answered h := by simp [init, NodeState.init, Service.filled] at h

section Step

variable [DecidableEq ι]

/-- The registration loop receives nothing from Node `i` once it has registered it, and so
does not confirm it again. -/
def NotReconfirmed (D : Deployment ι) (i : ι) (s : System ι) (e : Event ι) : Prop :=
  e = .central i → s.central.registering = true → D.routingId i ∉ s.central.clients

instance (D : Deployment ι) (i : ι) (s : System ι) (e : Event ι) :
    Decidable (NotReconfirmed D i s e) :=
  inferInstanceAs (Decidable (_ → _))

omit [DecidableEq ι] in
/-- A step of others. -/
theorem Ordered.congr {i : ι} (hordered : Ordered D i s) (hnode : s'.node i = s.node i)
    (hdown : s'.down i = s.down i) (hcentral : s'.central = s.central) : Ordered D i s' := by
  constructor
  · intro hfilled
    rw [hnode] at hfilled ⊢
    rw [hdown, hcentral]
    exact hordered.due hfilled
  · intro hfilled
    have h := hordered.answered (hnode ▸ hfilled)
    exact ⟨hnode ▸ h.service, hdown ▸ h.down, hcentral ▸ h.phase, by
      rw [hcentral, hnode]; exact h.reply⟩

theorem Ordered.act {i : ι} (hordered : Ordered D i s) {j : ι} {st : NodeState}
    {sent : List Multipart}
    (hmove : NodeState.Moves yaml (D.config j) (s.node j) st sent) :
    Ordered D i (s.updateNode j st sent) := by
  by_cases hi : i = j
  · subst hi
    have hnode : (s.updateNode i st sent).node i = st := by simp [updateNode]
    have hsubscriptions := NodeState.subscriptions_moves hmove
    rcases NodeState.service_moves hmove with hservice | ⟨hboot, hservice⟩
    · constructor
      · intro hfilled
        rw [hnode, hservice] at hfilled ⊢
        exact hordered.due hfilled
      · intro hfilled
        rw [hnode, hservice] at hfilled
        have h := hordered.answered hfilled
        exact ⟨by rw [hnode, hservice]; exact h.service, h.down, h.phase,
          by rw [hnode, hsubscriptions]; exact h.reply⟩
    · constructor
      · intro _
        have h := hordered.due (by simp [hboot, Service.filled])
        rw [hboot] at h
        rw [hnode, hservice]
        exact h
      · intro hfilled
        rw [hnode, hservice] at hfilled
        simp [Service.filled] at hfilled
  · exact hordered.congr (by simp [updateNode, hi]) rfl rfl

omit [DecidableEq ι] in
/-- The third message is the answer, and the last one before "AllSubscribed". -/
theorem Ordered.answer {i : ι} (hinv : Inv D order yaml s) (hordered : Ordered D i s)
    (hservice : (s.node i).service = .awaitingPackets) {msg : Multipart}
    {rest : List Multipart} (hdown : s.down i = msg :: rest) :
    rest = [] ∧ (∃ requestMap toCheckSubscriptions,
      s.central.phase = .subscribing requestMap toCheckSubscriptions) ∧
    ∃ reply ∈ s.central.replies, reply.client = D.routingId i ∧ msg = reply.packetNeeded := by
  obtain ⟨received, hlen, hdue⟩ := hordered.due (by simp [hservice, Service.filled])
  rw [hservice] at hlen
  have hthird : 3 ≤ (s.central.due (D.routingId i)).length := by
    rw [hdue, hdown]
    simp only [List.length_append, List.length_cons, hlen, Service.position]
    omega
  obtain ⟨requestMap, toCheckSubscriptions, hphase, hanswers⟩ :=
    Central.subscribing_of_due hthird
  rw [hdue, hdown] at hanswers
  obtain ⟨-, htail⟩ := List.append_inj hanswers hlen
  have hone := Central.length_answers_le (D.routingId i) (hinv.central.replies_spec hphase).1
  rw [← htail, List.length_cons] at hone
  have hmem : msg ∈ (s.central.replies.map Reply.message).filterMap (routed (D.routingId i)) := by
    rw [← htail]
    exact List.mem_cons_self
  obtain ⟨reply, hreply, hclient, hpackets⟩ := Central.mem_answers hmem
  exact ⟨List.length_eq_zero_iff.mp (by omega), ⟨_, _, hphase⟩,
    reply, hreply, hclient, hpackets.symm⟩

theorem Ordered.deliver {i : ι} (hinv : Inv D order yaml s) (hordered : Ordered D i s) {j : ι}
    {msg : Multipart} {rest : List Multipart} {st : NodeState} {sent : List Multipart}
    (hdown : s.down j = msg :: rest)
    (hreceive : NodeState.Receives yaml (D.config j) (s.node j) msg st sent) :
    Ordered D i { s.updateNode j st sent with down := Function.update s.down j rest } := by
  by_cases hi : i = j
  · subst hi
    generalize hs' : ({ s.updateNode i st sent with
      down := Function.update s.down i rest } : System ι) = s'
    have hnode : s'.node i = st := by simp [← hs', updateNode]
    have hdown' : s'.down i = rest := by simp [← hs']
    have hcentral : s'.central = s.central := by rw [← hs']; rfl
    -- before the third message: one more received
    have hnext (hfilled : (s.node i).service.filled = false) : ∃ received : List Multipart,
        received.length = (s.node i).service.position + 1 ∧
        s'.central.due (D.routingId i) = received ++ s'.down i := by
      obtain ⟨received, hlen, hdue⟩ := hordered.due hfilled
      rw [hdown] at hdue
      exact ⟨received ++ [msg], by simp [hlen], by rw [hcentral, hdown', hdue]; simp⟩
    have hloop (hservice : (s.node i).service = .loop) : Answered D i s :=
      hordered.answered (by simp [hservice, Service.filled])
    -- after it: the subscriptions stay, and the queue loses its head
    have hstays (hservice : (s.node i).service = .loop) (hservice' : st.service = .loop)
        (hsubscriptions : st.subscriptions = (s.node i).subscriptions) : Ordered D i s' := by
      have h := hloop hservice
      refine ⟨fun h => by simp [hnode, hservice', Service.filled] at h, fun _ =>
        ⟨by rw [hnode, hservice'], fun msg' hmsg => h.down msg' ?_, hcentral ▸ h.phase, ?_⟩⟩
      · rw [hdown]
        exact List.mem_cons_of_mem _ (hdown' ▸ hmsg)
      · rw [hcentral, hnode, hsubscriptions]
        exact h.reply
    cases hreceive with
    | ack hservice =>
      have h := hnext (by simp [hservice, Service.filled])
      rw [hservice] at h
      exact ⟨fun _ => by rw [hnode]; exact h, fun h => by simp [hnode, Service.filled] at h⟩
    | state hservice =>
      have h := hnext (by simp [hservice, Service.filled])
      rw [hservice] at h
      exact ⟨fun _ => by rw [hnode]; exact h, fun h => by simp [hnode, Service.filled] at h⟩
    | packets hservice =>
      obtain ⟨hrest, hphase, hreply⟩ := hordered.answer hinv hservice hdown
      exact ⟨fun h => by simp [hnode, Service.filled] at h, fun _ =>
        ⟨by rw [hnode], by simp [hdown', hrest], hcentral ▸ hphase, by
          rw [hcentral, hnode]; exact hreply⟩⟩
    | allSubscribed hservice => exact hstays hservice hservice rfl
    | ignore hservice => exact hstays hservice hservice rfl
    | stop hservice hshort =>
      -- every message left has two frames
      rw [(hloop hservice).down msg (by simp [hdown])] at hshort
      simp [syncMSG] at hshort
  · exact hordered.congr (by simp [updateNode, hi]) (by simp [hi]) rfl

theorem Ordered.central_step {i : ι} (hinv : Inv D order yaml s) (hguarded : Guarded D yaml s)
    (hordered : Ordered D i s) {j : ι} (hok : NotReconfirmed D i s (.central j))
    {msgState data : String} {rest : List Multipart} {c : Central} {sent : List Multipart}
    (hfault : s.central.fault = none) (hup : s.up j = [msgState, data] :: rest)
    (hmsgState : msgState = "registration" ∨ msgState = "syncronization")
    (hmove : Central.Moves order yaml s.central (D.routingId j) msgState data c sent) :
    Ordered D i { s with
      central := c
      up := Function.update s.up j rest
      down := fun k => s.down k ++ sent.filterMap (routed (D.routingId k)) } := by
  have hsync := hinv.mem_clients_of_state hup
  constructor
  · intro hfilled
    have hdue : c.due (D.routingId i) = s.central.due (D.routingId i) ++
        sent.filterMap (routed (D.routingId i)) :=
      Central.due_moves hinv.central hsync hmsgState hmove
      (fun hreg hsender => hok (by rw [D.distinct hsender]) hreg)
      (by
        -- "AllSubscribed" to a client that has no answer yet: the barrier excludes it
        intro hmem client hall
        obtain ⟨_, _, hphase, -⟩ := Central.allSubscribed_moves hinv.central hmove hall
        obtain ⟨k, hk, hsub, -⟩ := subscribed_of_allSubscribed hinv hguarded hfault hup
          hmsgState hmove hall _ ((Central.subscribing_eq hphase).2.1 ▸ hmem)
        obtain rfl := D.distinct hk
        have hfilled' := (hinv.node k).filled_of_queue
          (.inr (.inr (.inr (.inr (by rw [hsub]; decide)))))
        rw [show (s.node k).service.filled = false from hfilled] at hfilled'
        exact absurd hfilled' (by decide))
    obtain ⟨received, hlen, hold⟩ := hordered.due hfilled
    refine ⟨received, hlen, ?_⟩
    show c.due (D.routingId i) = _
    rw [hdue, hold, List.append_assoc]
  · intro hfilled
    have h := hordered.answered hfilled
    obtain ⟨requestMap, toCheckSubscriptions, hphase⟩ := h.phase
    obtain ⟨⟨_, hphase'⟩, -, hreplies, hsent⟩ := Central.subscribing_moves hphase hmove
    refine ⟨h.service, fun msg hmsg => ?_, ⟨_, _, hphase'⟩, ?_⟩
    · rcases List.mem_append.mp hmsg with hold | hnew
      · exact h.down msg hold
      · obtain ⟨msg', hmsg', hrouted⟩ := List.mem_filterMap.mp hnew
        obtain ⟨client, rfl⟩ := hsent msg' hmsg'
        rw [hinv.central.state_later (Central.subscribing_eq hphase).1] at hrouted
        simp only [Central.strMSG, routed, Option.ite_none_right_eq_some,
          Option.some.injEq] at hrouted
        exact hrouted.2.symm
    · show ∃ reply ∈ c.replies, _
      rw [hreplies]
      exact h.reply

theorem Ordered.steps {i : ι} (hinv : Inv D order yaml s) (hguarded : Guarded D yaml s)
    (hordered : Ordered D i s) {e : Event ι} (hok : NotReconfirmed D i s e)
    (hsteps : Steps D order yaml s e s') : Ordered D i s' := by
  cases hsteps with
  | act j action st sent hmove => exact hordered.act hmove
  | deliver j msg rest st sent hdown hreceive => exact hordered.deliver hinv hdown hreceive
  | central j msgState data rest c sent hfault hup hmsgState hmove =>
    exact hordered.central_step hinv hguarded hok hfault hup hmsgState hmove

/-- **The order of Central's messages**, in a run in which the Node is not confirmed again. -/
theorem ordered_of_notReconfirmed {i : ι} {es : List (Event ι)}
    (hrun : Run (step D order yaml) (NotReconfirmed D i) (init D) es s) : Ordered D i s := by
  refine hrun.induction (ordered_init D i) ?_
  intro es s e s' hrun hordered hok hstep
  have hinv := reachable_inv hrun.reachable
  exact hordered.steps hinv (reachable_guarded hrun.reachable) hok (step_steps hinv hstep)

/-- A request in the registration loop comes from a Node already registered. -/
theorem notSwallowed_of_notReconfirmed {i : ι} (hinv : Inv D order yaml s) {e : Event ι}
    (hok : NotReconfirmed D i s e) : NotSwallowed i s e := by
  intro hreg
  rw [List.eq_nil_iff_forall_not_mem]
  intro msg hmem
  obtain ⟨rfl, hup, hsync⟩ := mem_taken hmem
  exact hok rfl hreg (hinv.mem_clients_of_isSync hup hsync)

/-! ## The subscriptions of a Node -/

/-- A request is the Node's own, if the Node is not confirmed again. -/
theorem kept_of_notReconfirmed {i : ι} (hreads : yaml.ReadsBack (D.config i).requestedData)
    {es : List (Event ι)} (hrun : Run (step D order yaml) (NotReconfirmed D i) (init D) es s) :
    Kept D yaml i s := by
  refine hrun.induction (kept_init D yaml i) ?_
  intro es s e s' hrun hkept hok hstep
  have hinv := reachable_inv hrun.reachable
  exact hkept.steps hreads hinv (notSwallowed_of_notReconfirmed hinv hok) (step_steps hinv hstep)

/-- The subscriptions of Node `i` are the packets that Central computed for its own request. -/
def Agree (D : Deployment ι) (order : HashOrder String) (yaml : YamlCpp) (i : ι)
    (s : System ι) : Prop :=
  ∃ reply ∈ s.central.replies, reply.client = D.routingId i ∧
    Central.requestedNames yaml (D.config i).requestedData = some reply.request ∧
    reply.packetNeeded = (reply.db.providePackets order reply.request).1 ∧
    (s.node i).subscriptions = reply.packetNeeded

/-- **Subscription agreement**, in a run in which the Node is not confirmed again: once it
has filled its subscriptions, they are Central's answer to its own request. -/
theorem subscriptions_agree {i : ι} (hreads : yaml.ReadsBack (D.config i).requestedData)
    {es : List (Event ι)} (hrun : Run (step D order yaml) (NotReconfirmed D i) (init D) es s)
    (hfilled : (s.node i).service.filled = true) : Agree D order yaml i s := by
  have hinv := reachable_inv hrun.reachable
  have hanswered := (ordered_of_notReconfirmed hrun).answered hfilled
  obtain ⟨requestMap, toCheckSubscriptions, hphase⟩ := hanswered.phase
  obtain ⟨reply, hreply, hclient, hsubscriptions⟩ := hanswered.reply
  obtain ⟨hrequest, hpackets⟩ := (hinv.central.replies_spec hphase).2 reply hreply
  have hkept := kept_of_notReconfirmed hreads hrun
  rw [hclient, ← (Central.subscribing_eq hphase).2.2] at hrequest
  exact ⟨reply, hreply, hclient, hkept.own _ hrequest, hpackets, hsubscriptions⟩

/-- Registered twice, but the repetition arrives after the registration loop. -/
theorem subscriptions_agree_sample :
    ∃ s, Reachable (sampleDeployment 1) (HashOrder.insertion String) sampleYaml s ∧
      (s.node false).service.filled = true ∧
      Agree (sampleDeployment 1) (HashOrder.insertion String) sampleYaml false s := by
  obtain ⟨s, hrun, hfilled⟩ : ∃ s, Run (sampleStep 1) (NotReconfirmed (sampleDeployment 1) false)
      (init (sampleDeployment 1))
      [.act false .boot, .act false .timeout, .central false, .central false, .deliver false,
        .deliver false, .central false, .deliver false] s ∧
      (s.node false).service.filled = true := Run.of_exec (by decide)
  exact ⟨s, hrun.reachable, hfilled, subscriptions_agree rfl hrun hfilled⟩

/-- Two Nodes, the first one registered twice before the second one registers. -/
def reconfirmed : List (Event Bool) :=
  [.act false .boot, .act false .timeout, .central false, .central false, .deliver false,
    .deliver false, .act true .boot, .central true, .deliver false, .central false,
    .deliver true, .deliver true, .central true]

/-- The Node registered twice takes the broadcast of the state for its packets. -/
theorem not_subscriptions_agree :
    ¬ ∀ (ι : Type) [DecidableEq ι] (D : Deployment ι) (order : HashOrder String)
        (yaml : YamlCpp) (s : System ι) (i : ι), yaml.ReadsBack (D.config i).requestedData →
      Reachable D order yaml s → (s.node i).service.filled = true → Agree D order yaml i s := by
  intro hagree
  obtain ⟨s, hrun, hread⟩ : ∃ s, Run (sampleStep 2) Always (init (sampleDeployment 2))
      reconfirmed s ∧
      ((s.node false).service.filled, (s.node false).subscriptions,
        s.central.replies.map Reply.packetNeeded)
      = (true, ["syncronization", "syncronization"], [["P_A"], ["P_A"]]) :=
    Run.of_exec (by decide)
  simp only [Prod.mk.injEq] at hread
  obtain ⟨hfilled, hsubscriptions, hreplies⟩ := hread
  obtain ⟨reply, hreply, -, -, -, heq⟩ :=
    hagree Bool (sampleDeployment 2) _ sampleYaml s false rfl hrun.reachable hfilled
  have hmem := List.mem_map_of_mem (f := Reply.packetNeeded) hreply
  rw [hreplies, ← heq, hsubscriptions] at hmem
  exact absurd hmem (by decide)

/-- **A Node never misreads Central**, in a run in which it is not confirmed again: none of
its threads comes to an end, on an empty message or otherwise. -/
theorem never_stopped {i : ι} {es : List (Event ι)}
    (hrun : Run (step D order yaml) (NotReconfirmed D i) (init D) es s) (fault : Fault) :
    (s.node i).service ≠ .stopped fault ∧ (s.node i).main ≠ .stopped fault := by
  have hinv := reachable_inv hrun.reachable
  constructor
  · intro hservice
    have hanswered := (ordered_of_notReconfirmed hrun).answered
      (by rw [hservice]; rfl)
    rw [hanswered.service] at hservice
    exact absurd hservice (by simp)
  · rw [(hinv.node i).main]
    simp

theorem never_stopped_sample :
    ∃ s, Reachable (sampleDeployment 1) (HashOrder.insertion String) sampleYaml s ∧
      (s.node false).service = .loop ∧ (s.node false).service ≠ .stopped .emptyPop ∧
      (s.node false).main ≠ .stopped .emptyPop := by
  obtain ⟨s, hrun, hservice⟩ : ∃ s, Run (sampleStep 1)
      (NotReconfirmed (sampleDeployment 1) false) (init (sampleDeployment 1))
      [.act false .boot, .act false .timeout, .central false, .central false, .deliver false,
        .deliver false, .central false, .deliver false] s ∧
      (s.node false).service = .loop := Run.of_exec (by decide)
  exact ⟨s, hrun.reachable, hservice, never_stopped hrun .emptyPop⟩

/-- The answer, one packet and so one frame, arrives in the final loop, which pops two. -/
theorem not_never_emptyPop :
    ¬ ∀ (ι : Type) [DecidableEq ι] (D : Deployment ι) (order : HashOrder String)
        (yaml : YamlCpp) (s : System ι) (i : ι), Reachable D order yaml s →
      (s.node i).service ≠ .stopped .emptyPop ∧ (s.node i).main ≠ .stopped .emptyPop := by
  intro hnever
  obtain ⟨s, hrun, hservice⟩ : ∃ s, Run (sampleStep 2) Always (init (sampleDeployment 2))
      (reconfirmed ++ [.deliver false]) s ∧
      (s.node false).service = .stopped .emptyPop := Run.of_exec (by decide)
  exact (hnever Bool (sampleDeployment 2) _ sampleYaml s false hrun.reachable).1 hservice

end Step

end System

end ComuFrame
