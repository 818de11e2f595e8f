import ComuFrame.System.Alive
import ComuFrame.System.Termination

/-!
# ComuFrame — the registration and subscription phases come to their end

A run without timeouts comes to an end (`reachable_terminates`). Where it ends, everybody has
what they were waiting for: a state in which nothing but a timeout is possible is `Complete`
(`complete_of_stuck`). So completion is `Inevitable`, however the remaining steps are ordered,
from every state that confirmed nobody again so far (`NoneReconfirmed`) and in which no
repeated registration is on its way to the registration loop (`Clean`); the start is such a
state, and after the registration loop every state is.

Central is to expect some clients, and not more than there are Nodes. If it expects fewer, the
first ones to register are served, and the others wait for ever.
-/

namespace ComuFrame

open Cpp Transition

namespace System

variable {ι : Type} {D : Deployment ι} {order : HashOrder String} {yaml : YamlCpp}
  {s s' : System ι}

/-- The steps that count: all but the timeouts. -/
abbrev Prompt (e : Event ι) : Prop := e.isTimeout = false

/-- Everybody Central expected is through. -/
structure Complete (D : Deployment ι) (order : HashOrder String) (yaml : YamlCpp)
    (s : System ι) : Prop where
  fault : s.central.fault = none
  /-- Nobody is left on the list of the last loop. -/
  released : ∃ requestMap, s.central.phase = .subscribing requestMap []
  clients : s.central.connectedClients.Nodup ∧
    s.central.connectedClients.length = D.expectedClient
  /-- The subscriptions of every client are the answer to its own request, -/
  agree : ∀ i, D.routingId i ∈ s.central.connectedClients → Agree D order yaml i s
  /-- and its sub thread has been through its loop for all of them. -/
  subscribed : ∀ i, D.routingId i ∈ s.central.connectedClients →
    (s.node i).service = .loop ∧ Subscribed (s.node i)
  others : ∀ i, D.routingId i ∉ s.central.connectedClients → (s.node i).service = .awaitingAck
  /-- No message is left anywhere. -/
  quiet : ∀ i, s.up i = [] ∧ s.down i = [] ∧ (s.node i).serviceToMain = [] ∧
    (s.node i).mainToService = [] ∧ (s.node i).mainToSub = [] ∧ (s.node i).subToMain = []

section Clean

variable [DecidableEq ι]

/-- While Central registers, no repeated registration is on its way. -/
def Clean (D : Deployment ι) (s : System ι) : Prop :=
  s.central.registering = true →
    ∀ i, s.registrations i + (if D.routingId i ∈ s.central.clients then 1 else 0) ≤ 1

omit [DecidableEq ι] in
theorem clean_init : Clean D (init D) := by
  intro _ i
  simp [registrations, init, NodeState.init, NodeState.unregistered]

/-! ## Without timeouts nobody is confirmed again -/

omit [DecidableEq ι] in
/-- While Central registers it has sent a Node one message at most, which is too few for a
request. -/
theorem filter_isSync_of_registering (hinv : Inv D order yaml s) {i : ι} (hordered : Ordered D i s)
    (hreg : s.central.registering = true) : (s.up i).filter isSync = [] := by
  rw [List.filter_eq_nil_iff]
  intro msg hmsg hsync
  have hclient := hinv.mem_clients_of_isSync hmsg hsync
  cases hphase : s.central.phase with
  | registering clients =>
    obtain ⟨received, hlen, hdue⟩ := hordered.due (hordered.filled_eq_false (by simp [hphase]))
    rw [Central.due_registering hphase (Central.clients_registering hphase ▸ hclient)] at hdue
    have hposition : (s.node i).service.position ≤ 1 := by
      have h := congrArg List.length hdue
      simp only [List.length_append, List.length_singleton] at h
      omega
    -- so both its messages are still to be sent
    have hunsent : ((s.node i).unsent yaml (D.config i)).length = 2 := by
      unfold NodeState.unsent
      cases hservice : (s.node i).service <;> simp_all [Service.position]
    have hout := (hinv.outstanding i).length_le
    have hpos : 0 < ((s.up i).filter isSync).length :=
      List.length_pos_of_mem (List.mem_filter.mpr ⟨hmsg, hsync⟩)
    simp only [outstanding, List.length_append, List.length_cons, List.length_nil] at hout
    omega
  | collecting requestMap => simp [(Central.collecting_eq hphase).1] at hreg
  | subscribing requestMap toCheckSubscriptions =>
    simp [(Central.subscribing_eq hphase).1] at hreg

theorem Clean.noneReconfirmed (hclean : Clean D s) (hsettled : Settled D order yaml s)
    {e : Event ι} (hstep : step D order yaml s e = some s') : NoneReconfirmed D s e := by
  rintro i rfl hreg hclient
  obtain ⟨msg, rest, hup, -⟩ := central_of_step hstep
  have hnosync := filter_isSync_of_registering hsettled.inv (hsettled.ordered i) hreg
  have hnone := hclean hreg i
  rw [if_pos hclient, registrations] at hnone
  -- the message is a registration or it is not
  cases hsync : isSync msg with
  | true => simp [hup, hsync] at hnosync
  | false =>
    simp only [hup, List.filter_cons, hsync, Bool.not_false, if_true, List.length_cons] at hnone
    omega

/-- The registration loop is not entered again. -/
theorem registering_of_step (hinv : Inv D order yaml s) {e : Event ι}
    (hstep : step D order yaml s e = some s') (hreg : s'.central.registering = true) :
    s.central.registering = true := by
  cases step_steps hinv hstep with
  | act => exact hreg
  | deliver => exact hreg
  | central _ _ _ _ _ _ _ _ _ hmove =>
    by_contra h
    have hleft := (Central.connectedClients_moves hmove (by simpa using h)).1
    exact absurd (hreg.symm.trans hleft) (by decide)

theorem Clean.step (hclean : Clean D s) (hsettled : Settled D order yaml s) {e : Event ι}
    (he : Prompt e) (hstep : System.step D order yaml s e = some s') : Clean D s' := by
  have hinv := hsettled.inv
  intro hreg' i
  have hreg := registering_of_step hinv hstep hreg'
  have hone := hclean hreg i
  cases e with
  | act j action =>
    have haction : action ≠ .timeout := by
      rintro rfl
      exact absurd (show true = false from he) (by decide)
    have hsame := registrations_act hinv hstep i
    rw [if_neg fun h => haction h.2, Nat.add_zero] at hsame
    cases step_steps hinv hstep with
    | act => rw [← hsame]; exact hone
  | deliver j =>
    have hsame := registrations_deliver hinv hstep i
    cases step_steps hinv hstep with
    | deliver => rw [hsame]; exact hone
  | central j =>
    have hsame := registrations_central hinv hstep i
    have htaken : s.taken i (.central j) = [] := by
      have hnosync := filter_isSync_of_registering hinv (hsettled.ordered i) hreg
      rw [List.filter_eq_nil_iff] at hnosync
      rw [List.eq_nil_iff_forall_not_mem]
      intro msg hmem
      obtain ⟨-, hup, hsync⟩ := mem_taken hmem
      exact hnosync msg hup hsync
    rw [htaken, List.length_nil, Nat.add_zero] at hsame
    cases step_steps hinv hstep with
    | central _ msgState data rest c sent hfault hup hmsgState hmove =>
      show _ + (if D.routingId i ∈ c.clients then 1 else 0) ≤ 1
      rcases Central.clients_moves hmove with h | ⟨-, h, -⟩
      · rw [h]
        omega
      · -- the registration that made the Node a client has been received
        by_cases hi : i = j
        · subst hi
          rw [if_pos rfl] at hsame
          split <;> omega
        · have hne : D.routingId i ≠ D.routingId j := fun heq => hi (D.distinct heq)
          simp only [h, List.mem_append, List.mem_singleton, hne, or_false]
          omega

end Clean

/-! ## Where nothing is possible but a timeout -/

section Stuck

variable [DecidableEq ι]

/-- Nothing is possible but a timeout. -/
def Stuck (D : Deployment ι) (order : HashOrder String) (yaml : YamlCpp) (s : System ι) : Prop :=
  ∀ s', ¬ Next (step D order yaml) Prompt s' s

theorem Stuck.step_eq_none (hstuck : Stuck D order yaml s) {e : Event ι} (he : Prompt e) :
    step D order yaml s e = none := by
  by_contra hstep
  obtain ⟨s', hs'⟩ := Option.ne_none_iff_exists'.mp hstep
  exact hstuck s' ⟨e, he, hs'⟩

theorem Stuck.up (hstuck : Stuck D order yaml s) (hfault : s.central.fault = none) (i : ι) :
    s.up i = [] := by
  have hnone := hstuck.step_eq_none (e := .central i) rfl
  by_contra hne
  obtain ⟨msg, rest, hup⟩ := List.exists_cons_of_ne_nil hne
  simp [step, hup, hfault] at hnone

theorem Stuck.blocked (hstuck : Stuck D order yaml s) (i : ι) :
    (s.node i).Blocked yaml (D.config i) := by
  intro action haction
  have he : Prompt (Event.act i action) := by
    cases action with
    | timeout => exact absurd rfl haction
    | _ => rfl
  exact Option.map_eq_none_iff.mp (hstuck.step_eq_none he)

/-- A running service thread takes whatever message there is. -/
theorem receive_ne_none {cfg : NodeConfig} {st : NodeState} {msg : Multipart}
    (hboot : st.service ≠ .boot) (hstopped : ∀ fault, st.service ≠ .stopped fault) :
    st.receive yaml cfg msg ≠ none := by
  unfold NodeState.receive
  split
  · next h => exact absurd h hboot
  · split
    · simp
    · simp
  · simp
  · simp
  · split
    · simp
    · simp
  · next fault h => exact absurd h (hstopped fault)

theorem Stuck.down (hstuck : Stuck D order yaml s) {i : ι}
    (hboot : (s.node i).service ≠ .boot) (hstopped : ∀ fault, (s.node i).service ≠ .stopped fault) :
    s.down i = [] := by
  have hnone := hstuck.step_eq_none (e := .deliver i) rfl
  by_contra hne
  obtain ⟨msg, rest, hdown⟩ := List.exists_cons_of_ne_nil hne
  simp only [step, hdown, Option.map_eq_none_iff] at hnone
  exact receive_ne_none hboot hstopped hnone

/-- All that is known of a state in which nothing is possible but a timeout. -/
structure Halted (D : Deployment ι) (order : HashOrder String) (yaml : YamlCpp)
    (s : System ι) : Prop extends Settled D order yaml s, Alive D yaml s where
  up : ∀ i, s.up i = []
  down : ∀ i, s.down i = []
  blocked : ∀ i, (s.node i).Blocked yaml (D.config i)

theorem Stuck.halted (hstuck : Stuck D order yaml s) (hsettled : Settled D order yaml s)
    (halive : Alive D yaml s) : Halted D order yaml s where
  toSettled := hsettled
  toAlive := halive
  up := hstuck.up halive.fault
  blocked := hstuck.blocked
  down i := by
    have hboot :=
      ((hstuck.blocked i).spec (hsettled.inv.node i) (halive.notice i)).1
    refine hstuck.down hboot fun fault hservice => ?_
    -- a Node that confirms nobody again is not stopped
    have hanswered := (hsettled.ordered i).answered (by rw [hservice]; rfl)
    simp [hanswered.service] at hservice

end Stuck

/-- The answer a Node has is the one to its own request. -/
theorem Settled.agree (hsettled : Settled D order yaml s) {i : ι} (hanswered : Answered D i s) :
    Agree D order yaml i s := by
  obtain ⟨requestMap, toCheckSubscriptions, hphase⟩ := hanswered.phase
  obtain ⟨reply, hreply, hclient, hsubscriptions⟩ := hanswered.reply
  obtain ⟨hrequest, hpackets⟩ := (hsettled.inv.central.replies_spec hphase).2 reply hreply
  rw [hclient, ← (Central.subscribing_eq hphase).2.2] at hrequest
  exact ⟨reply, hreply, hclient, (hsettled.kept i).own _ hrequest, hpackets, hsubscriptions⟩

section Halted

variable (hhalted : Halted D order yaml s)
include hhalted

/-- Whoever still waits for the first message is a client, or its registration was too late. -/
theorem Halted.client_or_awaiting (i : ι) :
    D.routingId i ∈ s.central.clients ∨ (s.node i).service = .awaitingAck := by
  by_cases hstate : (s.node i).state = Fsm.init
  · right
    have hreg := (hhalted.inv.node i).registering_of_state hstate
    have hboot := ((hhalted.blocked i).spec (hhalted.inv.node i) (hhalted.notice i)).1
    cases hservice : (s.node i).service <;> simp_all [Service.registering]
  · exact .inl (hhalted.inv.registered i (.inl hstate))

/-- **Central is not left in the registration loop**: all Nodes would have registered. -/
theorem Halted.registering_eq_false [Fintype ι] (hcard : D.expectedClient ≤ Fintype.card ι) :
    s.central.registering = false := by
  by_contra hreg
  have hreg : s.central.registering = true := by simpa using hreg
  have hclient (i : ι) : D.routingId i ∈ s.central.clients := by
    rcases hhalted.client_or_awaiting i with h | hservice
    · exact h
    · refine (hhalted.registration hreg i hservice).resolve_right ?_
      simp [hhalted.up i]
  have hle : (Finset.univ.toList.map D.routingId).length ≤ s.central.clients.length := by
    refine (List.subperm_of_subset ((Finset.nodup_toList _).map D.distinct) ?_).length_le
    intro client hmem
    obtain ⟨i, -, rfl⟩ := List.mem_map.mp hmem
    exact hclient i
  rw [List.length_map, Finset.length_toList, Finset.card_univ] at hle
  cases hphase : s.central.phase with
  | registering clients =>
    have hlt := hhalted.inv.central.few clients hphase
    rw [hhalted.expectedClient] at hlt
    rw [Central.clients_registering hphase] at hle
    omega
  | collecting requestMap => simp [(Central.collecting_eq hphase).1] at hreg
  | subscribing requestMap toCheckSubscriptions =>
    simp [(Central.subscribing_eq hphase).1] at hreg

/-- A client in the request loop has received two messages, and sent its request. -/
theorem Halted.mem_keys {requestMap : UnorderedMap String (List String)}
    (hphase : s.central.phase = .collecting requestMap) {i : ι}
    (hi : D.routingId i ∈ s.central.connectedClients) : D.routingId i ∈ requestMap.keys := by
  have hfilled := (hhalted.ordered i).filled_eq_false (by simp [hphase])
  obtain ⟨received, hlen, hdue⟩ := (hhalted.ordered i).due hfilled
  rw [Central.due_collecting hphase hi, hhalted.down i, List.append_nil] at hdue
  have hposition : (s.node i).service.position = 2 := by
    rw [← hlen, ← hdue]
    rfl
  have hservice : (s.node i).service = .awaitingPackets := by
    cases hservice : (s.node i).service <;> simp_all [Service.position, Service.filled]
  by_contra hnew
  have hfull := (hhalted.kept i).full hhalted.fault
    (by rw [(Central.collecting_eq hphase).2.2]; exact hnew)
  simp [outstanding, hhalted.up i, NodeState.unsent, hservice] at hfull

/-- **Nor in the request loop**: all clients would have sent their requests. -/
theorem Halted.phase_eq (hreg : s.central.registering = false) :
    ∃ requestMap toCheckSubscriptions,
      s.central.phase = .subscribing requestMap toCheckSubscriptions := by
  cases hphase : s.central.phase with
  | registering clients => simp [Central.registering_eq hphase] at hreg
  | collecting requestMap =>
    have hlt := hhalted.collecting requestMap hphase
    have hclients := (Central.collecting_eq hphase).2.1
    have hle : s.central.connectedClients.length ≤ requestMap.keys.length := by
      refine (List.subperm_of_subset (hclients ▸ hhalted.inv.central.nodup) ?_).length_le
      intro client hmem
      obtain ⟨i, rfl⟩ := hhalted.inv.clients client (hclients ▸ hmem)
      exact hhalted.mem_keys hphase hmem
    rw [UnorderedMap.length_keys] at hle
    omega
  | subscribing requestMap toCheckSubscriptions => exact ⟨_, _, rfl⟩

section Subscribing

variable {requestMap : UnorderedMap String (List String)} {toCheckSubscriptions : List String}
  (hphase : s.central.phase = .subscribing requestMap toCheckSubscriptions) {i : ι}
  (hi : D.routingId i ∈ s.central.connectedClients)
include hphase hi

/-- The answer to a client has a frame, if its request asks for something. -/
theorem Halted.answers_ne_nil
    (hnames : Central.requestedNames yaml (D.config i).requestedData ≠ some []) :
    (s.central.replies.map Reply.message).filterMap (routed (D.routingId i)) ≠ [] := by
  obtain ⟨-, -, hmap⟩ := Central.subscribing_eq hphase
  have hkey := hhalted.inv.central.everyone requestMap toCheckSubscriptions hphase _ hi
  obtain ⟨names, hfind⟩ := UnorderedMap.mem_keys_iff_find?.mp hkey
  have hown := (hhalted.kept i).own names (hmap ▸ hfind)
  obtain ⟨db, hdb, hreplies⟩ := hhalted.inv.central.replies requestMap _ hphase
  -- the reply to its request
  have hpair : (D.routingId i, names) ∈
      s.central.replies.map fun reply => (reply.client, reply.request) := by
    rw [hreplies, Central.map_replyLoop, UnorderedMap.mem_iterate]
    exact UnorderedMap.find?_eq_some.mp hfind
  obtain ⟨reply, hreply, heq⟩ := List.mem_map.mp hpair
  obtain ⟨hclient, hrequest⟩ := Prod.mk.inj heq
  obtain ⟨hreplyDb, hpackets⟩ := Central.reply_of_mem_replyLoop hdb (hreplies ▸ hreply)
  have hne : reply.packetNeeded ≠ [] := by
    rw [hpackets, DataBase.answer_ne_nil_iff hreplyDb.valid]
    left
    rintro hempty
    rw [hempty] at hrequest
    exact hnames (hrequest ▸ hown)
  obtain ⟨frame, rest, hcons⟩ := List.exists_cons_of_ne_nil hne
  refine List.ne_nil_of_mem (List.mem_filterMap.mpr
    ⟨reply.message, List.mem_map_of_mem hreply, (?_ : _ = some (frame :: rest))⟩)
  simp [Reply.message, hcons, hclient, routed]

/-- Every client has received its answer. -/
theorem Halted.answered
    (hnames : Central.requestedNames yaml (D.config i).requestedData ≠ some []) :
    Answered D i s := by
  refine (hhalted.ordered i).answered ?_
  by_contra hfilled
  have hfilled : (s.node i).service.filled = false := by simpa using hfilled
  obtain ⟨received, hlen, hdue⟩ := (hhalted.ordered i).due hfilled
  rw [Central.due_subscribing hphase hi, hhalted.down i, List.append_nil] at hdue
  have hpos := List.length_pos_of_ne_nil (hhalted.answers_ne_nil hphase hi hnames)
  have hposition : (s.node i).service.position ≤ 2 := by
    cases hservice : (s.node i).service <;> simp_all [Service.position, Service.filled]
  have htotal := congrArg List.length hdue
  simp only [List.length_append, List.length_cons, List.length_nil] at htotal
  omega

end Subscribing

/-- A Node in its final loop with nothing to do has sent its report. -/
theorem Halted.outstanding_eq_nil {i : ι} (hservice : (s.node i).service = .loop) :
    s.outstanding D yaml i = [] := by
  obtain ⟨-, hserviceToMain, hmainToSub, hsubToMain, hloop⟩ :=
    (hhalted.blocked i).spec (hhalted.inv.node i) (hhalted.notice i)
  obtain ⟨hmainToService, hsub⟩ := hloop hservice
  simp [outstanding, hhalted.up i, NodeState.unsent, hservice, NodeState.pending,
    NodeState.started, hserviceToMain, hmainToSub, hsubToMain, hmainToService, hsub]

/-- **Where nothing is possible but a timeout, everybody is through.** -/
theorem Halted.complete [Fintype ι] (hcard : D.expectedClient ≤ Fintype.card ι)
    (hnames : ∀ i, Central.requestedNames yaml (D.config i).requestedData ≠ some []) :
    Complete D order yaml s := by
  have hreg := hhalted.registering_eq_false hcard
  obtain ⟨requestMap, toCheckSubscriptions, hphase⟩ := hhalted.phase_eq hreg
  have hclients := (Central.subscribing_eq hphase).2.1
  have hanswered (i : ι) (hi : D.routingId i ∈ s.central.connectedClients) :=
    hhalted.answered hphase hi (hnames i)
  have houtstanding (i : ι) (hi : D.routingId i ∈ s.central.connectedClients) :=
    hhalted.outstanding_eq_nil (hanswered i hi).service
  have hothers (i : ι) (hi : D.routingId i ∉ s.central.connectedClients) :
      (s.node i).service = .awaitingAck :=
    (hhalted.client_or_awaiting i).resolve_left (hclients ▸ hi)
  exact {
    fault := hhalted.fault
    released := by
      -- nobody is pending, so nobody is on the list
      obtain ⟨pending, hpending, hperm⟩ := hhalted.subscribing _ _ hphase
      have hnil : pending = [] := by
        rw [List.eq_nil_iff_forall_not_mem]
        intro client hclient
        obtain ⟨i, rfl, hne⟩ := hpending.node client hclient
        exact hne (houtstanding i (hpending.client _ hclient))
      rw [hnil, List.map_nil, List.perm_nil, List.map_eq_nil_iff] at hperm
      exact ⟨requestMap, hperm ▸ hphase⟩
    clients := ⟨hclients ▸ hhalted.inv.central.nodup, hhalted.connected hreg⟩
    agree := fun i hi => hhalted.toSettled.agree (hanswered i hi)
    subscribed := fun i hi =>
      ⟨(hanswered i hi).service, hhalted.inv.subscribed (houtstanding i hi)⟩
    others := hothers
    quiet := fun i => by
      obtain ⟨-, hserviceToMain, hmainToSub, hsubToMain, hloop⟩ :=
        (hhalted.blocked i).spec (hhalted.inv.node i) (hhalted.notice i)
      refine ⟨hhalted.up i, hhalted.down i, hserviceToMain, ?_, hmainToSub, hsubToMain⟩
      by_cases hi : D.routingId i ∈ s.central.connectedClients
      · exact (hloop (hanswered i hi).service).1
      · rw [(hhalted.inv.node i).quiet (by simp [hothers i hi, Service.filled])]
        rfl }

end Halted

/-! ## Completion -/

section Completion

variable [DecidableEq ι] [Fintype ι]

/-- Behind a run that confirmed nobody again, and without a repeated registration under way. -/
def CleanRun (D : Deployment ι) (order : HashOrder String) (yaml : YamlCpp) (s : System ι) :
    Prop :=
  Clean D s ∧ ∃ es, Run (step D order yaml) (NoneReconfirmed D) (init D) es s

omit [Fintype ι] in
theorem cleanRun_init : CleanRun D order yaml (init D) := ⟨clean_init, [], .nil⟩

omit [Fintype ι] in
theorem CleanRun.next (hreadable : ∀ i, ReadableConfig yaml (D.config i))
    (hrun : CleanRun D order yaml s) (hnext : Next (step D order yaml) Prompt s' s) :
    CleanRun D order yaml s' := by
  obtain ⟨hclean, es, hrun⟩ := hrun
  obtain ⟨e, he, hstep⟩ := hnext
  have hsettled := settled_of_run hreadable hrun
  exact ⟨hclean.step hsettled he hstep, _,
    hrun.snoc (hclean.noneReconfirmed hsettled hstep) hstep⟩

/-- Where the threads have nothing more to do, everybody is through. -/
theorem complete_of_stuck (hreadable : ∀ i, ReadableConfig yaml (D.config i))
    (hnames : ∀ i, Central.requestedNames yaml (D.config i).requestedData ≠ some [])
    (hpos : 0 < D.expectedClient) (hcard : D.expectedClient ≤ Fintype.card ι)
    {es : List (Event ι)} (hrun : Run (step D order yaml) (NoneReconfirmed D) (init D) es s)
    (hstuck : Stuck D order yaml s) : Complete D order yaml s :=
  (hstuck.halted (settled_of_run hreadable hrun)
    (alive_of_run hreadable hpos hrun)).complete hcard hnames

/-- **Completion is inevitable.** With readable configurations, requests that ask for something
and enough Nodes, every way of continuing a run that has confirmed nobody again, from a state
without repeated registrations on their way, comes to the point where all expected clients
have the answer to their own request, have been through their subscribe loops and are
released. -/
theorem completion_inevitable (hreadable : ∀ i, ReadableConfig yaml (D.config i))
    (hnames : ∀ i, Central.requestedNames yaml (D.config i).requestedData ≠ some [])
    (hpos : 0 < D.expectedClient) (hcard : D.expectedClient ≤ Fintype.card ι)
    {es : List (Event ι)} (hrun : Run (step D order yaml) (NoneReconfirmed D) (init D) es s)
    (hclean : Clean D s) :
    Inevitable (step D order yaml) Prompt (Complete D order yaml) s := by
  refine (reachable_terminates hrun.reachable).inevitable (I := CleanRun D order yaml)
    (fun hrun hnext => hrun.next hreadable hnext) ?_ ⟨hclean, es, hrun⟩
  intro s hrun hstuck
  obtain ⟨-, es, hrun⟩ := hrun
  exact complete_of_stuck hreadable hnames hpos hcard hrun hstuck

/-- From the start, for two Nodes. -/
theorem completion_inevitable_sample :
    Inevitable (sampleStep 2) Prompt
      (Complete (sampleDeployment 2) (HashOrder.insertion String) sampleYaml)
      (init (sampleDeployment 2)) :=
  completion_inevitable readable_sample
    (fun _ => show Central.requestedNames sampleYaml sampleRequest ≠ some [] by decide)
    (by decide) (by decide) .nil clean_init

end Completion

end System

end ComuFrame
