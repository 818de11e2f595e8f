import ComuFrame.Central.Branches
import ComuFrame.Central.Subscriptions
import ComuFrame.Node.Progress
import ComuFrame.System.Faults
import ComuFrame.System.Subscriptions

/-!
# ComuFrame — nothing that Central waits for gets lost

Central waits for one thing after the other: for registrations, for requests, for reports.
`Alive` says for each of its loops that what it waits for is still to come:

* while it registers, a Node that has sent its registration is a client or has the message on
  its way;
* while it collects requests, some client has none in `requestMap`;
* in the last loop, the names not crossed off are, as far as `strcmp` can tell, those of the
  clients that still have something outstanding (`Pending`).

This is kept by the steps that confirm nobody again, with readable configurations
(`alive_of_run`).
-/

namespace ComuFrame

open Cpp Transition

namespace System

variable {ι : Type} {D : Deployment ι} {order : HashOrder String} {yaml : YamlCpp}
  {s s' : System ι}

/-- The names in `pending` are those of the clients with something outstanding. -/
structure Pending (D : Deployment ι) (yaml : YamlCpp) (s : System ι) (pending : List String) :
    Prop where
  nodup : pending.Nodup
  client : ∀ client ∈ pending, client ∈ s.central.connectedClients
  node : ∀ client ∈ pending, ∃ i, D.routingId i = client ∧ s.outstanding D yaml i ≠ []
  mem : ∀ i, D.routingId i ∈ s.central.connectedClients → s.outstanding D yaml i ≠ [] →
    D.routingId i ∈ pending

structure Alive (D : Deployment ι) (yaml : YamlCpp) (s : System ι) : Prop where
  fault : s.central.fault = none
  notice : ∀ i, (s.node i).OneNotice
  expectedClient : s.central.expectedClient = D.expectedClient
  registration : s.central.registering = true → ∀ i, (s.node i).service = .awaitingAck →
    D.routingId i ∈ s.central.clients ∨
      NodeState.registration yaml (D.config i) ∈ s.up i
  connected : s.central.registering = false →
    s.central.connectedClients.length = D.expectedClient
  collecting : ∀ requestMap, s.central.phase = .collecting requestMap →
    requestMap.size < s.central.connectedClients.length
  subscribing : ∀ requestMap toCheckSubscriptions,
    s.central.phase = .subscribing requestMap toCheckSubscriptions →
      ∃ pending, Pending D yaml s pending ∧
        (toCheckSubscriptions.map cStr).Perm (pending.map cStr)

/-- With clients to expect, Central starts in the registration loop. -/
theorem phase_init (hpos : 0 < D.expectedClient) :
    (init D).central.phase = .registering [] ∧ (init D).central.fault = none ∧
      (init D).central.expectedClient = D.expectedClient := by
  have hlt : ([] : List String).length < D.expectedClient := hpos
  show (Central.registrationHead _ _).1.phase = _ ∧ (Central.registrationHead _ _).1.fault = _ ∧
    (Central.registrationHead _ _).1.expectedClient = _
  rw [Central.registrationHead_lt hlt]
  exact ⟨rfl, rfl, rfl⟩

theorem alive_init (hpos : 0 < D.expectedClient) : Alive D yaml (init D) := by
  obtain ⟨hphase, hfault, hexpected⟩ := phase_init hpos
  exact {
    fault := hfault
    notice := fun _ => NodeState.oneNotice_init
    expectedClient := hexpected
    registration := fun _ i h => by simp [init, NodeState.init] at h
    connected := fun h => by simp [Central.registering_eq hphase] at h
    collecting := fun requestMap h => by simp [hphase] at h
    subscribing := fun requestMap toCheckSubscriptions h => by simp [hphase] at h }

/-! ## What the order of Central's messages says -/

/-- Outside the last loop no Node has its answer. -/
theorem Ordered.filled_eq_false {i : ι} (hordered : Ordered D i s)
    (hphase : ∀ requestMap toCheckSubscriptions,
      s.central.phase ≠ .subscribing requestMap toCheckSubscriptions) :
    (s.node i).service.filled = false := by
  by_contra hfilled
  obtain ⟨requestMap, toCheckSubscriptions, h⟩ :=
    (hordered.answered (by simpa using hfilled)).phase
  exact hphase requestMap toCheckSubscriptions h

/-- Whoever has no answer has not reported. -/
theorem outstanding_ne_nil_of_filled {i : ι} (hfilled : (s.node i).service.filled = false) :
    s.outstanding D yaml i ≠ [] := by
  have hunsent : (s.node i).unsent yaml (D.config i) ≠ [] := by
    unfold NodeState.unsent
    cases hservice : (s.node i).service <;> simp_all [Service.filled]
  simp [outstanding, hunsent]

section Step

variable [DecidableEq ι]

/-! ## Steps of the Nodes -/

omit [DecidableEq ι] in
theorem Pending.congr {pending : List String} (h : Pending D yaml s pending)
    (hcentral : s'.central.connectedClients = s.central.connectedClients)
    (hout : ∀ i, s'.outstanding D yaml i = s.outstanding D yaml i) :
    Pending D yaml s' pending where
  nodup := h.nodup
  client client hclient := hcentral ▸ h.client client hclient
  node client hclient := by
    obtain ⟨i, hi, hne⟩ := h.node client hclient
    exact ⟨i, hi, (hout i).symm ▸ hne⟩
  mem i hi hne := h.mem i (hcentral ▸ hi) (hout i ▸ hne)

theorem Alive.act (halive : Alive D yaml s) {j : ι} {st : NodeState} {sent : List Multipart}
    (hmove : NodeState.Moves yaml (D.config j) (s.node j) st sent) :
    Alive D yaml (s.updateNode j st sent) where
  fault := halive.fault
  expectedClient := halive.expectedClient
  connected := halive.connected
  collecting := halive.collecting
  notice i := by
    by_cases hi : i = j
    · subst hi
      simpa [updateNode] using (halive.notice i).moves hmove
    · simpa [updateNode, hi] using halive.notice i
  registration hreg i hservice := by
    by_cases hi : i = j
    · subst hi
      simp only [updateNode, Function.update_self] at hservice ⊢
      rcases NodeState.service_moves hmove with hsame | ⟨hboot, -⟩
      · refine (halive.registration hreg i (hsame ▸ hservice)).imp_right fun hmem => ?_
        exact List.mem_append_left _ hmem
      · -- the registration has just been sent
        rcases NodeState.sent_moves hmove with ⟨-, rfl⟩ | ⟨hloop, -⟩ | hnil
        · exact .inr (List.mem_append_right _ (List.mem_singleton_self _))
        · simp [hboot] at hloop
        · cases hmove with
          | boot => simp at hnil
          | _ => simp_all
    · simp only [updateNode, Function.update_of_ne hi] at hservice ⊢
      exact halive.registration hreg i hservice
  subscribing requestMap toCheckSubscriptions hphase := by
    obtain ⟨pending, hpending, hperm⟩ := halive.subscribing requestMap toCheckSubscriptions hphase
    exact ⟨pending, hpending.congr rfl (outstanding_updateNode (NodeState.unsent_moves hmove)),
      hperm⟩

theorem Alive.deliver (hinv : Inv D order yaml s) (halive : Alive D yaml s) {j : ι}
    {msg : Multipart} {rest : List Multipart} {st : NodeState} {sent : List Multipart}
    (hreceive : NodeState.Receives yaml (D.config j) (s.node j) msg st sent) :
    Alive D yaml { s.updateNode j st sent with down := Function.update s.down j rest } where
  fault := halive.fault
  expectedClient := halive.expectedClient
  connected := halive.connected
  collecting := halive.collecting
  notice i := by
    by_cases hi : i = j
    · subst hi
      simpa [updateNode] using (halive.notice i).receives (hinv.node i) hreceive
    · simpa [updateNode, hi] using halive.notice i
  registration hreg i hservice := by
    by_cases hi : i = j
    · -- whoever has received a message does not wait for the first one
      subst hi
      simp only [updateNode, Function.update_self] at hservice
      cases hreceive with
      | ack => simp at hservice
      | state => simp at hservice
      | packets => simp at hservice
      | allSubscribed hloop => simp [hloop] at hservice
      | ignore hloop => simp [hloop] at hservice
      | stop => simp at hservice
    · simp only [updateNode, Function.update_of_ne hi] at hservice ⊢
      exact halive.registration hreg i hservice
  subscribing requestMap toCheckSubscriptions hphase := by
    obtain ⟨pending, hpending, hperm⟩ := halive.subscribing requestMap toCheckSubscriptions hphase
    refine ⟨pending, hpending.congr rfl fun i => ?_, hperm⟩
    exact outstanding_updateNode (s := s) (NodeState.unsent_receives (hinv.node j) hreceive) i

/-! ## Steps of Central -/

omit [DecidableEq ι] in
/-- A registration received in the registration loop makes its sender a client. -/
theorem mem_clients_of_registering (hinv : Inv D order yaml s) {i : ι} {msgState data : String}
    {rest : List Multipart} {c : Central} {sent : List Multipart}
    (hup : s.up i = [msgState, data] :: rest)
    (hmsgState : msgState = "registration" ∨ msgState = "syncronization")
    (hmove : Central.Moves order yaml s.central (D.routingId i) msgState data c sent)
    (hfault : c.fault = none) (hreg : s.central.registering = true) :
    D.routingId i ∈ c.clients := by
  cases hmove with
  | confirm clients hphase hmem => exact Central.clients_registering hphase ▸ hmem
  | redirect clients hphase hmem hstate =>
    -- a stranger registers
    rw [hinv.central.state_registering hreg] at hstate
    exact hinv.mem_clients_of_state hup (hmsgState.resolve_left hstate)
  | register => simp [Central.clients]
  | registerLast => simp [Central.clients]
  | discard requestMap hphase => simp [(Central.collecting_eq hphase).1] at hreg
  | take requestMap names hphase => simp [(Central.collecting_eq hphase).1] at hreg
  | takeLast requestMap names hphase => simp [(Central.collecting_eq hphase).1] at hreg
  | hear requestMap toCheckSubscriptions hphase =>
    simp [(Central.subscribing_eq hphase).1] at hreg
  | unheard requestMap toCheckSubscriptions hphase =>
    simp [(Central.subscribing_eq hphase).1] at hreg
  | crash fault => simp at hfault

omit [DecidableEq ι] in
/-- Every client still has its report before it where the request loop ends. -/
theorem pending_of_unfilled (hinv : Inv D order yaml s)
    (hfilled : ∀ i, (s.node i).service.filled = false) (hreg : s.central.registering = false) :
    Pending D yaml s s.central.connectedClients := by
  have hclients := Central.clients_of_left hreg
  refine ⟨hclients ▸ hinv.central.nodup, fun client hclient => hclient,
    fun client hclient => ?_, fun i hi _ => hi⟩
  obtain ⟨i, hi⟩ := hinv.clients client (hclients ▸ hclient)
  exact ⟨i, hi, outstanding_ne_nil_of_filled (hfilled i)⟩

/-- The last loop takes a report of a pending client, and crosses off a name for it. -/
theorem Pending.hear (hinv : Inv D order yaml s) (hguarded : Guarded D yaml s)
    {requestMap : UnorderedMap String (List String)} {toCheckSubscriptions pending : List String}
    (hphase : s.central.phase = .subscribing requestMap toCheckSubscriptions)
    (hpending : Pending D yaml s pending)
    (hperm : (toCheckSubscriptions.map cStr).Perm (pending.map cStr)) {i : ι} {data : String}
    {rest : List Multipart} (hup : s.up i = syncMSG data :: rest)
    (hsteps : Steps D order yaml s (.central i) s')
    (hclients : s'.central.connectedClients = s.central.connectedClients) :
    toCheckSubscriptions.any (strcmpEq (D.routingId i)) = true ∧
    Pending D yaml s' (pending.erase (D.routingId i)) ∧
    ((toCheckSubscriptions.eraseP (strcmpEq (D.routingId i))).map cStr).Perm
      ((pending.erase (D.routingId i)).map cStr) := by
  obtain ⟨-, hclientsEq, hmap⟩ := Central.subscribing_eq hphase
  have hconnected : D.routingId i ∈ s.central.connectedClients :=
    hclientsEq ▸ hinv.mem_clients_of_state hup rfl
  have hreceived := outstanding_received hinv hup hsteps
  have hmem : D.routingId i ∈ pending := hpending.mem i hconnected (by simp [hreceived])
  -- it had one message left, at most
  have hlen := hguarded.asked i
    (hmap ▸ hinv.central.everyone requestMap toCheckSubscriptions hphase _ hconnected)
  have hnone : s'.outstanding D yaml i = [] := by
    rw [hreceived, List.length_cons] at hlen
    exact List.length_eq_zero_iff.mp (by omega)
  have hothers (j : ι) (hj : j ≠ i) : s'.outstanding D yaml j = s.outstanding D yaml j := by
    have h := outstanding_steps hinv hsteps j
    simp only [taken, if_neg hj, List.nil_append] at h
    exact h.symm
  refine ⟨?_, ⟨hpending.nodup.erase _, fun client hclient => ?_, fun client hclient => ?_,
    fun j hj hne => ?_⟩, ?_⟩
  · rw [Central.any_strcmpEq_iff, hperm.mem_iff]
    exact List.mem_map_of_mem hmem
  · exact hclients ▸ hpending.client client (List.mem_of_mem_erase hclient)
  · obtain ⟨hother, hold⟩ := hpending.nodup.mem_erase_iff.mp hclient
    obtain ⟨j, rfl, hne⟩ := hpending.node client hold
    exact ⟨j, rfl, by rwa [hothers j fun h => hother (by rw [h])]⟩
  · have hji : j ≠ i := by
      rintro rfl
      exact hne hnone
    rw [hothers j hji] at hne
    refine hpending.nodup.mem_erase_iff.mpr ⟨fun h => hji (D.distinct h), ?_⟩
    exact hpending.mem j (hclients ▸ hj) hne
  · rw [Central.map_cStr_eraseP]
    refine (hperm.erase _).trans ?_
    have hsplit := (List.perm_cons_erase hmem).map cStr
    rw [List.map_cons] at hsplit
    exact (hsplit.erase _).trans (by rw [List.erase_cons_head])

/-- A new key in `requestMap`. -/
theorem size_assign_of_notMem {requestMap : UnorderedMap String (List String)} {client : String}
    (hnew : client ∉ requestMap.keys) (names : List String) :
    (requestMap.assign client names).size = requestMap.size + 1 := by
  rw [← UnorderedMap.length_keys, ← UnorderedMap.length_keys, UnorderedMap.keys,
    UnorderedMap.nodes_assign_of_notMem hnew, List.map_append, List.length_append]
  rfl

/-- What Central's step needs to know about the other invariants. -/
structure Settled (D : Deployment ι) (order : HashOrder String) (yaml : YamlCpp)
    (s : System ι) : Prop where
  inv : Inv D order yaml s
  guarded : Guarded D yaml s
  ordered : ∀ i, Ordered D i s
  kept : ∀ i, Kept D yaml i s

/-- The request of a Node is what Central takes for it. -/
theorem Settled.fault (hsettled : Settled D order yaml s)
    (hreadable : ∀ i, ReadableConfig yaml (D.config i)) {i : ι}
    (hstep : step D order yaml s (.central i) = some s') : s'.central.fault = none := by
  by_contra hbad
  obtain ⟨data, rest, hup, -, hnew, hnone⟩ := fault_of_step hreadable hsettled.inv hstep hbad
  obtain ⟨_, _, _, hfault, -⟩ := central_of_step hstep
  have hfull := (hsettled.kept i).full hfault hnew
  rw [outstanding_received hsettled.inv hup (step_steps hsettled.inv hstep)] at hfull
  obtain rfl : data = yaml.emit (D.config i).requestedData := by
    simpa [NodeState.request, syncMSG] using (List.cons.inj hfull).1
  exact (hreadable i).names_ne_none hnone

theorem Alive.registration_central (hinv : Inv D order yaml s) (halive : Alive D yaml s) {i : ι}
    {msgState data : String} {rest : List Multipart} {c : Central} {sent : List Multipart}
    (hup : s.up i = [msgState, data] :: rest)
    (hmsgState : msgState = "registration" ∨ msgState = "syncronization")
    (hmove : Central.Moves order yaml s.central (D.routingId i) msgState data c sent)
    (hfault : c.fault = none) (hreg : c.registering = true) (j : ι)
    (hservice : (s.node j).service = .awaitingAck) :
    D.routingId j ∈ c.clients ∨
      NodeState.registration yaml (D.config j) ∈ Function.update s.up i rest j := by
  have hreg' : s.central.registering = true := by
    by_contra h
    simp [(Central.connectedClients_moves hmove (by simpa using h)).1] at hreg
  by_cases hj : j = i
  · subst hj
    exact .inl (mem_clients_of_registering hinv hup hmsgState hmove hfault hreg')
  · rw [Function.update_of_ne hj]
    exact (halive.registration hreg' j hservice).imp_left
      fun hmem => Central.clients_subset_moves hmove hmem

omit [DecidableEq ι] in
/-- A step into the request loop, or within it. -/
theorem Alive.collecting_central (halive : Alive D yaml s) {i : ι} {msgState data : String}
    {c : Central} {sent : List Multipart}
    (hmove : Central.Moves order yaml s.central (D.routingId i) msgState data c sent)
    (requestMap : UnorderedMap String (List String)) (hphase : c.phase = .collecting requestMap) :
    requestMap.size < c.connectedClients.length := by
  cases hmove with
  | confirm clients h => simp [h] at hphase
  | redirect clients h => simp [h] at hphase
  | register => simp at hphase
  | registerLast clients db h =>
    obtain rfl := Phase.collecting.inj hphase
    simp [UnorderedMap.empty, UnorderedMap.size]
  | discard => exact halive.collecting requestMap hphase
  | take requestMap' names h hstate hnew hnames hsize =>
    obtain rfl := Phase.collecting.inj hphase
    have hlt := halive.collecting requestMap' h
    rw [size_assign_of_notMem hnew] at hsize ⊢
    show _ < s.central.connectedClients.length
    omega
  | takeLast => simp [Central.answerRequests] at hphase
  | hear => simp at hphase
  | unheard requestMap' toCheckSubscriptions h => simp [h] at hphase
  | crash => exact halive.collecting requestMap hphase

/-- A message in the last loop. -/
theorem Alive.subscribing_hear (hsettled : Settled D order yaml s) (halive : Alive D yaml s)
    {i : ι} (hstep : step D order yaml s (.central i) = some s')
    {requestMap : UnorderedMap String (List String)} {toCheckSubscriptions : List String}
    (hphase : s.central.phase = .subscribing requestMap toCheckSubscriptions) :
    ∃ toCheckSubscriptions' pending,
      s'.central.phase = .subscribing requestMap toCheckSubscriptions' ∧
      Pending D yaml s' pending ∧ (toCheckSubscriptions'.map cStr).Perm (pending.map cStr) := by
  have hinv := hsettled.inv
  have hsteps := step_steps hinv hstep
  obtain ⟨pending, hpending, hperm⟩ := halive.subscribing _ _ hphase
  obtain ⟨msg, rest, hup, hfault, hs'⟩ := central_of_step hstep
  obtain ⟨msgState, data, rfl, hmsgState⟩ := hinv.up_frames (show msg ∈ s.up i by simp [hup])
  have hclients : s'.central.connectedClients = s.central.connectedClients := by
    cases hsteps with
    | central _ _ _ _ _ _ _ _ _ hmove => exact (Central.subscribing_moves hphase hmove).2.1
  have hnext : s'.central.phase = .subscribing requestMap
      (if strcmpEq msgState "syncronization" = true ∧
          toCheckSubscriptions.any (strcmpEq (D.routingId i)) = true
        then toCheckSubscriptions.eraseP (strcmpEq (D.routingId i))
        else toCheckSubscriptions) := by
    rw [hs']
    exact Central.phase_subscribing hfault hphase
  rcases hmsgState with rfl | rfl
  · -- a late registration is not outstanding
    rw [if_neg fun h => absurd h.1 (by decide)] at hnext
    refine ⟨_, pending, hnext, hpending.congr hclients fun j => ?_, hperm⟩
    have h := outstanding_steps hinv hsteps j
    have htaken : s.taken j (.central i) = [] := by
      by_cases hj : j = i
      · subst hj
        simp [taken, hup, isSync]
      · simp [taken, hj]
    rw [htaken, List.nil_append] at h
    exact h.symm
  · obtain ⟨hany, hpending', hperm'⟩ :=
      hpending.hear hinv hsettled.guarded hphase hperm hup hsteps hclients
    rw [if_pos ⟨strcmpEq_self _, hany⟩] at hnext
    exact ⟨_, _, hnext, hpending', hperm'⟩

/-- A step into the last loop, or within it. -/
theorem Alive.subscribing_central (hsettled : Settled D order yaml s) (halive : Alive D yaml s)
    {i : ι} (hstep : step D order yaml s (.central i) = some s')
    (requestMap : UnorderedMap String (List String)) (toCheckSubscriptions : List String)
    (hphase : s'.central.phase = .subscribing requestMap toCheckSubscriptions) :
    ∃ pending, Pending D yaml s' pending ∧
      (toCheckSubscriptions.map cStr).Perm (pending.map cStr) := by
  have hsteps := step_steps hsettled.inv hstep
  have hcases : (∃ toCheckSubscriptions',
        s.central.phase = .subscribing requestMap toCheckSubscriptions') ∨
      ((∃ requestMap', s.central.phase = .collecting requestMap') ∧
        toCheckSubscriptions = s'.central.connectedClients) := by
    cases hsteps with
    | central _ _ _ _ _ _ _ _ _ hmove =>
      rcases Central.subscribing_of_moves hmove hphase with hbefore | ⟨⟨_, hbefore⟩, -, rfl⟩
      · exact .inl hbefore
      · exact .inr ⟨⟨_, hbefore⟩, (Central.connectedClients_moves hmove
          (Central.collecting_eq hbefore).1).2.symm⟩
  rcases hcases with ⟨_, hbefore⟩ | ⟨⟨requestMap', hbefore⟩, rfl⟩
  · obtain ⟨_, pending, hnext, hpending, hperm⟩ := halive.subscribing_hear hsettled hstep hbefore
    rw [hnext] at hphase
    obtain ⟨-, rfl⟩ := Phase.subscribing.inj hphase
    exact ⟨pending, hpending, hperm⟩
  · -- the last request is in: nobody has its answer yet
    have hfilled (j : ι) : (s'.node j).service.filled = false := by
      have h := (hsettled.ordered j).filled_eq_false (by simp [hbefore])
      cases hsteps with
      | central => exact h
    exact ⟨_, pending_of_unfilled (hsettled.inv.steps hsteps) hfilled
      (Central.subscribing_eq hphase).1, .refl _⟩

theorem Alive.central (hsettled : Settled D order yaml s)
    (hreadable : ∀ i, ReadableConfig yaml (D.config i)) (halive : Alive D yaml s) {i : ι}
    (hstep : step D order yaml s (.central i) = some s') : Alive D yaml s' := by
  have hinv := hsettled.inv
  have hfault' := hsettled.fault hreadable hstep
  have hsubscribing := halive.subscribing_central hsettled hstep
  have hconnected : s'.central.registering = false →
      s'.central.connectedClients.length = D.expectedClient := by
    intro hleft
    obtain ⟨msg, rest, hup, hfault, hs'⟩ := central_of_step hstep
    obtain ⟨msgState, data, rfl, -⟩ := hinv.up_frames (show msg ∈ s.up i by simp [hup])
    by_cases hreg : s.central.registering = true
    · rw [hs'] at hleft ⊢
      exact (Central.connected_of_left hfault hinv.central.few hreg hleft).trans
        halive.expectedClient
    · have hreg : s.central.registering = false := by simpa using hreg
      cases step_steps hinv hstep with
      | central _ _ _ _ _ _ _ _ _ hmove =>
        exact (congrArg List.length (Central.connectedClients_moves hmove hreg).2).trans
          (halive.connected hreg)
  cases step_steps hinv hstep with
  | central i msgState data rest c sent hfault hup hmsgState hmove =>
    exact {
      fault := hfault'
      notice := halive.notice
      expectedClient := (Central.expectedClient_moves hmove).trans halive.expectedClient
      registration := fun hreg j hservice =>
        halive.registration_central hinv hup hmsgState hmove hfault' hreg j hservice
      connected := hconnected
      collecting := halive.collecting_central hmove
      subscribing := hsubscribing }

theorem Alive.step (hsettled : Settled D order yaml s)
    (hreadable : ∀ i, ReadableConfig yaml (D.config i)) (halive : Alive D yaml s) {e : Event ι}
    (hstep : System.step D order yaml s e = some s') : Alive D yaml s' := by
  cases e with
  | act i action =>
    cases step_steps hsettled.inv hstep with
    | act _ _ _ _ hmove => exact halive.act hmove
  | deliver i =>
    cases step_steps hsettled.inv hstep with
    | deliver _ _ _ _ _ _ hreceive => exact halive.deliver hsettled.inv hreceive
  | central i => exact halive.central hsettled hreadable hstep

/-! ## Runs that confirm nobody again -/

/-- No Node is confirmed again in the step. -/
def NoneReconfirmed (D : Deployment ι) (s : System ι) (e : Event ι) : Prop :=
  ∀ i, NotReconfirmed D i s e

theorem settled_of_run (hreadable : ∀ i, ReadableConfig yaml (D.config i)) {es : List (Event ι)}
    (hrun : Run (System.step D order yaml) (NoneReconfirmed D) (init D) es s) :
    Settled D order yaml s where
  inv := reachable_inv hrun.reachable
  guarded := reachable_guarded hrun.reachable
  ordered i := ordered_of_notReconfirmed (hrun.mono fun _ _ hok => hok i)
  kept i := kept_of_notReconfirmed (hreadable i).request (hrun.mono fun _ _ hok => hok i)

/-- **Nothing gets lost** in a run that confirms nobody again. -/
theorem alive_of_run (hreadable : ∀ i, ReadableConfig yaml (D.config i)) (hpos : 0 < D.expectedClient)
    {es : List (Event ι)}
    (hrun : Run (System.step D order yaml) (NoneReconfirmed D) (init D) es s) :
    Alive D yaml s := by
  refine hrun.induction (alive_init hpos) ?_
  intro es s e s' hrun halive _ hstep
  exact halive.step (settled_of_run hreadable hrun) hreadable hstep

end Step

end System

end ComuFrame
