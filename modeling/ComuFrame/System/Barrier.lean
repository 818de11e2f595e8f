import ComuFrame.System.Registration

/-!
# ComuFrame — the barrier

Central's last loop takes any message in `Syncronization` for a report, and crosses one
name off its list for it. What makes this sound is how little a client can still have
outstanding by then: one message was consumed as its request, so at most one is left, and
consuming that one leaves nothing. A Node with nothing outstanding has sent its "subscribed",
and so its sub thread is through its loop. `Guarded` counts the clients heard against the
names crossed off, so that it does not matter which name was crossed off for whom.
-/

namespace ComuFrame

open Cpp Transition

namespace System

variable {ι : Type} {D : Deployment ι} {order : HashOrder String} {yaml : YamlCpp}
  {s s' : System ι}

/-- The sub thread has been through its subscribe loop, from the filter of the literal to the
last of the subscriptions, and has reported. -/
def Subscribed (st : NodeState) : Prop :=
  st.sub = .reported ∧ st.topics = NodeState.literalTopic :: st.subscriptions

/-- Nothing outstanding: the sub thread of the Node is through its loop. -/
theorem Inv.subscribed (hinv : Inv D order yaml s) {i : ι}
    (hnone : s.outstanding D yaml i = []) : Subscribed (s.node i) := by
  -- with its request sent and no notice pending
  have hunsent : (s.node i).unsent yaml (D.config i) = [] :=
    (List.append_eq_nil_iff.mp hnone).2
  have hfilled : (s.node i).service.filled = true := by
    unfold NodeState.unsent at hunsent
    cases hservice : (s.node i).service <;> simp_all [Service.filled]
  rw [NodeState.unsent_of_filled hfilled] at hunsent
  exact (hinv.node i).reported hfilled (by simpa using congrArg List.length hunsent)

/-! ## The invariant -/

/-- `heard` are clients that Central has heard the last message of. -/
structure Heard (D : Deployment ι) (yaml : YamlCpp) (s : System ι) (heard : List String) :
    Prop where
  nodup : heard.Nodup
  client : ∀ client ∈ heard, client ∈ s.central.connectedClients
  none : ∀ i, D.routingId i ∈ heard → s.outstanding D yaml i = []

structure Guarded (D : Deployment ι) (yaml : YamlCpp) (s : System ι) : Prop where
  /-- Whoever has a request in `requestMap` has at most one message left. -/
  asked : ∀ i, D.routingId i ∈ s.central.requestMap.keys → (s.outstanding D yaml i).length ≤ 1
  /-- For every name crossed off some client has been heard. -/
  heard : ∀ requestMap toCheckSubscriptions,
    s.central.phase = .subscribing requestMap toCheckSubscriptions →
      ∃ heard, Heard D yaml s heard ∧
        s.central.connectedClients.length ≤ toCheckSubscriptions.length + heard.length

theorem guarded_init (D : Deployment ι) (yaml : YamlCpp) : Guarded D yaml (init D) where
  asked i hi := by simp [init] at hi
  heard requestMap toCheckSubscriptions hphase :=
    absurd hphase (Central.phase_init_ne D.expectedClient requestMap toCheckSubscriptions)

/-- As many heard as there are clients: all of them. -/
theorem Heard.all {heard : List String} (hheard : Heard D yaml s heard)
    (hall : s.central.connectedClients.length ≤ heard.length) :
    ∀ client ∈ s.central.connectedClients, client ∈ heard := by
  have hperm : heard.Perm s.central.connectedClients :=
    (List.subperm_of_subset hheard.nodup hheard.client).perm_of_length_le hall
  exact fun client hclient => hperm.mem_iff.mpr hclient

theorem Heard.mono {heard : List String} (h : Heard D yaml s heard)
    (hclients : s'.central.connectedClients = s.central.connectedClients)
    (hsuffix : ∀ i, s'.outstanding D yaml i <:+ s.outstanding D yaml i) :
    Heard D yaml s' heard where
  nodup := h.nodup
  client client hclient := hclients ▸ h.client client hclient
  none i hi := by
    have hnone := h.none i hi
    exact List.suffix_nil.mp (hnone ▸ hsuffix i)

/-- Steps that leave Central's loop where it is. -/
theorem Guarded.mono (hguarded : Guarded D yaml s)
    (hphase : s'.central.phase = s.central.phase)
    (hclients : s'.central.connectedClients = s.central.connectedClients)
    (hsuffix : ∀ i, s'.outstanding D yaml i <:+ s.outstanding D yaml i) : Guarded D yaml s' where
  asked i hi := by
    have hmap : s'.central.requestMap = s.central.requestMap := by
      unfold Central.requestMap
      rw [hphase]
    exact (hsuffix i).length_le.trans (hguarded.asked i (hmap ▸ hi))
  heard requestMap toCheckSubscriptions h := by
    obtain ⟨heard, hheard, hlen⟩ := hguarded.heard requestMap toCheckSubscriptions (hphase ▸ h)
    exact ⟨heard, hheard.mono hclients hsuffix, hclients ▸ hlen⟩

section Step

variable [DecidableEq ι]

/-- The request just taken was one of at most two messages. -/
theorem asked_assign (hinv : Inv D order yaml s) (hguarded : Guarded D yaml s) {i : ι}
    {data : String} {rest : List Multipart} {names : List String}
    (hup : s.up i = syncMSG data :: rest) (hsteps : Steps D order yaml s (.central i) s') (j : ι)
    (hj : D.routingId j ∈ (s.central.requestMap.assign (D.routingId i) names).keys) :
    (s'.outstanding D yaml j).length ≤ 1 := by
  rcases UnorderedMap.mem_keys_assign.mp hj with hsender | hold
  · obtain rfl := D.distinct hsender
    have hlen := (hinv.outstanding j).length_le
    rw [outstanding_received hinv hup hsteps] at hlen
    simp only [List.length_cons, List.length_nil] at hlen
    omega
  · exact (outstanding_suffix hinv hsteps j).length_le.trans (hguarded.asked j hold)

/-- In the last loop, whatever a client still had outstanding is gone once it is heard. -/
theorem heard_cons (hinv : Inv D order yaml s) (hguarded : Guarded D yaml s) {i : ι}
    {data : String} {rest : List Multipart} {requestMap : UnorderedMap String (List String)}
    {toCheckSubscriptions heard : List String}
    (hphase : s.central.phase = .subscribing requestMap toCheckSubscriptions)
    (hheard : Heard D yaml s heard) (hup : s.up i = syncMSG data :: rest)
    (hsteps : Steps D order yaml s (.central i) s')
    (hclients : s'.central.connectedClients = s.central.connectedClients) :
    Heard D yaml s' (D.routingId i :: heard) := by
  obtain ⟨-, hclientsEq, hmap⟩ := Central.subscribing_eq hphase
  have hmem : D.routingId i ∈ s.central.connectedClients :=
    hclientsEq ▸ hinv.mem_clients_of_state hup rfl
  have hkey := hinv.central.everyone requestMap toCheckSubscriptions hphase _ hmem
  have hlen := hguarded.asked i (hmap ▸ hkey)
  have hreceived := outstanding_received hinv hup hsteps
  have hnone : s'.outstanding D yaml i = [] := by
    rw [hreceived, List.length_cons] at hlen
    exact List.length_eq_zero_iff.mp (by omega)
  have hmono := hheard.mono hclients (outstanding_suffix hinv hsteps)
  refine ⟨List.nodup_cons.mpr ⟨?_, hheard.nodup⟩, ?_, ?_⟩
  · -- it had something outstanding, and those heard have not
    intro hin
    have := hheard.none i hin
    rw [hreceived] at this
    simp at this
  · intro client hclient
    rcases List.mem_cons.mp hclient with rfl | hold
    · exact hclients ▸ hmem
    · exact hmono.client client hold
  · intro j hj
    rcases List.mem_cons.mp hj with hsender | hold
    · obtain rfl := D.distinct hsender
      exact hnone
    · exact hmono.none j hold

theorem Guarded.steps (hinv : Inv D order yaml s) (hguarded : Guarded D yaml s) {e : Event ι}
    (hsteps : Steps D order yaml s e s') : Guarded D yaml s' := by
  have hsuffix := outstanding_suffix hinv hsteps
  cases hsteps with
  | act => exact hguarded.mono rfl rfl hsuffix
  | deliver => exact hguarded.mono rfl rfl hsuffix
  | central i msgState data rest c sent hfault hup hmsgState hmove =>
    have hcentral : Steps D order yaml s (.central i) _ :=
      .central i msgState data rest c sent hfault hup hmsgState hmove
    cases hmove with
    | register => exact ⟨fun i hi => by simp [Central.requestMap] at hi, fun _ _ h => by simp at h⟩
    | registerLast =>
      exact ⟨fun i hi => by simp [Central.requestMap] at hi, fun _ _ h => by simp at h⟩
    | take requestMap names hphase hstate hnew hnames hsize =>
      obtain ⟨hreg, -, hmap⟩ := Central.collecting_eq hphase
      obtain rfl : msgState = "syncronization" := hstate.trans (hinv.central.toString_later hreg)
      subst hmap
      exact ⟨asked_assign hinv hguarded hup hcentral, fun _ _ h => by simp at h⟩
    | takeLast requestMap names hphase hstate hnew hnames hsize =>
      obtain ⟨hreg, -, hmap⟩ := Central.collecting_eq hphase
      obtain rfl : msgState = "syncronization" := hstate.trans (hinv.central.toString_later hreg)
      subst hmap
      refine ⟨asked_assign hinv hguarded hup hcentral, fun _ toCheckSubscriptions h => ?_⟩
      -- nobody heard yet, nobody crossed off
      obtain ⟨-, rfl⟩ := Phase.subscribing.inj h
      exact ⟨[], ⟨List.nodup_nil, by simp, by simp⟩, by simp [Central.answerRequests]⟩
    | hear requestMap toCheckSubscriptions hphase hstate hany =>
      obtain rfl : msgState = "syncronization" :=
        hmsgState.resolve_left (by rintro rfl; exact absurd hstate (by decide))
      refine ⟨fun j hj => ?_, fun _ _ h => ?_⟩
      · exact (hsuffix j).length_le.trans
          (hguarded.asked j (by simpa [Central.requestMap, hphase] using hj))
      · obtain ⟨rfl, rfl⟩ := Phase.subscribing.inj h
        obtain ⟨heard, hheard, hlen⟩ := hguarded.heard _ _ hphase
        refine ⟨_, heard_cons hinv hguarded hphase hheard hup hcentral rfl, ?_⟩
        -- one name fewer, one client more
        obtain ⟨name, hname, heq⟩ := List.any_eq_true.mp hany
        have herase := List.length_eraseP_of_mem hname heq
        have hpos := List.length_pos_of_mem hname
        simp only [List.length_cons]
        omega
    | _ => exact hguarded.mono rfl rfl hsuffix

theorem reachable_guarded (hreach : Reachable D order yaml s) : Guarded D yaml s := by
  refine hreach.induction (guarded_init D yaml) ?_
  intro s e s' hreach hguarded hstep
  have hinv := reachable_inv hreach
  exact hguarded.steps hinv (step_steps hinv hstep)

/-! ## The broadcast -/

/-- What Central sends in a step. -/
def sentBy (D : Deployment ι) (order : HashOrder String) (yaml : YamlCpp) (s : System ι) :
    Event ι → List Multipart
  | .central i =>
    match s.up i with
    | [] => []
    | msg :: _ => (s.central.onMessage order yaml (D.routingId i :: msg)).2
  | _ => []

/-- The step in which the last name is crossed off: after it nobody has anything left. -/
theorem subscribed_of_allSubscribed (hinv : Inv D order yaml s) (hguarded : Guarded D yaml s)
    {i : ι} {msgState data : String} {rest : List Multipart} {c : Central}
    {sent : List Multipart} (hfault : s.central.fault = none)
    (hup : s.up i = [msgState, data] :: rest)
    (hmsgState : msgState = "registration" ∨ msgState = "syncronization")
    (hmove : Central.Moves order yaml s.central (D.routingId i) msgState data c sent)
    {client : String} (hsent : [client, "syncronization", "AllSubscribed"] ∈ sent) :
    ∀ client ∈ s.central.connectedClients, ∃ i, D.routingId i = client ∧
      Subscribed (s.node i) := by
  obtain ⟨requestMap, toCheckSubscriptions, hphase, hstate, hany, hnil⟩ :=
    Central.allSubscribed_moves hinv.central hmove hsent
  obtain rfl : msgState = "syncronization" :=
    hmsgState.resolve_left (by rintro rfl; exact absurd hstate (by decide))
  have hsteps := Steps.central i "syncronization" data rest c sent hfault hup (.inr rfl) hmove
  have hinv' := hinv.steps hsteps
  obtain ⟨heard, hheard, hlen⟩ := hguarded.heard requestMap toCheckSubscriptions hphase
  have hclients : c.connectedClients = s.central.connectedClients :=
    (Central.subscribing_moves hphase hmove).2.1
  have hheard' := heard_cons hinv hguarded hphase hheard hup hsteps hclients
  -- the list had one name left
  have hone : toCheckSubscriptions.length = 1 := by
    obtain ⟨name, hname, heq⟩ := List.any_eq_true.mp hany
    have herase := List.length_eraseP_of_mem hname heq
    have hpos := List.length_pos_of_mem hname
    omega
  have hall := hheard'.all (by
    simp only [hclients, List.length_cons]
    omega)
  intro client hclient
  have hmem := hall client (hclients.symm ▸ hclient)
  obtain ⟨j, rfl⟩ := hinv.clients client
    ((Central.subscribing_eq hphase).2.1.symm ▸ hclient)
  exact ⟨j, rfl, hinv'.subscribed (hheard'.none j hmem)⟩

/-- **Barrier safety.** When Central sends "AllSubscribed", to whomever, every one of its
clients is a Node whose sub thread has been through its subscribe loop and has reported. -/
theorem allSubscribed_sound (hreach : Reachable D order yaml s) {e : Event ι} {client : String}
    (hsent : [client, "syncronization", "AllSubscribed"] ∈ sentBy D order yaml s e) :
    ∀ client ∈ s.central.connectedClients, ∃ i, D.routingId i = client ∧
      Subscribed (s.node i) := by
  have hinv := reachable_inv hreach
  cases e with
  | act i action => simp [sentBy] at hsent
  | deliver i => simp [sentBy] at hsent
  | central i =>
    simp only [sentBy] at hsent
    split at hsent
    · simp at hsent
    · next msg rest hup =>
      obtain ⟨msgState, data, rfl, hmsgState⟩ :=
        hinv.up_frames (show msg ∈ s.up i by simp [hup])
      have hfault : s.central.fault = none := by
        by_contra hfault
        obtain ⟨fault, hfault⟩ := Option.ne_none_iff_exists'.mp hfault
        rw [Central.onMessage_of_fault hfault] at hsent
        simp at hsent
      exact subscribed_of_allSubscribed hinv (reachable_guarded hreach) hfault hup hmsgState
        (Central.onMessage_moves hfault hinv.central.few) hsent

/-- One Node and its whole way to the barrier: what Central receives next is its report. -/
theorem allSubscribed_sound_sample :
    ∃ s, Reachable (sampleDeployment 1) (HashOrder.insertion String) sampleYaml s ∧
      ["A", "syncronization", "AllSubscribed"] ∈
        sentBy (sampleDeployment 1) (HashOrder.insertion String) sampleYaml s (.central false) ∧
      ∀ client ∈ s.central.connectedClients, ∃ i, (sampleDeployment 1).routingId i = client ∧
        Subscribed (s.node i) := by
  obtain ⟨s, hrun, hsent⟩ : ∃ s, Run (sampleStep 1) Always (init (sampleDeployment 1))
      [.act false .boot, .central false, .deliver false, .deliver false, .central false,
        .deliver false, .act false .mainFromService, .act false .subStart, .act false .subTopic,
        .act false .subReport, .act false .mainFromSub, .act false .forward] s ∧
      sentBy (sampleDeployment 1) (HashOrder.insertion String) sampleYaml s (.central false)
        = [["A", "syncronization", "AllSubscribed"]] := Run.of_exec (by decide)
  have hmem : ["A", "syncronization", "AllSubscribed"] ∈
      sentBy (sampleDeployment 1) (HashOrder.insertion String) sampleYaml s (.central false) := by
    simp [hsent]
  exact ⟨s, hrun.reachable, hmem, allSubscribed_sound hrun.reachable hmem⟩

end Step

end System

end ComuFrame
