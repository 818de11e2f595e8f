import ComuFrame.Central.Branches
import ComuFrame.Lib.Meeting
import ComuFrame.Lib.Simulation
import ComuFrame.System.Transcript

/-!
# ComuFrame — the system holds a meeting

What the registration, the requests and the reports are for: the expected Nodes come together,
each asks once, each reports once, and then they are released. `visible` reads the moves of
this meeting off Central's steps, and everything else the system does, the threads of the Nodes,
repeated registrations, discarded messages, is not visible in it.

* `holdsMeeting` — the system simulates `Meeting.step`, in every interleaving and with any
  timeouts;
* `meeting_of_run` — so the visible moves of a run form the blocks of `Meeting.Minutes`, whoever
  has reported is through its subscribe loop, and the released have all reported.
-/

namespace ComuFrame

open Cpp Transition

namespace System

variable {ι : Type}

/-- The moves that show when Central goes from `c` to `c'` with a message of Node `i`. -/
def shown (D : Deployment ι) (c c' : Central) (i : ι) (msg : Multipart) :
    List (Meeting.Move ι) :=
  match c.phase with
  | .registering clients =>
    if D.routingId i ∈ c'.clients ∧ D.routingId i ∉ clients then [.join i] else []
  | .collecting requestMap =>
    if D.routingId i ∈ c'.requestMap.keys ∧ D.routingId i ∉ requestMap.keys then [.ask i] else []
  | .subscribing _ toCheckSubscriptions =>
    (if isSync msg then [.report i] else []) ++
      match c'.phase with
      | .subscribing _ [] => if toCheckSubscriptions = [] then [] else [.release]
      | _ => []

section Shown

variable {D : Deployment ι} {c c' : Central} {i : ι} {msg : Multipart}

/-- Outside the last loop nothing shows but a new client or a new request. -/
theorem shown_quiet (hlast : ∀ requestMap toCheckSubscriptions,
      c.phase ≠ .subscribing requestMap toCheckSubscriptions)
    (hclients : c'.clients = c.clients) (hmap : c'.requestMap = c.requestMap) :
    shown D c c' i msg = [] := by
  unfold shown
  cases hphase : c.phase with
  | registering clients => simp [hclients, Central.clients_registering hphase]
  | collecting requestMap => simp [hmap, (Central.collecting_eq hphase).2.2]
  | subscribing requestMap toCheckSubscriptions => exact absurd hphase (hlast _ _)

theorem shown_join {clients : List String} (hphase : c.phase = .registering clients)
    (hmem : D.routingId i ∉ clients) (hmem' : D.routingId i ∈ c'.clients) :
    shown D c c' i msg = [.join i] := by
  rw [shown, hphase]
  exact if_pos ⟨hmem', hmem⟩

theorem shown_ask {requestMap : UnorderedMap String (List String)}
    (hphase : c.phase = .collecting requestMap) (hmem : D.routingId i ∉ requestMap.keys)
    (hmem' : D.routingId i ∈ c'.requestMap.keys) : shown D c c' i msg = [.ask i] := by
  rw [shown, hphase]
  exact if_pos ⟨hmem', hmem⟩

theorem shown_subscribing {requestMap requestMap' : UnorderedMap String (List String)}
    {toCheckSubscriptions toCheckSubscriptions' : List String}
    (hphase : c.phase = .subscribing requestMap toCheckSubscriptions)
    (hphase' : c'.phase = .subscribing requestMap' toCheckSubscriptions') :
    shown D c c' i msg = (if isSync msg then [.report i] else []) ++
      (if toCheckSubscriptions' = [] ∧ toCheckSubscriptions ≠ [] then [.release] else []) := by
  rw [shown, hphase]
  simp only [hphase']
  cases toCheckSubscriptions' with
  | nil =>
    by_cases hnil : toCheckSubscriptions = []
    · simp [hnil]
    · simp [hnil]
  | cons name names => simp

end Shown

/-- The moves of the meeting in a step of the system. -/
def visible (D : Deployment ι) (order : HashOrder String) (yaml : YamlCpp) (s : System ι) :
    Event ι → List (Meeting.Move ι)
  | .central i =>
    match s.up i with
    | [] => []
    | msg :: _ =>
      shown D s.central (s.central.onMessage order yaml (D.routingId i :: msg)).1 i msg
  | _ => []

/-- Where the meeting is when the system is in `s`. -/
structure Follows (D : Deployment ι) (yaml : YamlCpp) (s : System ι) (m : Meeting.State ι) :
    Prop where
  joined : m.joined.map D.routingId = s.central.clients
  asked : ∀ i, i ∈ m.asked ↔ D.routingId i ∈ s.central.requestMap.keys
  /-- Nothing more is to come of those who have reported. -/
  reported : ∀ i ∈ m.reported, s.outstanding D yaml i = []
  early : (∀ requestMap toCheckSubscriptions,
      s.central.phase ≠ .subscribing requestMap toCheckSubscriptions) →
    m.reported = [] ∧ m.released = false
  /-- For every name crossed off somebody has reported. -/
  late : ∀ requestMap toCheckSubscriptions,
    s.central.phase = .subscribing requestMap toCheckSubscriptions →
      s.central.connectedClients.length ≤ toCheckSubscriptions.length + m.reported.length ∧
      (m.released = true ↔ toCheckSubscriptions = [])

variable {D : Deployment ι} {order : HashOrder String} {yaml : YamlCpp} {s s' : System ι}
  {m : Meeting.State ι}

theorem follows_init : Follows D yaml (init D) Meeting.start where
  joined := by simp [init, Meeting.start]
  asked i := by simp [init, Meeting.start]
  reported i hi := by simp [Meeting.start] at hi
  early _ := ⟨rfl, rfl⟩
  late requestMap toCheckSubscriptions hphase :=
    absurd hphase (Central.phase_init_ne D.expectedClient requestMap toCheckSubscriptions)

/-- The participants are the clients. -/
theorem Follows.mem_joined (h : Follows D yaml s m) {i : ι} :
    i ∈ m.joined ↔ D.routingId i ∈ s.central.clients := by
  rw [← h.joined, List.mem_map]
  constructor
  · exact fun hi => ⟨i, hi, rfl⟩
  · intro ⟨j, hj, heq⟩
    exact D.distinct heq ▸ hj

theorem Follows.length_joined (h : Follows D yaml s m) :
    m.joined.length = s.central.clients.length := by
  rw [← h.joined, List.length_map]

/-- A step that nothing shows of. -/
theorem Follows.congr (h : Follows D yaml s m)
    (hclients : s'.central.clients = s.central.clients)
    (hmap : s'.central.requestMap = s.central.requestMap)
    (hphase : ∀ requestMap toCheckSubscriptions,
      s'.central.phase = .subscribing requestMap toCheckSubscriptions ↔
        s.central.phase = .subscribing requestMap toCheckSubscriptions)
    (hsuffix : ∀ i, s'.outstanding D yaml i <:+ s.outstanding D yaml i) : Follows D yaml s' m where
  joined := h.joined.trans hclients.symm
  asked i := hmap ▸ h.asked i
  reported i hi := by
    have hnone := h.reported i hi
    exact List.suffix_nil.mp (hnone ▸ hsuffix i)
  early hearly := h.early fun requestMap toCheckSubscriptions hs =>
    hearly requestMap toCheckSubscriptions ((hphase _ _).mpr hs)
  late requestMap toCheckSubscriptions hs' := by
    have hs := (hphase _ _).mp hs'
    have hconnected : s'.central.connectedClients = s.central.connectedClients := by
      rw [← (Central.subscribing_eq hs').2.1, ← (Central.subscribing_eq hs).2.1, hclients]
    exact hconnected ▸ h.late requestMap toCheckSubscriptions hs

/-- Somebody registers. -/
theorem Follows.join (h : Follows D yaml s m) {i : ι}
    (hearly : ∀ requestMap toCheckSubscriptions,
      s.central.phase ≠ .subscribing requestMap toCheckSubscriptions)
    (hclients : s'.central.clients = s.central.clients ++ [D.routingId i])
    (hmap : s'.central.requestMap = s.central.requestMap)
    (hphase : ∀ requestMap toCheckSubscriptions,
      s'.central.phase ≠ .subscribing requestMap toCheckSubscriptions) :
    Follows D yaml s' { m with joined := m.joined ++ [i] } where
  joined := by rw [List.map_append, h.joined, hclients, List.map_singleton]
  asked j := hmap ▸ h.asked j
  reported j hj := by simp [(h.early hearly).1] at hj
  early _ := h.early hearly
  late requestMap toCheckSubscriptions hs' := absurd hs' (hphase requestMap toCheckSubscriptions)

/-- A request is taken; with the last one the list of the last loop is that of the clients. -/
theorem Follows.ask (h : Follows D yaml s m) {i : ι} {names : List String}
    (hearly : ∀ requestMap toCheckSubscriptions,
      s.central.phase ≠ .subscribing requestMap toCheckSubscriptions)
    (hclients : s'.central.clients = s.central.clients)
    (hmap : s'.central.requestMap = s.central.requestMap.assign (D.routingId i) names)
    (hphase : ∀ requestMap toCheckSubscriptions,
      s'.central.phase = .subscribing requestMap toCheckSubscriptions →
        toCheckSubscriptions = s'.central.connectedClients ∧ toCheckSubscriptions ≠ []) :
    Follows D yaml s' { m with asked := m.asked ++ [i] } where
  joined := h.joined.trans hclients.symm
  asked j := by
    rw [hmap, UnorderedMap.mem_keys_assign, List.mem_append, List.mem_singleton, h.asked,
      D.distinct.eq_iff]
    exact Or.comm
  reported j hj := by simp [(h.early hearly).1] at hj
  early _ := h.early hearly
  late requestMap toCheckSubscriptions hs' := by
    obtain ⟨heq, hne⟩ := hphase requestMap toCheckSubscriptions hs'
    rw [← heq, (h.early hearly).2]
    exact ⟨Nat.le_add_right _ _, ⟨fun hf => absurd hf Bool.false_ne_true, fun hn => absurd hn hne⟩⟩

/-- A report is heard, and a name crossed off for it or not. -/
theorem Follows.report (h : Follows D yaml s m) {i : ι}
    {requestMap : UnorderedMap String (List String)}
    {toCheckSubscriptions toCheckSubscriptions' : List String}
    (hphase : s.central.phase = .subscribing requestMap toCheckSubscriptions)
    (hphase' : s'.central.phase = .subscribing requestMap toCheckSubscriptions')
    (hconnected : s'.central.connectedClients = s.central.connectedClients)
    (hlen : toCheckSubscriptions.length ≤ toCheckSubscriptions'.length + 1)
    (hnone : s'.outstanding D yaml i = [])
    (hsuffix : ∀ i, s'.outstanding D yaml i <:+ s.outstanding D yaml i) :
    Follows D yaml s'
      { m with reported := m.reported ++ [i], released := decide (toCheckSubscriptions' = []) } where
  joined := by
    rw [h.joined, (Central.subscribing_eq hphase).2.1, (Central.subscribing_eq hphase').2.1,
      hconnected]
  asked j := by
    rw [h.asked, (Central.subscribing_eq hphase).2.2, (Central.subscribing_eq hphase').2.2]
  reported j hj := by
    rcases List.mem_append.mp hj with hold | hnew
    · have hold := h.reported j hold
      exact List.suffix_nil.mp (hold ▸ hsuffix j)
    · exact (List.mem_singleton.mp hnew) ▸ hnone
  early hearly := absurd hphase' (hearly _ _)
  late requestMap' toCheckSubscriptions'' hs' := by
    obtain ⟨rfl, rfl⟩ := Phase.subscribing.inj (hphase'.symm.trans hs')
    have hcount := (h.late _ _ hphase).1
    refine ⟨?_, decide_eq_true_iff⟩
    rw [hconnected, List.length_append, List.length_singleton]
    omega

section Step

variable [DecidableEq ι]

/-- Central goes on with the expected clients, no fewer. -/
theorem reachable_expected (hreach : Reachable D order yaml s) :
    s.central.expectedClient = D.expectedClient ∧
      (s.central.registering = false →
        s.central.connectedClients.length = D.expectedClient) := by
  refine central_induction (I := fun c => c.expectedClient = D.expectedClient ∧
    (c.registering = false → c.connectedClients.length = D.expectedClient)) ?_ ?_ hreach
  · unfold Central.init Central.registrationHead
    split
    · exact ⟨rfl, fun h => absurd h (by simp [Central.registering])⟩
    · next hge =>
      refine ⟨rfl, fun _ => ?_⟩
      simp only [List.length_nil] at hge ⊢
      omega
  · intro s i msgState data rest hreach hfault _ ih
    obtain ⟨hexpected, hleft⟩ := ih
    have hc := (reachable_inv hreach).central
    have hmove : Central.Moves order yaml s.central (D.routingId i) msgState data _ _ :=
      Central.onMessage_moves hfault hc.few
    refine ⟨(Central.expectedClient_moves hmove).trans hexpected, fun hreg' => ?_⟩
    cases hreg : s.central.registering with
    | true => exact (Central.connected_of_left hfault hc.few hreg hreg').trans hexpected
    | false => exact (Central.connectedClients_moves hmove hreg).2.symm ▸ hleft hreg

theorem Follows.step_join (h : Follows D yaml s m) {i : ι}
    (hlt : s.central.clients.length < D.expectedClient)
    (hmem : D.routingId i ∉ s.central.clients) :
    Meeting.step D.expectedClient m (.join i) = some { m with joined := m.joined ++ [i] } := by
  rw [Meeting.step, if_pos ⟨h.length_joined ▸ hlt, mt h.mem_joined.mp hmem⟩]

theorem Follows.step_ask (h : Follows D yaml s m) {i : ι}
    (hfull : s.central.clients.length = D.expectedClient)
    (hclient : D.routingId i ∈ s.central.clients)
    (hnew : D.routingId i ∉ s.central.requestMap.keys) :
    Meeting.step D.expectedClient m (.ask i) = some { m with asked := m.asked ++ [i] } := by
  rw [Meeting.step, if_pos ⟨h.length_joined.trans hfull, h.mem_joined.mpr hclient,
    mt (h.asked i).mp hnew⟩]

/-- A Node that has something outstanding has not reported. -/
theorem Follows.step_report (h : Follows D yaml s m) (hinv : Inv D order yaml s) {i : ι}
    {requestMap : UnorderedMap String (List String)} {toCheckSubscriptions : List String}
    (hphase : s.central.phase = .subscribing requestMap toCheckSubscriptions)
    (hclient : D.routingId i ∈ s.central.clients) (hout : s.outstanding D yaml i ≠ []) :
    Meeting.step D.expectedClient m (.report i)
      = some { m with reported := m.reported ++ [i] } := by
  obtain ⟨-, hclients, hmap⟩ := Central.subscribing_eq hphase
  have hall : ∀ j ∈ m.joined, j ∈ m.asked := by
    intro j hj
    rw [h.asked, hmap]
    exact hinv.central.everyone _ _ hphase _ (hclients ▸ h.mem_joined.mp hj)
  rw [Meeting.step, if_pos ⟨hall, h.mem_joined.mpr hclient, fun hi => hout (h.reported i hi)⟩]

/-- In the last loop a client has one message outstanding, and that is its report. -/
theorem reporting (hinv : Inv D order yaml s) (hguarded : Guarded D yaml s) {i : ι}
    {data : String} {rest : List Multipart} {requestMap : UnorderedMap String (List String)}
    {toCheckSubscriptions : List String}
    (hphase : s.central.phase = .subscribing requestMap toCheckSubscriptions)
    (hup : s.up i = syncMSG data :: rest) (hsteps : Steps D order yaml s (.central i) s') :
    s.outstanding D yaml i ≠ [] ∧ s'.outstanding D yaml i = [] := by
  obtain ⟨-, hclients, hmap⟩ := Central.subscribing_eq hphase
  have hclient := hinv.mem_clients_of_state hup rfl
  have hkey := hinv.central.everyone _ _ hphase _ (hclients ▸ hclient)
  have hlen := hguarded.asked i (hmap ▸ hkey)
  rw [outstanding_received hinv hup hsteps, List.length_cons] at hlen
  rw [outstanding_received hinv hup hsteps]
  exact ⟨List.cons_ne_nil _ _, List.length_eq_zero_iff.mp (by omega)⟩

/-- The last report closes the meeting. -/
theorem Follows.step_release {moves : List (Meeting.Move ι)} {i : ι}
    (hm : Meeting.Minutes D.expectedClient moves m) (h : Follows D yaml s m)
    (hreport : Meeting.step D.expectedClient m (.report i)
      = some { m with reported := m.reported ++ [i] })
    (hclient : D.routingId i ∈ s.central.clients) (hopen : m.released = false)
    (hcount : m.joined.length ≤ (m.reported ++ [i]).length) :
    Meeting.step D.expectedClient { m with reported := m.reported ++ [i] } .release
      = some { m with reported := m.reported ++ [i], released := true } := by
  have hall := (hm.step hreport).all_reported hcount
  rw [Meeting.step, if_pos]
  exact ⟨List.ne_nil_of_mem (h.mem_joined.mpr hclient), hall, by simpa using hopen⟩

/-- **One message of the last loop.** -/
theorem Follows.heard {moves : List (Meeting.Move ι)} {i : ι} {msgState data : String}
    {rest : List Multipart} {c : Central} {requestMap : UnorderedMap String (List String)}
    {toCheckSubscriptions toCheckSubscriptions' : List String} (hinv : Inv D order yaml s)
    (hguarded : Guarded D yaml s) (h : Follows D yaml s m)
    (hm : Meeting.Minutes D.expectedClient moves m) (hup : s.up i = [msgState, data] :: rest)
    (hmsgState : msgState = "registration" ∨ msgState = "syncronization")
    (hsteps : Steps D order yaml s (.central i) s') (hcentral : s'.central = c)
    (hphase : s.central.phase = .subscribing requestMap toCheckSubscriptions)
    (hphase' : c.phase = .subscribing requestMap toCheckSubscriptions')
    (hconnected : c.connectedClients = s.central.connectedClients)
    (hlen : toCheckSubscriptions.length ≤ toCheckSubscriptions'.length + 1)
    (hnil : toCheckSubscriptions = [] → toCheckSubscriptions' = [])
    (hsame : msgState = "registration" → toCheckSubscriptions' = toCheckSubscriptions) :
    ∃ m', Run (Meeting.step D.expectedClient) Always m
        (shown D s.central c i [msgState, data]) m' ∧ Follows D yaml s' m' := by
  subst hcentral
  have hsuffix := outstanding_suffix hinv hsteps
  rw [shown_subscribing hphase hphase']
  rcases hmsgState with rfl | rfl
  · -- a registration that comes too late is not taken for a report
    obtain rfl := hsame rfl
    refine ⟨m, ?_, h.congr ?_ ?_ ?_ hsuffix⟩
    · rw [if_neg (by simp [isSync]), if_neg fun h => h.2 h.1]
      exact .nil
    · rw [(Central.subscribing_eq hphase').2.1, (Central.subscribing_eq hphase).2.1, hconnected]
    · rw [(Central.subscribing_eq hphase').2.2, (Central.subscribing_eq hphase).2.2]
    · intro requestMap' toCheckSubscriptions''
      rw [hphase, hphase']
  · obtain ⟨hout, hnone⟩ := reporting hinv hguarded hphase hup hsteps
    have hclient := hinv.mem_clients_of_state hup rfl
    have hreport := h.step_report hinv hphase hclient hout
    have hfollows := h.report hphase hphase' hconnected hlen hnone hsuffix
    have hreleased := (h.late _ _ hphase).2
    refine ⟨_, ?_, hfollows⟩
    rw [if_pos (by simp [isSync])]
    by_cases hlast : toCheckSubscriptions' = [] ∧ toCheckSubscriptions ≠ []
    · -- the last name: everybody has reported
      obtain ⟨rfl, hne⟩ := hlast
      have hcount := (hfollows.late _ _ hphase').1
      rw [List.length_nil, Nat.zero_add, hconnected, ← (Central.subscribing_eq hphase).2.1,
        ← h.length_joined] at hcount
      have hrelease := h.step_release hm hreport hclient
        (by simpa using mt hreleased.mp hne) hcount
      rw [if_pos ⟨rfl, hne⟩]
      exact (Run.one trivial hreport).append (.one trivial hrelease)
    · rw [if_neg hlast, List.append_nil]
      have hsame : decide (toCheckSubscriptions' = []) = m.released := by
        rw [Bool.eq_iff_iff, hreleased, decide_eq_true_iff]
        exact ⟨fun hnil' => by_contra fun hne => hlast ⟨hnil', hne⟩, hnil⟩
      rw [hsame]
      exact .one trivial hreport

section Central

variable {i : ι} {msgState data : String} {rest : List Multipart} {c : Central}
  {moves : List (Meeting.Move ι)}

/-- A message that changes neither the clients, nor the requests, nor the list of the last
loop. -/
theorem Follows.quiet (h : Follows D yaml s m) (hcentral : s'.central = c)
    (hsuffix : ∀ i, s'.outstanding D yaml i <:+ s.outstanding D yaml i)
    (hlast : ∀ requestMap toCheckSubscriptions,
      s.central.phase ≠ .subscribing requestMap toCheckSubscriptions)
    (hclients : c.clients = s.central.clients) (hmap : c.requestMap = s.central.requestMap)
    (hphase : c.phase = s.central.phase) :
    ∃ m', Run (Meeting.step D.expectedClient) Always m
        (shown D s.central c i [msgState, data]) m' ∧ Follows D yaml s' m' := by
  refine ⟨m, ?_, h.congr (hcentral ▸ hclients) (hcentral ▸ hmap) ?_ hsuffix⟩
  · rw [shown_quiet hlast hclients hmap]
    exact .nil
  · intro requestMap toCheckSubscriptions
    rw [hcentral, hphase]

/-- A message that registers its sender. -/
theorem Follows.joins (hinv : Inv D order yaml s)
    (hexpected : s.central.expectedClient = D.expectedClient) (h : Follows D yaml s m)
    (hcentral : s'.central = c) {clients : List String}
    (hphase : s.central.phase = .registering clients) (hmem : D.routingId i ∉ clients)
    (hclients' : c.clients = clients ++ [D.routingId i])
    (hmap : c.requestMap = UnorderedMap.empty)
    (hlast : ∀ requestMap toCheckSubscriptions,
      c.phase ≠ .subscribing requestMap toCheckSubscriptions) :
    ∃ m', Run (Meeting.step D.expectedClient) Always m
        (shown D s.central c i [msgState, data]) m' ∧ Follows D yaml s' m' := by
  have hclients := Central.clients_registering hphase
  have hfew := hinv.central.few clients hphase
  refine ⟨_, ?_, h.join (by simp [hphase]) (by rw [hcentral, hclients', hclients]) ?_
    (hcentral ▸ hlast)⟩
  · rw [shown_join hphase hmem (by simp [hclients'])]
    exact .one trivial (h.step_join (by rw [hclients, ← hexpected]; exact hfew)
      (by rw [hclients]; exact hmem))
  · rw [hcentral, hmap, Central.requestMap, hphase]

/-- A message that is taken for a request. -/
theorem Follows.asks (hinv : Inv D order yaml s)
    (hleft : s.central.registering = false →
      s.central.connectedClients.length = D.expectedClient)
    (h : Follows D yaml s m) (hup : s.up i = [msgState, data] :: rest)
    (hcentral : s'.central = c) {requestMap : UnorderedMap String (List String)}
    {names : List String} (hphase : s.central.phase = .collecting requestMap)
    (hstate : msgState = s.central.state.toString) (hnew : D.routingId i ∉ requestMap.keys)
    (hclients' : c.clients = s.central.connectedClients)
    (hmap' : c.requestMap = requestMap.assign (D.routingId i) names)
    (hlast : ∀ requestMap toCheckSubscriptions,
      c.phase = .subscribing requestMap toCheckSubscriptions →
        toCheckSubscriptions = c.connectedClients ∧
        toCheckSubscriptions = s.central.connectedClients) :
    ∃ m', Run (Meeting.step D.expectedClient) Always m
        (shown D s.central c i [msgState, data]) m' ∧ Follows D yaml s' m' := by
  obtain ⟨hreg, hclients, hmap⟩ := Central.collecting_eq hphase
  have hclient := hinv.mem_clients_of_state hup (hstate.trans (hinv.central.toString_later hreg))
  have hassign : s'.central.requestMap = s.central.requestMap.assign (D.routingId i) names := by
    rw [hcentral, hmap', hmap]
  have hmem' : D.routingId i ∈ c.requestMap.keys := by
    rw [hmap']
    exact UnorderedMap.mem_keys_assign.mpr (.inl rfl)
  refine ⟨_, ?_, h.ask (by simp [hphase]) (by rw [hcentral, hclients', hclients]) hassign ?_⟩
  · rw [shown_ask hphase hnew hmem']
    exact .one trivial (h.step_ask (by rw [hclients]; exact hleft hreg) hclient
      (by rw [hmap]; exact hnew))
  · intro requestMap' toCheckSubscriptions hphase'
    rw [hcentral] at hphase' ⊢
    obtain ⟨heq, heq'⟩ := hlast _ _ hphase'
    exact ⟨heq, heq' ▸ List.ne_nil_of_mem (hclients ▸ hclient)⟩

/-- **One message of Central's**, in whichever loop. -/
theorem Follows.central {sent : List Multipart} (hinv : Inv D order yaml s)
    (hguarded : Guarded D yaml s) (hexpected : s.central.expectedClient = D.expectedClient)
    (hleft : s.central.registering = false →
      s.central.connectedClients.length = D.expectedClient)
    (h : Follows D yaml s m) (hm : Meeting.Minutes D.expectedClient moves m)
    (hup : s.up i = [msgState, data] :: rest)
    (hmsgState : msgState = "registration" ∨ msgState = "syncronization")
    (hmove : Central.Moves order yaml s.central (D.routingId i) msgState data c sent)
    (hsteps : Steps D order yaml s (.central i) s') (hcentral : s'.central = c) :
    ∃ m', Run (Meeting.step D.expectedClient) Always m
        (shown D s.central c i [msgState, data]) m' ∧ Follows D yaml s' m' := by
  have hsuffix := outstanding_suffix hinv hsteps
  cases hmove with
  | confirm clients hphase hmem =>
    exact h.quiet hcentral hsuffix (by simp [hphase]) rfl rfl rfl
  | redirect clients hphase hmem hstate =>
    exact h.quiet hcentral hsuffix (by simp [hphase]) rfl rfl rfl
  | register clients db hphase hmem hdb hlt =>
    exact h.joins hinv hexpected hcentral hphase hmem rfl rfl (by simp)
  | registerLast clients db hphase hmem hdb =>
    exact h.joins hinv hexpected hcentral hphase hmem rfl rfl (by simp)
  | discard requestMap hphase hdiscard =>
    exact h.quiet hcentral hsuffix (by simp [hphase]) rfl rfl rfl
  | take requestMap names hphase hstate hnew hnames hsize =>
    exact h.asks hinv hleft hup hcentral hphase hstate hnew rfl rfl (by simp)
  | takeLast requestMap names hphase hstate hnew hnames hsize =>
    refine h.asks hinv hleft hup hcentral hphase hstate hnew rfl rfl ?_
    intro requestMap' toCheckSubscriptions hphase'
    obtain ⟨-, rfl⟩ := Phase.subscribing.inj hphase'
    exact ⟨rfl, rfl⟩
  | hear requestMap toCheckSubscriptions hphase hstate hany =>
    obtain ⟨name, hname, heq⟩ := List.any_eq_true.mp hany
    have hlen := List.length_eraseP_of_mem hname heq
    have hpos := List.length_pos_of_mem hname
    refine h.heard hinv hguarded hm hup hmsgState hsteps hcentral hphase rfl rfl (by omega) ?_ ?_
    · intro hnil
      simp [hnil] at hname
    · rintro rfl
      exact absurd hstate (by decide)
  | unheard requestMap toCheckSubscriptions hphase =>
    exact h.heard hinv hguarded hm hup hmsgState hsteps hcentral hphase hphase rfl (Nat.le_succ _)
      id fun _ => rfl
  | crash fault =>
    by_cases hlast : ∀ requestMap toCheckSubscriptions,
        s.central.phase ≠ .subscribing requestMap toCheckSubscriptions
    · exact h.quiet hcentral hsuffix hlast rfl rfl rfl
    · simp only [ne_eq, not_forall, not_not] at hlast
      obtain ⟨requestMap, toCheckSubscriptions, hphase⟩ := hlast
      exact h.heard hinv hguarded hm hup hmsgState hsteps hcentral hphase hphase rfl
        (Nat.le_succ _) id fun _ => rfl

end Central

/-- **The system holds a meeting.** -/
theorem holdsMeeting : Simulation (step D order yaml) Always (init D)
    (Meeting.step D.expectedClient) Always Meeting.start (visible D order yaml)
    (Follows D yaml) where
  init := follows_init
  matched := by
    intro es s ds m e s' hrun hrun' hfollows _ hstep
    have hinv := reachable_inv hrun.reachable
    have hminutes := Meeting.minutes hrun'
    have hsteps := step_steps hinv hstep
    have hsuffix := outstanding_suffix hinv hsteps
    cases e with
    | act i action =>
      obtain ⟨_, -, rfl⟩ := Option.map_eq_some_iff.mp hstep
      exact ⟨m, .nil, hfollows.congr rfl rfl (fun _ _ => Iff.rfl) hsuffix⟩
    | deliver i =>
      obtain ⟨msg, rest, st, sent, -, -, rfl⟩ := step_deliver_iff.mp hstep
      exact ⟨m, .nil, hfollows.congr rfl rfl (fun _ _ => Iff.rfl) hsuffix⟩
    | central i =>
      obtain ⟨hexpected, hleft⟩ := reachable_expected hrun.reachable
      have hguarded := reachable_guarded hrun.reachable
      obtain ⟨msg, rest, hup, hfault, rfl⟩ := central_of_step hstep
      obtain ⟨msgState, data, rfl, hmsgState⟩ := hinv.up_frames (show msg ∈ s.up i by simp [hup])
      have hmove : Central.Moves order yaml s.central (D.routingId i) msgState data _ _ :=
        Central.onMessage_moves hfault hinv.central.few
      rw [visible, hup]
      exact hfollows.central hinv hguarded hexpected hleft hminutes hup hmsgState hmove hsteps rfl

/-- **The minutes of a run.** In every interleaving and with any timeouts, what shows of a run
is a run of the meeting: first the expected Nodes register, then each of them asks once, then
each of them reports once, having subscribed, and then they are released; no stage begins before
the one before it is complete. -/
theorem meeting_of_run {es : List (Event ι)}
    (hrun : Run (step D order yaml) Always (init D) es s) :
    ∃ m, Run (Meeting.step D.expectedClient) Always Meeting.start
        (outputs (step D order yaml) (visible D order yaml) (init D) es) m ∧
      Meeting.Minutes D.expectedClient
        (outputs (step D order yaml) (visible D order yaml) (init D) es) m ∧
      (∀ i, i ∈ m.joined ↔ D.routingId i ∈ s.central.clients) ∧
      (∀ i, i ∈ m.asked ↔ D.routingId i ∈ s.central.requestMap.keys) ∧
      (∀ i ∈ m.reported, Subscribed (s.node i)) ∧
      (m.released = true ↔ ∃ requestMap, s.central.phase = .subscribing requestMap []) := by
  obtain ⟨m, hrun', hfollows⟩ := holdsMeeting.run hrun
  have hinv := reachable_inv hrun.reachable
  refine ⟨m, hrun', Meeting.minutes hrun', fun i => hfollows.mem_joined, hfollows.asked,
    fun i hi => hinv.subscribed (hfollows.reported i hi), ?_, ?_⟩
  · intro hreleased
    by_contra hnot
    cases hphase : s.central.phase with
    | registering =>
      have hearly := (hfollows.early (by simp [hphase])).2
      exact absurd (hearly.symm.trans hreleased) Bool.false_ne_true
    | collecting =>
      have hearly := (hfollows.early (by simp [hphase])).2
      exact absurd (hearly.symm.trans hreleased) Bool.false_ne_true
    | subscribing requestMap toCheckSubscriptions =>
      have hnil := (hfollows.late _ _ hphase).2.mp hreleased
      exact hnot ⟨requestMap, by rw [hphase, hnil]⟩
  · intro ⟨requestMap, hphase⟩
    exact (hfollows.late _ _ hphase).2.mpr rfl

end Step

/-- Two Nodes register, and one of them asks; the repeated registration does not show. -/
theorem meeting_of_run_sample :
    ∃ s, Run (sampleStep 2) Always (init (sampleDeployment 2))
        [.act false .boot, .central false, .act true .boot, .act true .timeout, .central true,
          .deliver false, .deliver false, .central true, .central false] s ∧
      ∃ m, Run (Meeting.step 2) Always Meeting.start [.join false, .join true, .ask false] m ∧
        Meeting.Minutes 2 [.join false, .join true, .ask false] m ∧
        (∀ i, i ∈ m.joined ↔ (sampleDeployment 2).routingId i ∈ s.central.clients) ∧
        (∀ i, i ∈ m.asked ↔ (sampleDeployment 2).routingId i ∈ s.central.requestMap.keys) ∧
        (∀ i ∈ m.reported, Subscribed (s.node i)) ∧
        (m.released = true ↔ ∃ requestMap, s.central.phase = .subscribing requestMap []) := by
  obtain ⟨s, hrun, -⟩ : ∃ s, Run (sampleStep 2) Always (init (sampleDeployment 2))
      [.act false .boot, .central false, .act true .boot, .act true .timeout, .central true,
        .deliver false, .deliver false, .central true, .central false] s ∧ () = () :=
    Run.of_exec (by decide)
  have hvisible : outputs (sampleStep 2)
      (visible (sampleDeployment 2) (HashOrder.insertion String) sampleYaml)
      (init (sampleDeployment 2))
      [.act false .boot, .central false, .act true .boot, .act true .timeout, .central true,
        .deliver false, .deliver false, .central true, .central false]
      = [.join false, .join true, .ask false] := by decide
  exact ⟨s, hrun, hvisible ▸ meeting_of_run hrun⟩

end System

end ComuFrame
