import ComuFrame.System.Barrier

/-!
# ComuFrame — what becomes of the data requests

A Node sends its request once. In the request loop Central takes it, and nothing else of
that Node, for its request: it is the first message in `Syncronization` the Node sends. But
a Node whose registration was confirmed twice reads the second "connected" as the new state
of Central, and its request may then arrive while Central still registers other clients. The
registration loop answers it with one more "connected" and drops it, and the request loop
takes the Node's "subscribed" in its place (`not_requestsKept`).

`NotSwallowed` says that this does not happen to a Node in a step, and in runs with it
requests are kept (`Kept`): what is in `requestMap` is what each Node asks for, and every
request that Central has taken is the one it has entered there
(`requestsKept_of_notSwallowed`).
-/

namespace ComuFrame

open Cpp Transition

namespace System

variable {ι : Type} {D : Deployment ι} {order : HashOrder String} {yaml : YamlCpp}
  {s s' : System ι}

/-! ## One Node's request -/

/-- While it is not in `requestMap` the request of the Node is still to be received, and what
is in `requestMap` for the Node is what it asks for. -/
structure Kept (D : Deployment ι) (yaml : YamlCpp) (i : ι) (s : System ι) : Prop where
  full : s.central.fault = none → D.routingId i ∉ s.central.requestMap.keys →
    s.outstanding D yaml i = [NodeState.request yaml (D.config i), syncMSG "subscribed"]
  own : ∀ names, s.central.requestMap.find? (D.routingId i) = some names →
    Central.requestedNames yaml (D.config i).requestedData = some names

theorem kept_init (D : Deployment ι) (yaml : YamlCpp) (i : ι) : Kept D yaml i (init D) where
  full _ _ := rfl
  own names h := by simp [init] at h

/-- Central's step on another Node, or one that takes nothing of this one. -/
theorem Kept.mono {i : ι} (hkept : Kept D yaml i s)
    (hfault : s'.central.fault = none → s.central.fault = none)
    (hfind : s'.central.requestMap.find? (D.routingId i)
      = s.central.requestMap.find? (D.routingId i))
    (hout : s'.central.fault = none → D.routingId i ∉ s.central.requestMap.keys →
      s'.outstanding D yaml i = s.outstanding D yaml i) :
    Kept D yaml i s' where
  full hnone hnew := by
    rw [← UnorderedMap.find?_eq_none, hfind, UnorderedMap.find?_eq_none] at hnew
    rw [hout hnone hnew]
    exact hkept.full (hfault hnone) hnew
  own names h := hkept.own names (hfind ▸ h)

section Step

variable [DecidableEq ι]

/-- The registration loop takes no message in `Syncronization` from Node `i`. -/
def NotSwallowed (i : ι) (s : System ι) (e : Event ι) : Prop :=
  s.central.registering = true → s.taken i e = []

instance (i : ι) (s : System ι) (e : Event ι) : Decidable (NotSwallowed i s e) :=
  inferInstanceAs (Decidable (_ → _))

/-- A request of the Node that Central has taken is the Node's own. -/
theorem Kept.names_eq {i : ι} (hreads : yaml.ReadsBack (D.config i).requestedData)
    (hinv : Inv D order yaml s) (hkept : Kept D yaml i s) (hfault : s.central.fault = none)
    {data : String} {names : List String} {rest : List Multipart}
    (hup : s.up i = syncMSG data :: rest) (hsteps : Steps D order yaml s (.central i) s')
    (hnew : D.routingId i ∉ s.central.requestMap.keys)
    (hnames : (yaml.load data).bind (Central.requestedNames yaml) = some names) :
    Central.requestedNames yaml (D.config i).requestedData = some names := by
  -- the message is the head of what is outstanding, which is the request
  have hfull := hkept.full hfault hnew
  rw [outstanding_received hinv hup hsteps] at hfull
  obtain rfl : data = yaml.emit (D.config i).requestedData := by
    simpa [NodeState.request, syncMSG] using (List.cons.inj hfull).1
  rw [hreads] at hnames
  exact hnames

theorem Kept.steps {i : ι} (hreads : yaml.ReadsBack (D.config i).requestedData)
    (hinv : Inv D order yaml s) (hkept : Kept D yaml i s) {e : Event ι}
    (hok : NotSwallowed i s e) (hsteps : Steps D order yaml s e s') : Kept D yaml i s' := by
  have hout (htaken : s.taken i e = []) :
      s'.outstanding D yaml i = s.outstanding D yaml i := by
    have h := outstanding_steps hinv hsteps i
    rw [htaken, List.nil_append] at h
    exact h.symm
  cases hsteps with
  | act => exact hkept.mono id rfl fun _ _ => hout rfl
  | deliver => exact hkept.mono id rfl fun _ _ => hout rfl
  | central j msgState data rest c sent hfault hup hmsgState hmove =>
    have hcentral : Steps D order yaml s (.central j) _ :=
      .central j msgState data rest c sent hfault hup hmsgState hmove
    rcases Central.requestMap_moves hmove with hmap | ⟨names, hstate, hreg, hnew, hnames, hmap⟩
    · refine hkept.mono (fun _ => hfault) (by rw [hmap]) fun hnone hnew => hout ?_
      by_cases hj : i = j
      · subst hj
        by_cases hreg : s.central.registering = true
        · exact hok hreg
        · -- past the registration loop a message in `Syncronization` would have been taken
          by_contra htaken
          have hsync : msgState = "syncronization" := by
            refine hmsgState.resolve_left fun hregistration => htaken ?_
            simp [taken, hup, isSync, hregistration]
          refine hnew (hmap ▸ Central.takes_moves hinv.central hmove (by simpa using hreg)
            (hinv.mem_clients_of_state hup hsync) hnew hsync hnone)
      · simp [taken, hj]
    · obtain rfl : msgState = "syncronization" := hstate.trans (hinv.central.toString_later hreg)
      by_cases hj : i = j
      · subst hj
        -- the Node's own request goes in
        refine ⟨fun _ h => absurd (by rw [hmap]; simp) h, fun names' h => ?_⟩
        have hown := hkept.names_eq hreads hinv hfault hup hcentral hnew hnames
        rw [hmap, UnorderedMap.find?_assign, if_pos rfl] at h
        exact Option.some.inj h ▸ hown
      · -- somebody else's, under another key
        have hne : D.routingId i ≠ D.routingId j := fun h => hj (D.distinct h)
        refine hkept.mono (fun _ => hfault) ?_ fun _ _ => hout (by simp [taken, hj])
        rw [hmap, UnorderedMap.find?_assign, if_neg (by simpa using hne)]

theorem kept_of_notSwallowed {i : ι} (hreads : yaml.ReadsBack (D.config i).requestedData)
    {es : List (Event ι)} (hrun : Run (step D order yaml) (NotSwallowed i) (init D) es s) :
    Kept D yaml i s := by
  refine hrun.induction (kept_init D yaml i) ?_
  intro es s e s' hrun hkept hok hstep
  have hinv := reachable_inv hrun.reachable
  exact hkept.steps hreads hinv hok (step_steps hinv hstep)

/-! ## The request on its way -/

/-- Central's step takes the request of Node `i`, the first of its two messages in
`Syncronization`. -/
def TakesRequest (D : Deployment ι) (yaml : YamlCpp) (i : ι) (s : System ι) (e : Event ι) :
    Prop :=
  s.taken i e = [NodeState.request yaml (D.config i)] ∧ (s.outstanding D yaml i).length = 2

/-- In the step from `s` to `s'` what Node `i` asks for is entered in `requestMap`, which had
nothing for the Node before. -/
def Enters (D : Deployment ι) (yaml : YamlCpp) (i : ι) (s s' : System ι) : Prop :=
  D.routingId i ∉ s.central.requestMap.keys ∧
  ∃ names, s'.central.requestMap.find? (D.routingId i) = some names ∧
    Central.requestedNames yaml (D.config i).requestedData = some names

/-- Whose request is still to come has none in `requestMap`. -/
theorem TakesRequest.new {i : ι} {e : Event ι} (hguarded : Guarded D yaml s)
    (htakes : TakesRequest D yaml i s e) : D.routingId i ∉ s.central.requestMap.keys := by
  intro hkey
  have hlen := hguarded.asked i hkey
  rw [htakes.2] at hlen
  omega

/-- No request is left to the last loop. -/
theorem TakesRequest.not_subscribing {i : ι} {e : Event ι} (hinv : Inv D order yaml s)
    (hguarded : Guarded D yaml s) (htakes : TakesRequest D yaml i s e)
    {requestMap : UnorderedMap String (List String)} {toCheckSubscriptions : List String}
    (hphase : s.central.phase = .subscribing requestMap toCheckSubscriptions) : False := by
  obtain ⟨-, hclients, hmap⟩ := Central.subscribing_eq hphase
  obtain ⟨-, hup, hsync⟩ := mem_taken (htakes.1 ▸ List.mem_singleton_self _)
  have hclient := hinv.mem_clients_of_isSync hup hsync
  have hkey := hinv.central.everyone requestMap toCheckSubscriptions hphase _ (hclients ▸ hclient)
  exact htakes.new hguarded (hmap ▸ hkey)

/-- A request that is taken while requests are kept goes into `requestMap`. -/
theorem TakesRequest.enters {i : ι} {e : Event ι} (hinv : Inv D order yaml s)
    (hguarded : Guarded D yaml s) (hsteps : Steps D order yaml s e s')
    (hkept : Kept D yaml i s') (hfault : s'.central.fault = none)
    (htakes : TakesRequest D yaml i s e) : Enters D yaml i s s' := by
  have hkey : D.routingId i ∈ s'.central.requestMap.keys := by
    -- otherwise both messages would still be outstanding behind the step
    by_contra hnew
    have hlen := congrArg List.length (outstanding_steps hinv hsteps i)
    rw [List.length_append, htakes.1, htakes.2, hkept.full hfault hnew] at hlen
    simp at hlen
  obtain ⟨names, hnames⟩ := UnorderedMap.mem_keys_iff_find?.mp hkey
  exact ⟨htakes.new hguarded, names, hnames, hkept.own names hnames⟩

/-- Central is at work, or was still when it came to its last loop. -/
def ReachesLast (s : System ι) : Prop :=
  s.central.fault = none ∨ ∃ requestMap toCheckSubscriptions,
    s.central.phase = .subscribing requestMap toCheckSubscriptions

theorem reachesLast_steps {e : Event ι} (hsteps : Steps D order yaml s e s')
    (hlast : ReachesLast s') : ReachesLast s := by
  cases hsteps with
  | act => exact hlast
  | deliver => exact hlast
  | central i msgState data rest c sent hfault => exact .inl hfault

/-- One step of a run without swallowed requests. -/
theorem enters_steps {i : ι} {e : Event ι} (hinv : Inv D order yaml s)
    (hguarded : Guarded D yaml s) (hsteps : Steps D order yaml s e s')
    (hkept : Kept D yaml i s') (hlast : ReachesLast s') (htakes : TakesRequest D yaml i s e) :
    Enters D yaml i s s' := by
  have hnone : s'.central.fault = none := by
    refine hlast.elim id ?_
    rintro ⟨requestMap, toCheckSubscriptions, hphase⟩
    cases hsteps with
    | act => simp [TakesRequest, taken] at htakes
    | deliver => simp [TakesRequest, taken] at htakes
    | central j msgState data rest c sent hfault hup hmsgState hmove =>
      refine (Central.fault_of_subscribing hfault hmove hphase).resolve_right fun hbefore => ?_
      exact htakes.not_subscribing hinv hguarded hbefore
  exact htakes.enters hinv hguarded hsteps hkept hnone

/-! ## All requests -/

/-- Once Central has left the request loop `requestMap` has for every client the data its Node
asks for, and among the events that led there none took a request without entering it. -/
def RequestsKept (D : Deployment ι) (order : HashOrder String) (yaml : YamlCpp)
    (es : List (Event ι)) (s : System ι) : Prop :=
  ∀ requestMap toCheckSubscriptions,
    s.central.phase = .subscribing requestMap toCheckSubscriptions →
    (∀ i, D.routingId i ∈ s.central.connectedClients →
      ∃ names, requestMap.find? (D.routingId i) = some names ∧
        Central.requestedNames yaml (D.config i).requestedData = some names) ∧
    EachStep (step D order yaml)
      (fun s e s' => ∀ i, TakesRequest D yaml i s e → Enters D yaml i s s') (init D) es

/-- Every request taken on the way was entered. -/
theorem entered_of_notSwallowed (hreads : ∀ i, yaml.ReadsBack (D.config i).requestedData)
    {es : List (Event ι)}
    (hrun : Run (step D order yaml) (fun s e => ∀ i, NotSwallowed i s e) (init D) es s)
    (hlast : ReachesLast s) :
    EachStep (step D order yaml)
      (fun s e s' => ∀ i, TakesRequest D yaml i s e → Enters D yaml i s s') (init D) es := by
  induction hrun with
  | nil => trivial
  | snoc hrun hok hstep ih =>
    have hinv := reachable_inv hrun.reachable
    have hsteps := step_steps hinv hstep
    refine (hrun.eachStep_snoc _ hstep).mpr ⟨ih (reachesLast_steps hsteps hlast), fun i => ?_⟩
    have hkept := kept_of_notSwallowed (hreads i) ((hrun.snoc hok hstep).mono fun _ _ h => h i)
    exact enters_steps hinv (reachable_guarded hrun.reachable) hsteps hkept hlast

/-- **No request is lost, replaced or dropped** in a run whose registration loop never takes
one. -/
theorem requestsKept_of_notSwallowed
    (hreads : ∀ i, yaml.ReadsBack (D.config i).requestedData) {es : List (Event ι)}
    (hrun : Run (step D order yaml) (fun s e => ∀ i, NotSwallowed i s e) (init D) es s) :
    RequestsKept D order yaml es s := by
  intro requestMap toCheckSubscriptions hphase
  have hinv := reachable_inv hrun.reachable
  obtain ⟨-, -, hmap⟩ := Central.subscribing_eq hphase
  refine ⟨fun i hmem => ?_, entered_of_notSwallowed hreads hrun (.inr ⟨_, _, hphase⟩)⟩
  have hkey := hinv.central.everyone requestMap toCheckSubscriptions hphase _ hmem
  obtain ⟨names, hnames⟩ := UnorderedMap.mem_keys_iff_find?.mp hkey
  have hkept := kept_of_notSwallowed (hreads i) (hrun.mono fun _ _ hok => hok i)
  exact ⟨names, hnames, hkept.own names (hmap ▸ hnames)⟩

/-- Registered twice, but the repetition arrives after the registration loop. -/
theorem requestsKept_sample :
    ∃ es s, Run (sampleStep 1) (fun s e => ∀ i, NotSwallowed i s e)
        (init (sampleDeployment 1)) es s ∧
      s.central.requestMap.keys = ["A"] ∧
      RequestsKept (sampleDeployment 1) (HashOrder.insertion String) sampleYaml es s := by
  obtain ⟨s, hrun, hkeys⟩ : ∃ s, Run (sampleStep 1) (fun s e => ∀ i, NotSwallowed i s e)
      (init (sampleDeployment 1))
      [.act false .boot, .act false .timeout, .central false, .central false, .deliver false,
        .deliver false, .central false] s ∧
      s.central.requestMap.keys = ["A"] := Run.of_exec (by decide)
  have hreads : ∀ i, sampleYaml.ReadsBack ((sampleDeployment 1).config i).requestedData :=
    fun _ => rfl
  exact ⟨_, s, hrun, hkeys, requestsKept_of_notSwallowed hreads hrun⟩

/-- Two Nodes. The first registers twice before the second does, takes the second "connected"
for the new state and sends its request into the registration loop. -/
theorem not_requestsKept :
    ¬ ∀ (ι : Type) [DecidableEq ι] (D : Deployment ι) (order : HashOrder String)
        (yaml : YamlCpp) (es : List (Event ι)) (s : System ι),
      (∀ i, yaml.ReadsBack (D.config i).requestedData) →
      Run (step D order yaml) Always (init D) es s → RequestsKept D order yaml es s := by
  intro hkept
  obtain ⟨s, hrun, hread⟩ : ∃ s, Run (sampleStep 2) Always (init (sampleDeployment 2))
      [.act false .boot, .act false .timeout, .central false, .central false, .deliver false,
        .deliver false, .central false, .act true .boot, .central true, .deliver false,
        .act false .mainFromService, .act false .subStart, .act false .subTopic,
        .act false .subReport, .act false .mainFromSub, .act false .forward, .central false,
        .deliver true, .deliver true, .central true] s ∧
      (match s.central.phase with
        | .subscribing requestMap _ =>
          some (requestMap.find? "A", s.central.connectedClients)
        | _ => none) = some (some [], ["A", "B"]) := Run.of_exec (by decide)
  split at hread
  · next requestMap toCheckSubscriptions hphase =>
    simp only [Option.some.injEq, Prod.mk.injEq] at hread
    have hcontent := (hkept Bool (sampleDeployment 2) _ sampleYaml _ s (fun _ => rfl) hrun
      requestMap toCheckSubscriptions hphase).1
    obtain ⟨names, hfind, hnames⟩ := hcontent false (by rw [hread.2]; decide)
    -- the "subscribed" taken for a request asks for nothing
    obtain rfl : [] = names := by
      have hempty := hread.1
      rw [show "A" = (sampleDeployment 2).routingId false from rfl, hfind] at hempty
      exact (Option.some.inj hempty).symm
    exact absurd hnames (by decide)
  · simp at hread

end Step

end System

end ComuFrame
