import ComuFrame.Lib.Arrivals
import ComuFrame.System.Alive
import ComuFrame.System.Meeting

/-!
# ComuFrame — whom Central admits

A Node sends its registration as soon as it starts and again whenever its timer elapses, and
Central takes the first one that reaches it. So it is the order in which Central receives, and
not the one in which the Nodes start or send, that decides who is served.

* `first_come_first_served` — in every run the clients are the first `expectedClient` Nodes that
  Central has received anything from, in this order, and nobody else has heard of Central.
-/

namespace ComuFrame

open Arrivals Cpp Transition

/-- Whom Central receives from. -/
def Event.receivedFrom {ι : Type} : Event ι → Option ι
  | .act _ _ => none
  | .deliver _ => none
  | .central i => some i

namespace System

variable {ι : Type} [DecidableEq ι] {D : Deployment ι} {order : HashOrder String}
  {yaml : YamlCpp} {s s' : System ι} {es : List (Event ι)} {i : ι}

/-- The Nodes that Central has received from, each where it comes first, as far as they are
expected. -/
def admitted (D : Deployment ι) (es : List (Event ι)) : List ι :=
  (firsts id (es.filterMap Event.receivedFrom)).take D.expectedClient

omit [DecidableEq ι] in
/-- A registration that converts never ends the thread. -/
theorem fault_of_registering
    (hreadable : Central.Readable yaml (yaml.emit (D.config i).sendingPackets))
    (hinv : Inv D order yaml s) {msgState data : String} {rest : List Multipart}
    (hfault : s.central.fault = none) (hreg : s.central.registering = true)
    (hup : s.up i = [msgState, data] :: rest) :
    (s.central.onMessage order yaml [D.routingId i, msgState, data]).1.fault = none := by
  by_contra hbad
  obtain ⟨-, hthrows⟩ := Central.fault_of_onMessage hfault hinv.central.few hbad
  rcases hthrows with ⟨-, hmem, hnone⟩ | ⟨hleft, -⟩
  · rw [hinv.data_eq hup hmem] at hnone
    obtain ⟨db, hdb⟩ := Central.exists_registered_iff.mpr hreadable
    exact absurd (hdb.symm.trans hnone) (by simp)
  · simp [hreg] at hleft

omit [DecidableEq ι] in
/-- While Central registers, whoever it receives from is a client behind it. -/
theorem clients_of_registering
    (hreadable : Central.Readable yaml (yaml.emit (D.config i).sendingPackets))
    (hinv : Inv D order yaml s) {msgState data : String} {rest : List Multipart}
    (hmsgState : msgState = "registration" ∨ msgState = "syncronization")
    (hfault : s.central.fault = none) (hreg : s.central.registering = true)
    (hup : s.up i = [msgState, data] :: rest) :
    (s.central.onMessage order yaml [D.routingId i, msgState, data]).1.clients
      = if D.routingId i ∈ s.central.clients then s.central.clients
        else s.central.clients ++ [D.routingId i] := by
  have hmove : Central.Moves order yaml s.central (D.routingId i) msgState data _ _ :=
    Central.onMessage_moves hfault hinv.central.few
  have hfault' := fault_of_registering hreadable hinv hfault hreg hup
  have hmem := mem_clients_of_registering hinv hup hmsgState hmove hfault' hreg
  rcases Central.clients_moves hmove with hsame | ⟨hnew, hpush, -⟩
  · rw [hsame] at hmem
    rw [if_pos hmem, hsame]
  · rw [if_neg hnew, hpush]

/-! ## One more event -/

/-- With all places taken nobody else is admitted. -/
theorem admitted_snoc_of_full (hfull : (admitted D es).length = D.expectedClient) (e : Event ι) :
    admitted D (es ++ [e]) = admitted D es := by
  unfold admitted at hfull ⊢
  rw [List.filterMap_append]
  obtain ⟨later, hlater⟩ := firsts_prefix id (es.filterMap Event.receivedFrom)
    ([e].filterMap Event.receivedFrom)
  rw [List.length_take] at hfull
  rw [← hlater, List.take_append_of_le_length (by omega)]

/-- Where places are left, the sender gets one if it has none. -/
theorem admitted_snoc_of_lt (hlt : (admitted D es).length < D.expectedClient) (i : ι) :
    admitted D (es ++ [.central i])
      = if i ∈ admitted D es then admitted D es else admitted D es ++ [i] := by
  unfold admitted at hlt ⊢
  rw [List.length_take] at hlt
  rw [List.filterMap_append, show [Event.central i].filterMap Event.receivedFrom = [i] from rfl,
    firsts_snoc, List.map_id, id_eq, List.take_of_length_le (i := D.expectedClient)
      (l := firsts id (es.filterMap Event.receivedFrom)) (by omega)]
  split
  · exact List.take_of_length_le (by omega)
  · refine List.take_of_length_le ?_
    rw [List.length_append, List.length_singleton]
    omega

/-- Other events do not matter. -/
theorem admitted_snoc_of_none {e : Event ι} (he : e.receivedFrom = none) :
    admitted D (es ++ [e]) = admitted D es := by
  simp [admitted, he]

/-! ## Runs -/

theorem clients_eq_admitted
    (hreadable : ∀ i, Central.Readable yaml (yaml.emit (D.config i).sendingPackets))
    (hrun : Run (step D order yaml) Always (init D) es s) :
    s.central.clients = (admitted D es).map D.routingId := by
  induction hrun with
  | nil => simp [admitted, init]
  | @snoc es s s' e hrun _ hstep ih =>
    have hinv := reachable_inv hrun.reachable
    have hlen := congrArg List.length ih
    rw [List.length_map] at hlen
    cases e with
    | act i action =>
      obtain ⟨moved, -, rfl⟩ := Option.map_eq_some_iff.mp hstep
      rw [admitted_snoc_of_none rfl]
      exact ih
    | deliver i =>
      obtain ⟨msg, rest, st, sent, -, -, rfl⟩ := step_deliver_iff.mp hstep
      rw [admitted_snoc_of_none rfl]
      exact ih
    | central i =>
      obtain ⟨msg, rest, hup, hfault, rfl⟩ := central_of_step hstep
      obtain ⟨msgState, data, rfl, hmsgState⟩ :=
        hinv.up_frames (show msg ∈ s.up i by simp [hup])
      show (s.central.onMessage order yaml _).1.clients = _
      obtain ⟨hexpected, hconnected⟩ := reachable_expected hrun.reachable
      cases hreg : s.central.registering with
      | true =>
        have hlt : s.central.clients.length < D.expectedClient := by
          cases hphase : s.central.phase with
          | registering clients =>
            rw [Central.clients_registering hphase, ← hexpected]
            exact hinv.central.few clients hphase
          | collecting => simp [(Central.collecting_eq hphase).1] at hreg
          | subscribing => simp [(Central.subscribing_eq hphase).1] at hreg
        rw [clients_of_registering (hreadable i) hinv hmsgState hfault hreg hup,
          admitted_snoc_of_lt (by omega), ih, apply_ite (List.map D.routingId), List.map_append]
        simp only [List.mem_map_of_injective D.distinct]
        rfl
      | false =>
        have hmove : Central.Moves order yaml s.central (D.routingId i) msgState data _ _ :=
          Central.onMessage_moves hfault hinv.central.few
        obtain ⟨hreg', hsame⟩ := Central.connectedClients_moves hmove hreg
        rw [Central.clients_of_left hreg', hsame, ← Central.clients_of_left hreg,
          admitted_snoc_of_full (by rw [← hlen, Central.clients_of_left hreg, hconnected hreg])]
        exact ih

/-- **First come, first served.** In every run the clients are the first Nodes that Central has
received from, as many as it expects and in this order. The others are where they were when they
started: still in `Registration`, with nothing received and nothing on its way to them. -/
theorem first_come_first_served
    (hreadable : ∀ i, Central.Readable yaml (yaml.emit (D.config i).sendingPackets))
    (hrun : Run (step D order yaml) Always (init D) es s) :
    s.central.clients = (admitted D es).map D.routingId ∧
    ∀ i, i ∉ admitted D es → (s.node i).state = Fsm.init ∧ s.down i = [] ∧
      (s.node i).subscriptions = [] := by
  have hclients := clients_eq_admitted hreadable hrun
  refine ⟨hclients, fun i hi => ?_⟩
  have hinv := reachable_inv hrun.reachable
  have hstranger : D.routingId i ∉ s.central.clients := by
    rw [hclients, List.mem_map_of_injective D.distinct]
    exact hi
  have hstate : (s.node i).state = Fsm.init :=
    by_contra fun hne => hstranger (hinv.registered i (.inl hne))
  have hdown : s.down i = [] :=
    by_contra fun hne => hstranger (hinv.registered i (.inr hne))
  refine ⟨hstate, hdown, ?_⟩
  have hunfilled : (s.node i).service.filled = false := by
    cases hfilled : (s.node i).service.filled with
    | false => rfl
    | true =>
      rw [(hinv.node i).state_eq (NodeState.registering_eq_false_of_filled hfilled)] at hstate
      exact absurd hstate (by decide)
  rw [(hinv.node i).quiet hunfilled]
  rfl

/-- One client is expected, and the Node that started last is received from first. -/
theorem first_come_first_served_sample :
    ∃ s, Run (sampleStep 1) Always (init (sampleDeployment 1))
        [.act true .boot, .act false .boot, .central false, .central true] s ∧
      s.central.clients = ["A"] ∧ (s.node true).state = Fsm.init ∧ s.down true = [] := by
  obtain ⟨s, hrun, -⟩ : ∃ s, Run (sampleStep 1) Always (init (sampleDeployment 1))
      [.act true .boot, .act false .boot, .central false, .central true] s ∧ () = () :=
    Run.of_exec (by decide)
  have hreadable (i : Bool) := (readable_sample i).packets
  obtain ⟨hclients, hothers⟩ := first_come_first_served (D := sampleDeployment 1) hreadable hrun
  obtain ⟨hstate, hdown, -⟩ := hothers true (by decide)
  exact ⟨s, hrun, hclients, hstate, hdown⟩

end System

end ComuFrame
