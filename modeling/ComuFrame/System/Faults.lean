import ComuFrame.Central.Branches
import ComuFrame.Central.Registration
import ComuFrame.System.Registration

/-!
# ComuFrame — Central survives its Nodes

Arbitrary peers can bring Central down, and a Node with a configuration that does not convert
can. Nodes with readable configurations cannot, however their messages are delayed, repeated
or taken for something else: the one text that may turn up in the wrong place is "subscribed",
taken for a request of a Node whose request was lost in the registration loop, and as YAML it
is a scalar, a request for nothing (`fault_eq_none`).
-/

namespace ComuFrame

open Cpp Transition

/-- Central can read what the Node sends: the registration converts, and the request parses back
and converts. -/
structure ReadableConfig (yaml : YamlCpp) (cfg : NodeConfig) : Prop where
  packets : Central.Readable yaml (yaml.emit cfg.sendingPackets)
  request : yaml.ReadsBack cfg.requestedData
  names : ∃ names, Central.requestedNames yaml cfg.requestedData = some names

theorem ReadableConfig.names_ne_none {yaml : YamlCpp} {cfg : NodeConfig}
    (hreadable : ReadableConfig yaml cfg) :
    (yaml.load (yaml.emit cfg.requestedData)).bind (Central.requestedNames yaml) ≠ none := by
  obtain ⟨names, hnames⟩ := hreadable.names
  rw [hreadable.request, Option.bind_some, hnames]
  simp

namespace System

variable {ι : Type} [DecidableEq ι] {D : Deployment ι} {order : HashOrder String}
  {yaml : YamlCpp} {s s' : System ι}

/-- A step that ends Central's thread took something that does not convert for the request of a
Node: a registration that does not convert is one of a configuration that is not readable. -/
theorem fault_of_step (hreadable : ∀ i, ReadableConfig yaml (D.config i)) (hinv : Inv D order yaml s)
    {i : ι} (hstep : step D order yaml s (.central i) = some s')
    (hbad : s'.central.fault ≠ none) :
    ∃ data rest, s.up i = syncMSG data :: rest ∧ s.central.registering = false ∧
      D.routingId i ∉ s.central.requestMap.keys ∧
      (yaml.load data).bind (Central.requestedNames yaml) = none := by
  obtain ⟨msg, rest, hup, hfault, rfl⟩ := central_of_step hstep
  obtain ⟨msgState, data, rfl, hmsgState⟩ := hinv.up_frames (show msg ∈ s.up i by simp [hup])
  obtain ⟨hstate, hthrows⟩ := Central.fault_of_onMessage hfault hinv.central.few hbad
  rcases hthrows with ⟨hreg, hmem, hnone⟩ | ⟨hreg, hnew, hnone⟩
  · rw [hinv.data_eq hup hmem] at hnone
    obtain ⟨db, hdb⟩ := Central.exists_registered_iff.mpr (hreadable i).packets
    exact absurd (hdb.symm.trans hnone) (by simp)
  · have hsync : msgState = "syncronization" := hstate.trans (hinv.central.toString_later hreg)
    exact ⟨data, rest, by rw [hup, hsync]; rfl, hreg, hnew, hnone⟩

/-- **Central survives its Nodes**: with readable configurations its thread is never ended by an
exception, in no interleaving and with whatever timeouts. -/
theorem fault_eq_none (hreadable : ∀ i, ReadableConfig yaml (D.config i))
    (htext : (yaml.load "subscribed").bind (Central.requestedNames yaml) ≠ none)
    (hreach : Reachable D order yaml s) : s.central.fault = none := by
  refine hreach.induction (I := fun s => s.central.fault = none) ?_ ?_
  · unfold init Central.init Central.registrationHead
    split
    · rfl
    · rfl
  · intro s e s' hreach hfault hstep
    have hinv := reachable_inv hreach
    cases e with
    | act i action =>
      obtain ⟨_, -, rfl⟩ := Option.map_eq_some_iff.mp hstep
      exact hfault
    | deliver i =>
      cases step_steps hinv hstep with
      | deliver => exact hfault
    | central i =>
      by_contra hbad
      obtain ⟨data, rest, hup, -, -, hnone⟩ := fault_of_step hreadable hinv hstep hbad
      -- the text is that of a request, or "subscribed"
      rcases hinv.up i (syncMSG data) (by simp [hup]) with h | h | h
      · simp [syncMSG, NodeState.registration] at h
      · obtain rfl : data = yaml.emit (D.config i).requestedData := by
          simpa [NodeState.request, syncMSG] using h
        exact (hreadable i).names_ne_none hnone
      · obtain rfl : data = "subscribed" := by simpa [syncMSG] using h
        exact htext hnone

theorem readable_sample (i : Bool) :
    ReadableConfig sampleYaml ((sampleDeployment 2).config i) where
  packets := by
    refine ⟨samplePackets, _, rfl, rfl, fun entry hentry => ?_⟩
    obtain rfl := List.mem_singleton.mp hentry
    exact ⟨⟨"P", rfl⟩, _, rfl⟩
  request := rfl
  names := ⟨["x_int"], show Central.requestedNames sampleYaml sampleRequest = _ by decide⟩

/-- Even in the run that loses a request. -/
theorem fault_eq_none_sample :
    ∃ s, Reachable (sampleDeployment 2) (HashOrder.insertion String) sampleYaml s ∧
      s.central.registering = false ∧ s.central.fault = none := by
  obtain ⟨s, hrun, hreg⟩ : ∃ s, Run (sampleStep 2) Always (init (sampleDeployment 2))
      [.act false .boot, .act false .timeout, .central false, .central false, .deliver false,
        .deliver false, .central false, .act true .boot, .central true] s ∧
      s.central.registering = false := Run.of_exec (by decide)
  exact ⟨s, hrun.reachable, hreg, fault_eq_none readable_sample (by decide) hrun.reachable⟩

end System

end ComuFrame
