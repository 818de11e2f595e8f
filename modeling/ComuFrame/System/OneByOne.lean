import ComuFrame.Lib.Simulation
import ComuFrame.System.Transcript

/-!
# ComuFrame — broadcasts message by message

Central's loops send one message at a time, and the Nodes go on while they run: some have
received their message before others are sent theirs. Here Central's thread holds the `batch`
it still has to send before it receives again, and sending is a step of its own.

* `oneByOne_run_iff` — the runs are those of `System.step`, where a batch enters the queues at
  once: the same events in the same order, the same threads in the same states, and in the
  queues what is there or still in the batch;
* `subscribed_of_received` — so whoever finds "AllSubscribed" in its queue, even before it is
  sent to the others, finds all clients subscribed.
-/

namespace ComuFrame

open Cpp Transition

/-- The system, with what Central has still to send on its way to the next `recv`. -/
structure OneByOne (ι : Type) where
  system : System ι
  batch : List Multipart

inductive SendEvent (ι : Type) where
  | event (e : Event ι)
  /-- Central sends the next message of its batch. -/
  | send
  deriving DecidableEq

/-- The event without the sending. -/
def SendEvent.visible {ι : Type} : SendEvent ι → List (Event ι)
  | .event e => [e]
  | .send => []

namespace OneByOne

variable {ι : Type}

def init (D : Deployment ι) : OneByOne ι := { system := System.init D, batch := [] }

/-- The batch as if it were sent. -/
def flushed (D : Deployment ι) (b : OneByOne ι) : System ι :=
  { b.system with
    down := fun j => b.system.down j ++ b.batch.filterMap (routed (D.routingId j)) }

section Step

variable [DecidableEq ι] (D : Deployment ι) (order : HashOrder String) (yaml : YamlCpp)

/-- Central receives only with everything sent; the threads of the Nodes do not wait for it. -/
def step (b : OneByOne ι) : SendEvent ι → Option (OneByOne ι)
  | .event (.act i action) =>
    (System.step D order yaml b.system (.act i action)).map fun system => { b with system }
  | .event (.deliver i) =>
    (System.step D order yaml b.system (.deliver i)).map fun system => { b with system }
  | .event (.central i) =>
    match b.batch, b.system.up i with
    | [], msg :: rest =>
      if b.system.central.fault = none then
        let (central, sent) := b.system.central.onMessage order yaml (D.routingId i :: msg)
        some {
          system := { b.system with central, up := Function.update b.system.up i rest }
          batch := sent }
      else none
    | _, _ => none
  | .send =>
    match b.batch with
    | [] => none
    | msg :: rest =>
      some {
        system := { b.system with
          down := fun j => b.system.down j ++ [msg].filterMap (routed (D.routingId j)) }
        batch := rest }

variable {D order yaml} {b b' : OneByOne ι}

/-! ## To batches -/

omit [DecidableEq ι] in
/-- Without a batch it is the system that it is. -/
theorem flushed_nil (s : System ι) : flushed D { system := s, batch := [] } = s := by
  simp [flushed]

/-- A step of a Node does not depend on what is behind in its queue. -/
theorem flushed_event {e : Event ι} (hstep : step D order yaml b (.event e) = some b') :
    System.step D order yaml (b.flushed D) e = some (b'.flushed D) := by
  cases e with
  | act i action =>
    obtain ⟨system, hsystem, rfl⟩ := Option.map_eq_some_iff.mp hstep
    obtain ⟨⟨st, sent⟩, hact, rfl⟩ := Option.map_eq_some_iff.mp hsystem
    show ((b.system.node i).act yaml (D.config i) action).map _ = _
    rw [hact]
    rfl
  | deliver i =>
    obtain ⟨system, hsystem, rfl⟩ := Option.map_eq_some_iff.mp hstep
    obtain ⟨msg, rest, st, sent, hdown, hreceive, rfl⟩ := System.step_deliver_iff.mp hsystem
    refine System.step_deliver_iff.mpr
      ⟨msg, rest ++ b.batch.filterMap (routed (D.routingId i)), st, sent, ?_, hreceive, ?_⟩
    · simp [flushed, hdown]
    · simp only [flushed, System.updateNode, System.mk.injEq, true_and]
      funext j
      by_cases hj : j = i
      · subst hj
        simp
      · simp [hj]
  | central i =>
    simp only [step] at hstep
    split at hstep
    · next msg rest hbatch hup =>
      split at hstep
      · next hfault =>
        simp only [Option.some.injEq] at hstep
        subst hstep
        simp [System.step, flushed, hbatch, hup, hfault]
      · simp at hstep
    · simp at hstep

theorem flushed_send (hstep : step D order yaml b .send = some b') :
    b'.flushed D = b.flushed D := by
  simp only [step] at hstep
  split at hstep
  · simp at hstep
  · next msg rest hbatch =>
    simp only [Option.some.injEq] at hstep
    subst hstep
    simp only [flushed, hbatch, System.mk.injEq, true_and]
    funext j
    rw [List.append_assoc, ← List.filterMap_append, List.singleton_append]

theorem simulates : Simulation (step D order yaml) Always (init D) (System.step D order yaml) Always
    (System.init D) (fun _ => SendEvent.visible) fun b s => b.flushed D = s where
  init := flushed_nil _
  matched := by
    rintro es b ds s e b' - - rfl - hstep
    cases e with
    | event e => exact ⟨_, .one trivial (flushed_event hstep), rfl⟩
    | send => exact ⟨_, .nil, flushed_send hstep⟩

/-! ## From batches -/

/-- Sending all that is in the batch. -/
theorem run_send (b : OneByOne ι) :
    Run (step D order yaml) Always b (List.replicate b.batch.length .send)
      { system := b.flushed D, batch := [] } := by
  obtain ⟨system, batch⟩ := b
  induction batch generalizing system with
  | nil =>
    rw [flushed_nil]
    exact .nil
  | cons msg rest ih =>
    have hstep : step D order yaml { system, batch := msg :: rest } .send = some _ := rfl
    have hrest := ih { system with
      down := fun j => system.down j ++ [msg].filterMap (routed (D.routingId j)) }
    rw [← flushed_send hstep]
    exact (Run.one trivial hstep).append hrest

/-- The events that take a step of `System.step` apart. -/
def takenApart (D : Deployment ι) (order : HashOrder String) (yaml : YamlCpp) (s : System ι)
    (e : Event ι) : List (SendEvent ι) :=
  .event e :: List.replicate (System.sentBy D order yaml s e).length .send

omit [DecidableEq ι] in
theorem visible_takenApart (s : System ι) (e : Event ι) :
    (takenApart D order yaml s e).flatMap SendEvent.visible = [e] := by
  rw [takenApart, List.flatMap_cons]
  have hsend (n : ℕ) : (List.replicate n (SendEvent.send : SendEvent ι)).flatMap
      SendEvent.visible = [] := by
    simp [SendEvent.visible]
  rw [hsend]
  rfl

/-- With nothing to be sent, an event is possible that is possible in the system. -/
theorem event_of_step {s s' : System ι} {e : Event ι}
    (hstep : System.step D order yaml s e = some s') :
    ∃ b, step D order yaml { system := s, batch := [] } (.event e) = some b ∧
      b.batch = System.sentBy D order yaml s e := by
  cases e with
  | act i action => exact ⟨_, by simp only [step, hstep]; rfl, rfl⟩
  | deliver i => exact ⟨_, by simp only [step, hstep]; rfl, rfl⟩
  | central i =>
    obtain ⟨msg, rest, hup, hfault, -⟩ := System.central_of_step hstep
    simp only [step, hup, hfault, if_true]
    exact ⟨_, rfl, by simp [System.sentBy, hup]⟩

theorem simulated : Simulation (System.step D order yaml) Always (System.init D) (step D order yaml)
    Always (init D) (takenApart D order yaml) fun s b => b = { system := s, batch := [] } where
  init := rfl
  matched := by
    rintro es s ds b e s' - - rfl - hstep
    obtain ⟨b, hb, hbatch⟩ := event_of_step hstep
    -- what it leads to, everything sent
    have hflushed : b.flushed D = s' := by
      have h := flushed_event hb
      rw [flushed_nil, hstep] at h
      exact (Option.some.inj h).symm
    have hsend : Run (step D order yaml) Always b (List.replicate b.batch.length .send) _ :=
      run_send b
    rw [hbatch, hflushed] at hsend
    exact ⟨_, (Run.one trivial hb).append hsend, rfl⟩

/-- **The barrier, message by message.** A Node that finds "AllSubscribed" in its queue finds
all clients subscribed, also while the broadcast is still under way. -/
theorem subscribed_of_received (hreach : Transition.Reachable (step D order yaml) (init D) b)
    {i : ι} (hdown : syncMSG "AllSubscribed" ∈ b.system.down i) :
    ∀ client ∈ b.system.central.connectedClients, ∃ j, D.routingId j = client ∧
      System.Subscribed (b.system.node j) := by
  obtain ⟨ds, hrun⟩ := hreach
  obtain ⟨_, hrun', rfl⟩ := simulates.run hrun
  have hmem : syncMSG "AllSubscribed" ∈ (b.flushed D).down i := List.mem_append_left _ hdown
  -- flushing moves neither Central nor a Node
  have hall := System.subscribed_of_down hrun'.reachable hmem
  exact hall

end Step

/-- The threads of a Node between its answer and its report. -/
def reporting (i : Bool) : List (SendEvent Bool) :=
  [.mainFromService, .subStart, .subTopic, .subReport, .mainFromSub, .forward].map
    fun action => .event (.act i action)

/-- One of two Nodes is released, and the message to the other is not sent yet. -/
theorem subscribed_of_received_sample :
    ∃ b, Transition.Reachable
        (step (System.sampleDeployment 2) (HashOrder.insertion String) System.sampleYaml)
        (init (System.sampleDeployment 2)) b ∧
      b.batch = [["B", "syncronization", "AllSubscribed"]] ∧
      ∀ client ∈ b.system.central.connectedClients,
        ∃ j, (System.sampleDeployment 2).routingId j = client ∧
          System.Subscribed (b.system.node j) := by
  obtain ⟨b, hrun, hb⟩ : ∃ b, Run
      (step (System.sampleDeployment 2) (HashOrder.insertion String) System.sampleYaml) Always
      (init (System.sampleDeployment 2))
      ([.event (.act false .boot), .event (.central false), .send, .event (.act true .boot),
        .event (.central true), .send, .send, .send, .event (.deliver false),
        .event (.deliver false), .event (.deliver true), .event (.deliver true),
        .event (.central false), .event (.central true), .send, .send, .event (.deliver false),
        .event (.deliver true)] ++ reporting false ++ reporting true ++
        [.event (.central false), .event (.central true), .send]) b ∧
      (b.system.down false, b.batch)
        = ([syncMSG "AllSubscribed"], [["B", "syncronization", "AllSubscribed"]]) :=
    Run.of_exec (by decide)
  obtain ⟨hdown, hbatch⟩ := Prod.mk.inj hb
  exact ⟨b, hrun.reachable, hbatch,
    subscribed_of_received (i := false) hrun.reachable (by simp [hdown])⟩

end OneByOne

end ComuFrame
