import ComuFrame.Central.Basic
import ComuFrame.Lib.Run
import ComuFrame.Node.Basic

/-!
# ComuFrame — one Central and its Nodes

The whole system as a labelled step function: every thread of every Node, Central's service
thread, and between each Node and Central two queues that lose nothing and keep their order.
A queue holds what has been sent and not yet been received, so a delay is a step of somebody
else, and a registration timeout may elapse at any time.

What one party sends between two receives enters the queues at once. Central sends a batch
without receiving in between, and how long each message of it stays in its queue is free, so
a Node cannot tell this from messages sent one by one.
-/

namespace ComuFrame

open Cpp Transition

/-- Who takes part. The Nodes are indexed by an arbitrary type, and ROUTER knows each of them
by its routing id: the identity it set, or one the socket made up if that is empty. -/
structure Deployment (ι : Type) where
  expectedClient : Nat
  config : ι → NodeConfig
  routingId : ι → String
  routingId_eq : ∀ i, (config i).identity ≠ "" → routingId i = (config i).identity
  distinct : Function.Injective routingId

structure System (ι : Type) where
  central : Central
  node : ι → NodeState
  /-- From each Node to Central, without the identity ROUTER puts in front. -/
  up : ι → List Multipart
  /-- From Central to each Node, without the identity ROUTER strips. -/
  down : ι → List Multipart

inductive Event (ι : Type) where
  /-- A step of a Node that needs no message from Central. -/
  | act (i : ι) (action : NodeState.Action)
  /-- The service thread of a Node receives the oldest message of its connection. -/
  | deliver (i : ι)
  /-- Central receives the oldest message of a connection. -/
  | central (i : ι)
  deriving DecidableEq

/-- What ROUTER makes of a message: the frames behind the identity go to the peer of that
identity, and a message that is an identity and nothing else is dropped. -/
def routed (identity : String) : Multipart → Option Multipart
  | [] => none
  | [_] => none
  | addressee :: frames => if addressee = identity then some frames else none

namespace System

variable {ι : Type}

def init (D : Deployment ι) : System ι :=
  { central := Central.init D.expectedClient
    node := fun _ => NodeState.init
    up := fun _ => []
    down := fun _ => [] }

variable [DecidableEq ι]

/-- A Node moved on: `st` is its new state, `sent` what it sent to Central. -/
def updateNode (s : System ι) (i : ι) (st : NodeState) (sent : List Multipart) : System ι :=
  { s with node := Function.update s.node i st, up := Function.update s.up i (s.up i ++ sent) }

def step (D : Deployment ι) (order : HashOrder String) (yaml : YamlCpp) (s : System ι) :
    Event ι → Option (System ι)
  | .act i action =>
    ((s.node i).act yaml (D.config i) action).map fun (st, sent) => s.updateNode i st sent
  | .deliver i =>
    match s.down i with
    | [] => none
    | msg :: rest =>
      ((s.node i).receive yaml (D.config i) msg).map fun (st, sent) =>
        { s.updateNode i st sent with down := Function.update s.down i rest }
  | .central i =>
    match s.up i with
    | [] => none
    | msg :: rest =>
      if s.central.fault = none then
        let (central, sent) := s.central.onMessage order yaml (D.routingId i :: msg)
        some { s with
          central
          up := Function.update s.up i rest
          down := fun j => s.down j ++ sent.filterMap (routed (D.routingId j)) }
      else none

/-- The states of all runs from the start. -/
abbrev Reachable (D : Deployment ι) (order : HashOrder String) (yaml : YamlCpp)
    (s : System ι) : Prop :=
  Transition.Reachable (step D order yaml) (init D) s

end System

end ComuFrame
