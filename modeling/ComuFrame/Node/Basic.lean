import ComuFrame.Fsm
import ComuFrame.Lib.Text
import ComuFrame.Multipart
import ComuFrame.Yaml

/-!
# ComuFrame — a Node and its threads (`Node.cpp`)

A Node runs a service thread, which talks to Central through a DEALER socket, a main thread
and a sub thread; the three exchange messages over in-process PAIR sockets, each a pair of
queues. The pub thread is left out: it binds its socket, where a taken port ends the process,
and waits for a message nobody sends. Every step below is what one thread does from one
blocking call to the next. The steps of the service thread also give the messages it sends
to Central.

A thread that polls two sockets looks at one of them first. That does not order the steps
here: the message of the other party may be still on its way when the poll returns.

The Fsm belongs to the Node, so a message carries the state at the time it is sent,
whichever thread sends it.
-/

namespace ComuFrame

open Cpp

/-- What the configuration file gives a Node. -/
structure NodeConfig where
  identity : String
  sendingPackets : Yaml
  requestedData : Yaml

/-- Where the service thread is. -/
inductive Service where
  /-- Not yet connected. -/
  | boot
  /-- In `receiveStrMsgTimeout`. -/
  | awaitingAck
  /-- In the blocking receive after it. -/
  | awaitingState
  /-- In the receive whose message becomes the subscriptions. -/
  | awaitingPackets
  /-- In the final loop. -/
  | loop
  | stopped (fault : Fault)
  deriving DecidableEq, Repr

/-- Where the main thread is. -/
inductive Main where
  | loop
  | stopped (fault : Fault)
  deriving DecidableEq, Repr

/-- Where the sub thread is. -/
inductive Sub where
  | waiting
  /-- In the subscribe loop, with the topics still to do. -/
  | subscribing (topics : List String)
  /-- Past the loop, its report sent. -/
  | reported
  deriving DecidableEq, Repr

structure NodeState where
  state : Fsm
  subscriptions : List String
  service : Service
  main : Main
  sub : Sub
  /-- What the sub thread has called `setsockopt(ZMQ_SUBSCRIBE, ..)` for, in order. -/
  topics : List String
  serviceToMain : List Multipart
  mainToService : List Multipart
  mainToSub : List Multipart
  subToMain : List Multipart

namespace NodeState

def init : NodeState :=
  { state := Fsm.init, subscriptions := [], service := .boot, main := .loop, sub := .waiting,
    topics := [], serviceToMain := [], mainToService := [], mainToSub := [], subToMain := [] }

/-- The message of `sendStrMSG(sock, msg, ...)`; the thread names are only printed. -/
def strMSG (st : NodeState) (msg : String) : Multipart := [st.state.toString, msg]

/-! ## The service thread -/

/-- Connect and send the registration. -/
def boot (yaml : YamlCpp) (cfg : NodeConfig) (st : NodeState) :
    Option (NodeState × List Multipart) :=
  if st.service = .boot then
    some ({ st with service := .awaitingAck }, [st.strMSG (yaml.emit cfg.sendingPackets)])
  else none

/-- The poll of `receiveStrMsgTimeout` elapses: the registration is sent again. -/
def timeout (yaml : YamlCpp) (cfg : NodeConfig) (st : NodeState) :
    Option (NodeState × List Multipart) :=
  if st.service = .awaitingAck then
    some (st, [st.strMSG (yaml.emit cfg.sendingPackets)])
  else none

/-- The final loop's handling of a message from Central. -/
def loopMessage (st : NodeState) (msg : Multipart) : Except Fault NodeState := do
  let (msgState, msg) ← msg.popstr
  let (data, _) ← msg.popstr
  if strcmpEq msgState "syncronization" then
    if strcmpEq data "AllSubscribed" then
      .ok { st with serviceToMain := st.serviceToMain ++ [st.strMSG "AllSubscribed"] }
    else .ok st
  else .ok st

/-- A message from Central arrives. What it is taken for depends on where the thread is. -/
def receive (yaml : YamlCpp) (cfg : NodeConfig) (st : NodeState) (msg : Multipart) :
    Option (NodeState × List Multipart) :=
  match st.service with
  | .boot => none
  | .awaitingAck =>
    -- any message is an ack; its first frame is popped to be printed
    match msg.popstr with
    | .error fault => some ({ st with service := .stopped fault }, [])
    | .ok _ => some ({ st with state := st.state.nextState.2, service := .awaitingState }, [])
  | .awaitingState =>
    -- received and cleared without a look at it
    some ({ st with service := .awaitingPackets }, [st.strMSG (yaml.emit cfg.requestedData)])
  | .awaitingPackets =>
    -- the loop that pops every frame into `subscriptions`
    some ({ st with
      subscriptions := st.subscriptions ++ msg, service := .loop,
      serviceToMain := st.serviceToMain ++ [st.strMSG "received subscriptions"] }, [])
  | .loop =>
    match st.loopMessage msg with
    | .error fault => some ({ st with service := .stopped fault }, [])
    | .ok st' => some (st', [])
  | .stopped _ => none

/-- The final loop passes a message of the main thread on to Central. -/
def forward (st : NodeState) : Option (NodeState × List Multipart) :=
  match st.service, st.mainToService with
  | .loop, msg :: rest =>
    let st := { st with mainToService := rest }
    -- the text is passed on under the Node's own state
    match (do let (_, msg) ← msg.popstr; let (data, _) ← msg.popstr; .ok data) with
    | .error fault => some ({ st with service := .stopped fault }, [])
    | .ok data => some (st, [st.strMSG data])
  | _, _ => none

/-! ## The main thread -/

/-- A message of the service thread: only "received subscriptions" is passed on. -/
def mainFromService (st : NodeState) : Option NodeState :=
  match st.main, st.serviceToMain with
  | .loop, msg :: rest =>
    let st := { st with serviceToMain := rest }
    match (do let (s, msg) ← msg.popstr; let (data, _) ← msg.popstr; .ok (s, data)) with
    | .error fault => some { st with main := .stopped fault }
    | .ok (msgState, data) =>
      if strcmpEq msgState "syncronization" then
        if strcmpEq data "received subscriptions" then
          some { st with mainToSub := st.mainToSub ++ [st.strMSG "received subscriptions"] }
        else some st
      else some st
  | _, _ => none

/-- A message of the sub thread: only "subscribed" is passed on. -/
def mainFromSub (st : NodeState) : Option NodeState :=
  match st.main, st.subToMain with
  | .loop, msg :: rest =>
    let st := { st with subToMain := rest }
    match (do let (s, msg) ← msg.popstr; let (data, _) ← msg.popstr; .ok (s, data)) with
    | .error fault => some { st with main := .stopped fault }
    | .ok (msgState, data) =>
      if strcmpEq msgState "syncronization" then
        if strcmpEq data "subscribed" then
          some { st with mainToService := st.mainToService ++ [st.strMSG "subscribed"] }
        else some st
      else some st
  | _, _ => none

/-! ## The sub thread -/

/-- The option value of `setsockopt(ZMQ_SUBSCRIBE, "")`: the literal is an array of one `char`,
and the call passes the whole array, so the filter is one NUL byte and not the empty one. -/
def literalTopic : String := "\x00"

/-- The message it waits for arrives: the loop starts, after the filter of the literal. -/
def subStart (st : NodeState) : Option NodeState :=
  match st.sub, st.mainToSub with
  | .waiting, _ :: rest =>
    some { st with
      mainToSub := rest, sub := .subscribing st.subscriptions, topics := [literalTopic] }
  | _, _ => none

/-- One round of the subscribe loop, for `topic`. (The option's value is `&topic`, the bytes of
the string object; the round and its topic are what the model records.) -/
def subTopic (st : NodeState) : Option NodeState :=
  match st.sub with
  | .subscribing (topic :: rest) =>
    some { st with sub := .subscribing rest, topics := st.topics ++ [topic] }
  | _ => none

/-- The loop is over: report it. -/
def subReport (st : NodeState) : Option NodeState :=
  match st.sub with
  | .subscribing [] =>
    some { st with sub := .reported, subToMain := st.subToMain ++ [st.strMSG "subscribed"] }
  | _ => none

/-! ## Steps that need no message from Central -/

inductive Action where
  | boot | timeout | forward | mainFromService | mainFromSub | subStart | subTopic | subReport
  deriving DecidableEq, Repr

def act (yaml : YamlCpp) (cfg : NodeConfig) (st : NodeState) :
    Action → Option (NodeState × List Multipart)
  | .boot => st.boot yaml cfg
  | .timeout => st.timeout yaml cfg
  | .forward => st.forward
  | .mainFromService => st.mainFromService.map fun st => (st, [])
  | .mainFromSub => st.mainFromSub.map fun st => (st, [])
  | .subStart => st.subStart.map fun st => (st, [])
  | .subTopic => st.subTopic.map fun st => (st, [])
  | .subReport => st.subReport.map fun st => (st, [])

end NodeState

end ComuFrame
