import ComuFrame.DataBase.Provide
import ComuFrame.Fsm
import ComuFrame.Lib.Text
import ComuFrame.Multipart

/-!
# ComuFrame — Central's service thread (`Central.cpp`)

`Central::initServiceThread` is three loops around one ROUTER socket: `registerClient`, the
collection of the data requests, and the subscription barrier. Between them it broadcasts
its new state and sends every client the packets it needs. The thread only blocks in
`recv`, so the model is a function on whole messages: `Central.onMessage` is what the thread
does from the receipt of one message to the next `recv`, with the messages it sends on the
way, in order, each led by the identity it is addressed to.

Timeouts of Central's polls only print, and the socket to Central's main thread carries
nothing that the service thread reads; both are left out.
-/

namespace ComuFrame

open Cpp

/-- One round of the reply loop: what it computed, on which database, and for whom. -/
structure Reply where
  client : String
  request : List String
  db : DataBase
  packetNeeded : List String

/-- The message of one round: its frames are the packets, and nothing else. -/
def Reply.message (reply : Reply) : Multipart := reply.client :: reply.packetNeeded

/-- Where the service thread waits for its next message. -/
inductive Phase where
  /-- In `registerClient`. -/
  | registering (clients : List String)
  /-- In the loop that fills `requestMap`. -/
  | collecting (requestMap : UnorderedMap String (List String))
  /-- In the last loop. -/
  | subscribing (requestMap : UnorderedMap String (List String))
      (toCheckSubscriptions : List String)

/-- The thread's variables. `replies` is the record that the reply loop prints, and `fault`
says how the thread came to an end, if it did. -/
structure Central where
  state : Fsm
  expectedClient : Nat
  connectedClients : List String
  db : DataBase
  replies : List Reply
  phase : Phase
  fault : Option Fault

namespace Central

/-! ## Registration -/

/-- The loop over the packets of a registration. -/
def addPackets (order : HashOrder String) (yaml : YamlCpp) (sender : String) :
    DataBase → List (Yaml × Yaml) → Option DataBase
  | db, [] => some db
  | db, (key, YPack) :: rest => do
    let name ← yaml.asString key
    let db ← db.addPacket order yaml YPack sender name
    addPackets order yaml sender db rest

/-- One round of the loop of `registerClient`: the client list, the database and the reply.
The sender is pushed first and taken back in the two branches that do not register it. -/
def registerRound (order : HashOrder String) (yaml : YamlCpp) (state : Fsm) (db : DataBase)
    (clients : List String) (registrationMSG : Multipart) :
    Except Fault (List String × DataBase × Multipart) := do
  let (sender, registrationMSG) ← registrationMSG.popstr
  let clients := clients ++ [sender]
  if clients.count sender > 1 then
    -- already registered: whatever the message is, it is answered and dropped
    .ok (clients.dropLast, db, [sender, "connected"])
  else
    let (msgState, registrationMSG) ← registrationMSG.popstr
    if msgState = state.toString then
      let (packets, _) ← registrationMSG.popstr
      let YData ← orThrow (yaml.load packets)
      let entries ← orThrow (yaml.pairs YData)
      let db ← orThrow (addPackets order yaml sender db entries)
      .ok (clients, db, [sender, "connected"])
    else
      -- sent in another state: told Central's, and not registered
      .ok (clients.dropLast, db, [sender, state.toString])

/-- `sendStrMSG(msg, addressee)`. -/
def strMSG (state : Fsm) (msg addressee : String) : Multipart :=
  [addressee, state.toString, msg]

/-- The head of the loop of `registerClient`. Once the expected clients are there the thread
leaves it, moves its state on and broadcasts it. -/
def registrationHead (c : Central) (clients : List String) : Central × List Multipart :=
  if clients.length < c.expectedClient then ({ c with phase := .registering clients }, [])
  else
    let state := c.state.nextState.2
    ({ c with state, connectedClients := clients, phase := .collecting UnorderedMap.empty },
      clients.map fun node => strMSG state state.toString node)

/-! ## Requests -/

/-- The names a request asks for: `field_type` for each of its entries. -/
def requestedNames (yaml : YamlCpp) (YDataRequested : Yaml) : Option (List String) := do
  let entries ← yaml.pairs YDataRequested
  entries.mapM fun entry => do
    let field ← yaml.asString entry.1
    let type ← yaml.asString entry.2
    some (joined field type)

/-- One round of the request loop; `none` when the message is discarded. -/
def requestRound (yaml : YamlCpp) (state : Fsm)
    (requestMap : UnorderedMap String (List String)) (request : Multipart) :
    Except Fault (Option (UnorderedMap String (List String))) := do
  let (nodeName, request) ← request.popstr
  let (msgState, request) ← request.popstr
  if msgState = state.toString ∧ requestMap.find? nodeName = none then
    let (text, _) ← request.popstr
    let YDataRequested ← orThrow (yaml.load text)
    let dataRequested ← orThrow (requestedNames yaml YDataRequested)
    .ok (some (requestMap.assign nodeName dataRequested))
  else
    -- the discarded message is printed, which pops a frame
    let (_, _) ← request.popstr
    .ok none

/-- The loop `for (auto& request : requestMap)`. -/
def replyLoop (order : HashOrder String) :
    DataBase → List (String × List String) → DataBase × List Reply
  | db, [] => (db, [])
  | db, (client, request) :: rest =>
    -- the next request finds the flags as this one leaves them
    let (packetNeeded, db') := db.providePackets order request
    let (dbEnd, replies) := replyLoop order db' rest
    (dbEnd, { client, request, db, packetNeeded } :: replies)

/-- The way out of the request loop: answer everybody, then wait for the subscriptions. -/
def answerRequests (order : HashOrder String) (c : Central)
    (requestMap : UnorderedMap String (List String)) : Central × List Multipart :=
  let (db, replies) := replyLoop order c.db (requestMap.iterate order)
  ({ c with db, replies, phase := .subscribing requestMap c.connectedClients },
    replies.map Reply.message)

/-! ## The subscription barrier -/

/-- One round of the last loop: the waiting list and the messages sent. -/
def subscriptionRound (state : Fsm) (connectedClients toCheckSubscriptions : List String)
    (msg : Multipart) : Except Fault (List String × List Multipart) := do
  let (sender, msg) ← msg.popstr
  let (msgState, msg) ← msg.popstr
  -- the data of the message is printed and not looked at
  let (_, _) ← msg.popstr
  if strcmpEq msgState "syncronization" then
    if toCheckSubscriptions.any (strcmpEq sender) then
      let toCheckSubscriptions := toCheckSubscriptions.eraseP (strcmpEq sender)
      -- the broadcast is made where the list becomes empty, and nowhere else
      .ok (toCheckSubscriptions,
        if toCheckSubscriptions.length = 0
          then connectedClients.map (strMSG state "AllSubscribed") else [])
    else .ok (toCheckSubscriptions, [])
  else .ok (toCheckSubscriptions, [])

/-! ## The thread -/

/-- What the thread does with one message, up to its next `recv`. -/
def onMessage (order : HashOrder String) (yaml : YamlCpp) (c : Central) (msg : Multipart) :
    Central × List Multipart :=
  match c.fault, c.phase with
  -- the thread is gone
  | some _, _ => (c, [])
  | none, .registering clients =>
    match registerRound order yaml c.state c.db clients msg with
    | .error fault => ({ c with fault := some fault }, [])
    | .ok (clients, db, reply) =>
      let (c, broadcast) := registrationHead { c with db } clients
      (c, reply :: broadcast)
  | none, .collecting requestMap =>
    match requestRound yaml c.state requestMap msg with
    | .error fault => ({ c with fault := some fault }, [])
    | .ok none => (c, [])
    | .ok (some requestMap) =>
      if requestMap.size = c.connectedClients.length then answerRequests order c requestMap
      else ({ c with phase := .collecting requestMap }, [])
  | none, .subscribing requestMap toCheckSubscriptions =>
    match subscriptionRound c.state c.connectedClients toCheckSubscriptions msg with
    | .error fault => ({ c with fault := some fault }, [])
    | .ok (toCheckSubscriptions, sent) =>
      ({ c with phase := .subscribing requestMap toCheckSubscriptions }, sent)

/-- The thread at its first `recv`. -/
def init (expectedClient : Nat) : Central :=
  (registrationHead
    { state := Fsm.init, expectedClient, connectedClients := [], db := DataBase.empty,
      replies := [], phase := .registering [], fault := none } []).1

/-- The messages `msgs`, one after the other. -/
def run (order : HashOrder String) (yaml : YamlCpp) (c : Central) (msgs : List Multipart) :
    Central :=
  msgs.foldl (fun c msg => (c.onMessage order yaml msg).1) c

/-- Central's list of registered clients. -/
def clients (c : Central) : List String :=
  match c.phase with
  | .registering clients => clients
  | .collecting _ => c.connectedClients
  | .subscribing _ _ => c.connectedClients

end Central

end ComuFrame
