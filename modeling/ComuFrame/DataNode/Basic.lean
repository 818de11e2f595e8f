import ComuFrame.Lib.Subscript

/-!
# ComuFrame — the packet descriptions of one sender (`DataNode.cpp`)

A `DataNode` keeps packets in a vector. `addPacket` takes a packet whose `nameID` is new;
`findPacket` and `findPacketName` search for the first packet that has given data. Both
read the stored maps with `operator[]`, so every method that looks like a query is a state
change here, and returns the object it leaves.

The source writes the loop of the two searches twice. They differ in what they return for
a packet, and with none.
-/

namespace ComuFrame

open Cpp

/-- A packet, and what a search is given. -/
abbrev Packet := UnorderedMap String String

structure DataNode where
  sender : String
  packetTypes : List Packet

namespace DataNode

/-- The constructor. -/
def init (sender : String) : DataNode := { sender, packetTypes := [] }

/-! ## Adding a packet -/

/-- The loop of `addPacket`: whether it returns, and the maps it leaves. Both sides of the
comparison are read with `operator[]`. -/
def nameLoop : Packet → List Packet → Bool × Packet × List Packet
  | packToAdd, [] => (false, packToAdd, [])
  | packToAdd, i :: rest =>
    let (name, i) := i.subscript "nameID"
    let (nameToAdd, packToAdd) := packToAdd.subscript "nameID"
    if name = nameToAdd then (true, packToAdd, i :: rest)
    else
      let (taken, packToAdd, rest) := nameLoop packToAdd rest
      (taken, packToAdd, i :: rest)

def addPacket (s : DataNode) (packToAdd : Packet) : Bool × DataNode :=
  if packToAdd.find? "nameID" = none then (false, s)
  else if s.packetTypes = [] ∨ s.packetTypes.countP (fun i => i.equals packToAdd) = 0 then
    let (taken, packToAdd, packetTypes) := nameLoop packToAdd s.packetTypes
    if taken then (false, { s with packetTypes })
    else (true, { s with packetTypes := packetTypes ++ [packToAdd] })
  else (false, s)

/-! ## Searching -/

section Search

variable {α : Type}

/-- The loop of a search over the packets: `answer` is what it returns for a packet that
matches, with the packet it leaves, and `notFound` what it returns otherwise. -/
def searchLoop (answer : Packet → α × Packet) (notFound : α) (dataToFind : List (String × String)) :
    List Packet → α × List Packet
  | [] => (notFound, [])
  | i :: rest =>
    -- the inner loop ends at the first difference, and keeps what it has inserted until then
    let (found, i) := UnorderedMap.readPairs dataToFind i
    if found then
      let (result, i) := answer i
      (result, i :: rest)
    else
      let (result, rest) := searchLoop answer notFound dataToFind rest
      (result, i :: rest)

def search (order : HashOrder String) (answer : Packet → α × Packet) (notFound : α)
    (s : DataNode) (dataToFind : Packet) : α × DataNode :=
  let (result, packetTypes) :=
    searchLoop answer notFound (dataToFind.iterate order) s.packetTypes
  (result, { s with packetTypes })

end Search

/-- Returns a copy of the packet. -/
def findPacket (order : HashOrder String) (s : DataNode) (dataToFind : Packet) :
    Packet × DataNode :=
  search order (fun i => (i, i)) UnorderedMap.empty s dataToFind

def findPacketName (order : HashOrder String) (s : DataNode) (dataToFind : Packet) :
    String × DataNode :=
  search order (fun i => i.subscript "nameID") "" s dataToFind

/-! ## Getters and setter -/

def getSender (s : DataNode) : String := s.sender

def getAllPacket (s : DataNode) : List Packet := s.packetTypes

/-- The loop of `getPacket` runs over copies. -/
def getPacketLoop (packetName : String) : List Packet → Packet
  | [] => UnorderedMap.empty
  | i :: rest =>
    let (name, i) := i.subscript "nameID"
    if name = packetName then i else getPacketLoop packetName rest

def getPacket (s : DataNode) (packetName : String) : Packet :=
  getPacketLoop packetName s.packetTypes

def setSender (s : DataNode) (sender : String) : DataNode := { s with sender }

/-! ## Runs -/

/-- One call on the object. -/
inductive Call where
  | addPacket (packToAdd : Packet)
  | findPacket (dataToFind : Packet)
  | findPacketName (dataToFind : Packet)
  | getPacket (packetName : String)
  | setSender (sender : String)

/-- The object a call leaves. -/
def perform (order : HashOrder String) (s : DataNode) : Call → DataNode
  | .addPacket packToAdd => (s.addPacket packToAdd).2
  | .findPacket dataToFind => (s.findPacket order dataToFind).2
  | .findPacketName dataToFind => (s.findPacketName order dataToFind).2
  | .getPacket _ => s
  | .setSender sender => s.setSender sender

/-- A new object after the calls. -/
def after (order : HashOrder String) (sender : String) (calls : List Call) : DataNode :=
  calls.foldl (perform order) (init sender)

/-- The packet of an `addPacket` that returns true. -/
def acceptedBy (s : DataNode) : Call → List Packet
  | .addPacket packToAdd => if (s.addPacket packToAdd).1 then [packToAdd] else []
  | _ => []

/-- The packets for which `addPacket` returned true, in the order of the calls. -/
def acceptedFrom (order : HashOrder String) : DataNode → List Call → List Packet
  | _, [] => []
  | s, call :: calls => s.acceptedBy call ++ acceptedFrom order (s.perform order call) calls

def accepted (order : HashOrder String) (sender : String) (calls : List Call) : List Packet :=
  acceptedFrom order (init sender) calls

end DataNode

end ComuFrame
