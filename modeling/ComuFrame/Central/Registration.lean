import Mathlib.Data.List.Forall2
import ComuFrame.Central.Arrivals

/-!
# ComuFrame — the registration loop, from its first message to its return

`registerClient` takes messages until `expectedClient` identities are registered. This module
runs it on an arbitrary sequence of three-frame messages and says what it returns, what it
adds to the database and what it replies to each message (`Registers`).

* `registerRound_reads` — one round: list, database and reply stay in step;
* `registers_iff` — the whole loop. It does its work exactly when the packets of every
  registration it goes through can be read: `YAML::Load` and the conversions throw, and
  nothing between the loop and the start of the thread catches;
* `run_registerLoop` — the loop is what the service thread does until it collects requests.
-/

namespace ComuFrame

open Cpp Arrivals

namespace Central

/-! ## The loop -/

/-- One message of the loop, the client list behind it and the reply. -/
structure RegisterRound where
  msg : Multipart
  clients : List String
  reply : Multipart

/-- The loop when it returns, or when the messages ran out and it waits for the next. `rest`
is what it has not taken. -/
structure RegisterResult where
  clients : List String
  db : DataBase
  rounds : List RegisterRound
  rest : List Multipart

def registerLoop (order : HashOrder String) (yaml : YamlCpp) (state : Fsm)
    (expectedClient : Nat) :
    List String → DataBase → List Multipart → Except Fault RegisterResult
  | clients, db, [] => .ok ⟨clients, db, [], []⟩
  | clients, db, msg :: msgs =>
    if clients.length < expectedClient then do
      let (clients, db, reply) ← registerRound order yaml state db clients msg
      let result ← registerLoop order yaml state expectedClient clients db msgs
      .ok { result with rounds := ⟨msg, clients, reply⟩ :: result.rounds }
    else .ok ⟨clients, db, [], msg :: msgs⟩

def registerClient (order : HashOrder String) (yaml : YamlCpp) (state : Fsm) (db : DataBase)
    (expectedClient : Nat) (msgs : List Multipart) : Except Fault RegisterResult :=
  registerLoop order yaml state expectedClient [] db msgs

/-! ## What the loop is for -/

/-- The registrations among the messages: the first of each sender. -/
def registrants (msgs : List Message) : List Message := firstNaming "registration" msgs

/-- The packets of these messages and of no others, added one message after the other to an
empty database. -/
def catalogue (order : HashOrder String) (yaml : YamlCpp) (msgs : List Message) :
    Option DataBase :=
  msgs.foldlM (fun db msg => registered order yaml db msg.sender msg.data) DataBase.empty

/-- The one reply of a round goes to the sender of its message, and says "connected" to those
who are registered behind it. -/
def Replied (msg : Message) (round : RegisterRound) : Prop :=
  round.msg = msg.frames ∧ ∃ text, round.reply = [msg.sender, text] ∧
    (text = "connected" ↔ msg.sender ∈ round.clients)

/-- The loop has read `before`, takes `consumed` and leaves `rest`. -/
structure Registers (order : HashOrder String) (yaml : YamlCpp) (expectedClient : Nat)
    (before consumed rest : List Message) (result : RegisterResult) : Prop where
  rest_eq : result.rest = rest.map Message.frames
  /-- It takes a message only while clients are missing, -/
  missing : AtEach (fun past _ => (registrants (before ++ past)).length < expectedClient) consumed
  /-- and returns when none is. Otherwise it waits, with nothing left to take. -/
  full : result.clients.length = expectedClient ∨
    result.clients.length < expectedClient ∧ rest = []
  clients : result.clients = (registrants (before ++ consumed)).map Message.sender
  nodup : result.clients.Nodup
  db : catalogue order yaml (registrants (before ++ consumed)) = some result.db
  replies : List.Forall₂ Replied consumed result.rounds

/-- The text of a registration can be read: it parses, to names with a map of fields each. -/
def Readable (yaml : YamlCpp) (packets : String) : Prop :=
  ∃ YData entries, yaml.load packets = some YData ∧ yaml.pairs YData = some entries ∧
    ∀ entry ∈ entries, (∃ name, yaml.asString entry.1 = some name) ∧
      ∃ packToAdd, yaml.asStringMap entry.2 = some packToAdd

variable {order : HashOrder String} {yaml : YamlCpp} {expectedClient : Nat}

/-! ## Reading packets -/

theorem exists_addPackets_iff {sender : String} {entries : List (Yaml × Yaml)} {db : DataBase} :
    (∃ db', addPackets order yaml sender db entries = some db') ↔
      ∀ entry ∈ entries, (∃ name, yaml.asString entry.1 = some name) ∧
        ∃ packToAdd, yaml.asStringMap entry.2 = some packToAdd := by
  induction entries generalizing db with
  | nil => simp [addPackets]
  | cons entry entries ih =>
    obtain ⟨key, YPack⟩ := entry
    rw [List.forall_mem_cons]
    constructor
    · intro ⟨db', hadd⟩
      obtain ⟨name, hname, hadd⟩ := Option.bind_eq_some_iff.mp hadd
      obtain ⟨db₁, hdb₁, hadd⟩ := Option.bind_eq_some_iff.mp hadd
      obtain ⟨packToAdd, hpack, -⟩ := DataBase.addPacket_eq_some.mp hdb₁
      exact ⟨⟨⟨name, hname⟩, packToAdd, hpack⟩, ih.mp ⟨db', hadd⟩⟩
    · intro ⟨⟨⟨name, hname⟩, packToAdd, hpack⟩, hrest⟩
      have hdb₁ : db.addPacket order yaml YPack sender name
          = some (db.addFields order packToAdd sender name) :=
        DataBase.addPacket_eq_some.mpr ⟨packToAdd, hpack, rfl⟩
      obtain ⟨db', hadd⟩ : ∃ db', addPackets order yaml sender
          (db.addFields order packToAdd sender name) entries = some db' := ih.mpr hrest
      exact ⟨db', Option.bind_eq_some_iff.mpr ⟨name, hname,
        Option.bind_eq_some_iff.mpr ⟨_, hdb₁, hadd⟩⟩⟩

/-- Whether a registration goes through does not depend on the database. -/
theorem exists_registered_iff {db : DataBase} {sender packets : String} :
    (∃ db', registered order yaml db sender packets = some db') ↔ Readable yaml packets := by
  constructor
  · intro ⟨db', hdb'⟩
    obtain ⟨YData, entries, hload, hpairs, hadd⟩ := registered_eq_some.mp hdb'
    exact ⟨YData, entries, hload, hpairs, exists_addPackets_iff.mp ⟨db', hadd⟩⟩
  · intro ⟨YData, entries, hload, hpairs, hall⟩
    obtain ⟨db', hadd⟩ : ∃ db', addPackets order yaml sender db entries = some db' :=
      exists_addPackets_iff.mpr hall
    exact ⟨db', registered_eq_some.mpr ⟨YData, entries, hload, hpairs, hadd⟩⟩

theorem catalogue_snoc {msgs : List Message} {msg : Message} :
    catalogue order yaml (msgs ++ [msg]) = (catalogue order yaml msgs).bind fun db =>
      registered order yaml db msg.sender msg.data := by
  rw [catalogue, List.foldlM_append, catalogue]
  simp

/-- A catalogue was read from readable texts only. -/
theorem readable_of_catalogue {msgs : List Message} {db : DataBase}
    (h : catalogue order yaml msgs = some db) : ∀ msg ∈ msgs, Readable yaml msg.data := by
  induction msgs using List.reverseRecOn generalizing db with
  | nil => simp
  | append_singleton msgs last ih =>
    rw [catalogue_snoc] at h
    obtain ⟨db₁, hdb₁, hlast⟩ := Option.bind_eq_some_iff.mp h
    intro msg hmsg
    rcases List.mem_append.mp hmsg with hold | hnew
    · exact ih hdb₁ msg hold
    · rw [List.mem_singleton.mp hnew]
      exact exists_registered_iff.mp ⟨db, hlast⟩

/-! ## One round -/

/-- **One round of the loop.** Whatever the message is, list and database move to what the
registrations say with it included, and the reply tells the sender whether it is in the list.
The hypothesis is about the one branch that reads the third frame. -/
theorem registerRound_reads {before : List Message} {db : DataBase} {msg : Message}
    (hdb : catalogue order yaml (registrants before) = some db)
    (hread : msg.msgState = "registration" → msg.sender ∉ heard "registration" before →
      Readable yaml msg.data) :
    ∃ db' text,
      registerRound order yaml Fsm.init db ((registrants before).map Message.sender) msg.frames
        = .ok ((registrants (before ++ [msg])).map Message.sender, db', [msg.sender, text]) ∧
      catalogue order yaml (registrants (before ++ [msg])) = some db' ∧
      (text = "connected" ↔
        msg.sender ∈ (registrants (before ++ [msg])).map Message.sender) := by
  by_cases hmem : msg.sender ∈ heard "registration" before
  · -- registered already: confirmed again
    have hclients := mem_heard_iff.mp hmem
    have hsame : registrants (before ++ [msg]) = registrants before :=
      firstNaming_snoc_of_mem hmem
    rw [hsame]
    exact ⟨db, "connected", registerRound_of_mem hclients _, hdb, by
      simpa [registrants] using hclients⟩
  · have hclients : msg.sender ∉ (registrants before).map Message.sender :=
      mt mem_heard_iff.mpr hmem
    by_cases hstate : msg.msgState = "registration"
    · have hnew : registrants (before ++ [msg]) = registrants before ++ [msg] :=
        firstNaming_snoc_of_new hstate hmem
      obtain ⟨db', hdb'⟩ : ∃ db', registered order yaml db msg.sender msg.data = some db' :=
        exists_registered_iff.mpr (hread hstate hmem)
      have hround : registerRound order yaml Fsm.init db _ (_ :: Fsm.init.toString :: _) = _ :=
        registerRound_of_eq hclients msg.data []
      rw [hdb', Fsm.toString_init, ← hstate] at hround
      rw [hnew]
      refine ⟨db', "connected", ?_, ?_, by simp⟩
      · rw [List.map_append]
        exact hround
      · rw [catalogue_snoc, hdb]
        exact hdb'
    · -- another state: told Central's, which is not "connected"
      have hsame : registrants (before ++ [msg]) = registrants before :=
        firstNaming_snoc_of_ne hstate
      rw [hsame]
      refine ⟨db, "registration", registerRound_of_ne hclients hstate _, hdb, ?_⟩
      simpa using hclients

/-! ## The whole loop -/

/-- What is left to do behind the first message is all there is to add. -/
theorem Registers.cons {before consumed rest : List Message} {msg : Message}
    {result : RegisterResult} {clients : List String} {reply : Multipart}
    (h : Registers order yaml expectedClient (before ++ [msg]) consumed rest result)
    (hlt : (registrants before).length < expectedClient)
    (hreply : Replied msg ⟨msg.frames, clients, reply⟩) :
    Registers order yaml expectedClient before (msg :: consumed) rest
      { result with rounds := ⟨msg.frames, clients, reply⟩ :: result.rounds } where
  rest_eq := h.rest_eq
  missing past m after heq := by
    cases past with
    | nil => simpa using hlt
    | cons first past =>
      obtain ⟨hfirst, htail⟩ := List.cons.inj heq
      have := h.missing past m after htail
      rwa [hfirst, List.append_assoc, List.singleton_append] at this
  full := h.full
  clients := by simpa using h.clients
  nodup := h.nodup
  db := by simpa using h.db
  replies := .cons hreply h.replies

/-- The registration at hand is one of those that have to be readable. -/
theorem readable_of_new {before msgs : List Message} {msg : Message}
    (hlt : (registrants before).length < expectedClient)
    (hread : ∀ m ∈ (registrants (before ++ msg :: msgs)).take expectedClient,
      Readable yaml m.data)
    (hstate : msg.msgState = "registration") (hnew : msg.sender ∉ heard "registration" before) :
    Readable yaml msg.data := by
  rw [List.append_cons] at hread
  apply hread
  have hsnoc : registrants (before ++ [msg]) = registrants before ++ [msg] :=
    firstNaming_snoc_of_new hstate hnew
  apply take_firstNaming_subset "registration" (before ++ [msg]) msgs expectedClient
  show msg ∈ (registrants (before ++ [msg])).take expectedClient
  rw [hsnoc, List.take_of_length_le (by rw [List.length_append, List.length_singleton]; omega)]
  simp

/-- **The run of the loop.** Induction on the messages to come; what was read so far is the
invariant. -/
theorem registerLoop_reads (msgs : List Message) {before : List Message} {db : DataBase}
    (hdb : catalogue order yaml (registrants before) = some db)
    (hle : (registrants before).length ≤ expectedClient)
    (hread : ∀ msg ∈ (registrants (before ++ msgs)).take expectedClient,
      Readable yaml msg.data) :
    ∃ result consumed rest, msgs = consumed ++ rest ∧
      registerLoop order yaml Fsm.init expectedClient
        ((registrants before).map Message.sender) db (msgs.map Message.frames) = .ok result ∧
      Registers order yaml expectedClient before consumed rest result := by
  have hnodup := nodup_senders_firstNaming "registration" before
  induction msgs generalizing before db with
  | nil =>
    refine ⟨⟨(registrants before).map Message.sender, db, [], []⟩, [], [], rfl, rfl, ?_⟩
    refine ⟨rfl, atEach_nil _, ?_, by simp, hnodup, by simpa using hdb, .nil⟩
    rw [List.length_map]
    rcases Nat.lt_or_eq_of_le hle with hlt | heq
    · exact Or.inr ⟨hlt, rfl⟩
    · exact Or.inl heq
  | cons msg msgs ih =>
    by_cases hlt : (registrants before).length < expectedClient
    · obtain ⟨db', text, hround, hdb', htext⟩ := registerRound_reads hdb (readable_of_new hlt hread)
      rw [List.append_cons] at hread
      have hle' : (registrants (before ++ [msg])).length ≤ expectedClient := by
        have : (registrants (before ++ [msg])).length ≤ (registrants before).length + 1 :=
          length_firstNaming_snoc_le
        omega
      obtain ⟨result, consumed, rest, heq, hloop, hregisters⟩ :=
        ih hdb' hle' hread (nodup_senders_firstNaming _ _)
      refine ⟨_, msg :: consumed, rest, by rw [heq, List.cons_append], ?_,
        hregisters.cons hlt ⟨rfl, text, rfl, htext⟩⟩
      rw [List.map_cons, registerLoop, if_pos (by simpa using hlt)]
      simp only [hround, hloop, bind, Except.bind]
    · have heq : (registrants before).length = expectedClient := by omega
      refine ⟨⟨(registrants before).map Message.sender, db, [], (msg :: msgs).map Message.frames⟩,
        [], msg :: msgs, rfl, ?_, ?_⟩
      · rw [List.map_cons, registerLoop, if_neg (by simpa using hlt)]
      · exact ⟨rfl, atEach_nil _, .inl (by simpa using heq), by simp, hnodup,
          by simpa using hdb, .nil⟩

/-- **When the registration loop does its work**: exactly when the packets of the first
`expectedClient` registrations, one of each sender, can be read. -/
theorem registers_iff (order : HashOrder String) (yaml : YamlCpp) (expectedClient : Nat)
    (msgs : List Message) :
    (∃ result consumed rest, msgs = consumed ++ rest ∧
      registerClient order yaml Fsm.init DataBase.empty expectedClient
        (msgs.map Message.frames) = .ok result ∧
      Registers order yaml expectedClient [] consumed rest result) ↔
    ∀ msg ∈ (registrants msgs).take expectedClient, Readable yaml msg.data := by
  constructor
  · intro ⟨result, consumed, rest, heq, _, h⟩ msg hmsg
    have hclients := h.clients
    rw [List.nil_append] at hclients
    have hlen : result.clients.length = (registrants consumed).length := by
      rw [hclients, List.length_map]
    refine readable_of_catalogue h.db msg ?_
    -- every registration that counts was consumed
    rcases h.full with hfull | ⟨-, hrest⟩
    · rw [heq, registrants, take_firstNaming_append (by rw [← hfull, hlen]; rfl)] at hmsg
      exact List.mem_of_mem_take hmsg
    · rw [heq, hrest, List.append_nil] at hmsg
      exact List.mem_of_mem_take hmsg
  · intro hread
    have hstart : catalogue order yaml (registrants []) = some DataBase.empty := rfl
    exact registerLoop_reads msgs hstart (Nat.zero_le _) hread

/-- A packet whose fields are one scalar ends the thread: the conversion throws, and the
sender is never answered. -/
theorem not_registers : ¬ ∀ (order : HashOrder String) (yaml : YamlCpp) (expectedClient : Nat)
    (msgs : List Message), ∃ result consumed rest, msgs = consumed ++ rest ∧
      registerClient order yaml Fsm.init DataBase.empty expectedClient
        (msgs.map Message.frames) = .ok result ∧
      Registers order yaml expectedClient [] consumed rest result := by
  intro hregisters
  obtain ⟨result, _, _, _, hloop, _⟩ := hregisters (HashOrder.insertion String)
    (.documented (fun _ => "") fun _ => some (.map [(.scalar "P", .scalar "int")])) 1
    [⟨"A", "registration", "P: int"⟩]
  have hthrows : registerClient (HashOrder.insertion String)
      (.documented (fun _ => "") fun _ => some (.map [(.scalar "P", .scalar "int")])) Fsm.init
      DataBase.empty 1 [["A", "registration", "P: int"]] = .error .exception := rfl
  have hboth := hthrows.symm.trans hloop
  exact absurd hboth (by simp)

/-! ## The loop inside the thread -/

/-- The head of the loop sets the phase itself. -/
theorem registrationHead_phase (c : Central) (phase : Phase) (clients : List String) :
    registrationHead { c with phase } clients = registrationHead c clients := by
  unfold registrationHead
  split <;> rfl

/-- **The service thread runs `registerClient` first**: it ends where the loop throws, and
where the loop returns it goes on with the messages the loop has not taken. -/
theorem run_registerLoop (msgs : List Multipart) {c : Central} (hfault : c.fault = none)
    (clients : List String) :
    match registerLoop order yaml c.state c.expectedClient clients c.db msgs with
    | .error fault => ((registrationHead c clients).1.run order yaml msgs).fault = some fault
    | .ok result => (registrationHead c clients).1.run order yaml msgs =
        (registrationHead { c with db := result.db } result.clients).1.run order yaml
          result.rest := by
  induction msgs generalizing c clients with
  | nil => rfl
  | cons msg msgs ih =>
    by_cases hlt : clients.length < c.expectedClient
    · have hstep : (registrationHead c clients).1.run order yaml (msg :: msgs)
          = (({ c with phase := .registering clients } : Central).onMessage order yaml
              msg).1.run order yaml msgs := by
        rw [registrationHead_lt hlt]
        rfl
      rw [hstep, registerLoop, if_pos hlt]
      unfold onMessage
      cases hround : registerRound order yaml c.state c.db clients msg with
      | error fault =>
        simp only [hfault, hround, bind, Except.bind]
        rw [run_of_fault rfl]
      | ok round =>
        obtain ⟨clients', db', reply⟩ := round
        have ih := ih (c := { c with db := db' }) hfault clients'
        simp only [hfault, hround, bind, Except.bind]
        rw [hfault] at ih
        rw [registrationHead_phase { c with db := db', fault := none }]
        cases hloop : registerLoop order yaml c.state c.expectedClient clients' db' msgs with
        | error fault =>
          rw [hloop] at ih
          exact ih
        | ok result =>
          rw [hloop] at ih
          exact ih
    · rw [registerLoop, if_neg hlt]

end Central

end ComuFrame
