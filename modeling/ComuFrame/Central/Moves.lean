import ComuFrame.Central.Rounds
import ComuFrame.DataBase.Answers

/-!
# ComuFrame — Central's steps on the messages of Nodes

Every message of a Node reaches Central as an identity, a state and a text. `Moves` lists
what Central can do with one, loop by loop and branch by branch, and `Coherent` is what the
thread keeps true between its variables as long as it hears from Nodes only:

* `onMessage_moves` — the list is complete;
* `Coherent.moves` — the variables stay coherent. The two things it asks of the senders,
  that strangers register and that only registered senders speak of `Syncronization`, are
  facts about the whole system.
-/

namespace ComuFrame

open Cpp

namespace Central

/-! ## What a step can be -/

section Moves

variable (order : HashOrder String) (yaml : YamlCpp)

inductive Moves (c : Central) (sender msgState data : String) :
    Central → List Multipart → Prop where
  | confirm (clients : List String) (hphase : c.phase = .registering clients)
      (hmem : sender ∈ clients) :
    Moves c sender msgState data c [[sender, "connected"]]
  | redirect (clients : List String) (hphase : c.phase = .registering clients)
      (hmem : sender ∉ clients) (hstate : msgState ≠ c.state.toString) :
    Moves c sender msgState data c [[sender, c.state.toString]]
  | register (clients : List String) (db : DataBase) (hphase : c.phase = .registering clients)
      (hmem : sender ∉ clients) (hdb : registered order yaml c.db sender data = some db)
      (hlt : (clients ++ [sender]).length < c.expectedClient) :
    Moves c sender msgState data { c with db, phase := .registering (clients ++ [sender]) }
      [[sender, "connected"]]
  | registerLast (clients : List String) (db : DataBase)
      (hphase : c.phase = .registering clients) (hmem : sender ∉ clients)
      (hdb : registered order yaml c.db sender data = some db) :
    Moves c sender msgState data
      { c with
        db, state := c.state.nextState.2, connectedClients := clients ++ [sender]
        phase := .collecting UnorderedMap.empty }
      ([sender, "connected"] :: (clients ++ [sender]).map
        (strMSG c.state.nextState.2 c.state.nextState.2.toString))
  | discard (requestMap : UnorderedMap String (List String))
      (hphase : c.phase = .collecting requestMap)
      (hdiscard : msgState = c.state.toString → sender ∈ requestMap.keys) :
    Moves c sender msgState data c []
  | take (requestMap : UnorderedMap String (List String)) (names : List String)
      (hphase : c.phase = .collecting requestMap) (hstate : msgState = c.state.toString)
      (hnew : sender ∉ requestMap.keys)
      (hnames : (yaml.load data).bind (requestedNames yaml) = some names)
      (hsize : (requestMap.assign sender names).size ≠ c.connectedClients.length) :
    Moves c sender msgState data { c with phase := .collecting (requestMap.assign sender names) }
      []
  | takeLast (requestMap : UnorderedMap String (List String)) (names : List String)
      (hphase : c.phase = .collecting requestMap) (hstate : msgState = c.state.toString)
      (hnew : sender ∉ requestMap.keys)
      (hnames : (yaml.load data).bind (requestedNames yaml) = some names)
      (hsize : (requestMap.assign sender names).size = c.connectedClients.length) :
    Moves c sender msgState data
      (answerRequests order c (requestMap.assign sender names)).1
      (answerRequests order c (requestMap.assign sender names)).2
  | hear (requestMap : UnorderedMap String (List String)) (toCheckSubscriptions : List String)
      (hphase : c.phase = .subscribing requestMap toCheckSubscriptions)
      (hstate : strcmpEq msgState "syncronization" = true)
      (hany : toCheckSubscriptions.any (strcmpEq sender) = true) :
    Moves c sender msgState data
      { c with
        phase := .subscribing requestMap (toCheckSubscriptions.eraseP (strcmpEq sender)) }
      (if (toCheckSubscriptions.eraseP (strcmpEq sender)).length = 0
        then c.connectedClients.map (strMSG c.state "AllSubscribed") else [])
  | unheard (requestMap : UnorderedMap String (List String)) (toCheckSubscriptions : List String)
      (hphase : c.phase = .subscribing requestMap toCheckSubscriptions) :
    Moves c sender msgState data c []
  | crash (fault : Fault) : Moves c sender msgState data { c with fault := some fault } []

end Moves

/-- The loop of `registerClient` is entered again only while clients are missing. -/
def Few (c : Central) : Prop :=
  ∀ clients, c.phase = .registering clients → clients.length < c.expectedClient

variable {order : HashOrder String} {yaml : YamlCpp} {c c' : Central}
  {sender msgState data : String} {sent : List Multipart}

/-- **What Central can do with a message of a Node.** -/
theorem onMessage_moves (hfault : c.fault = none) (hfew : c.Few) :
    Moves order yaml c sender msgState data
      (c.onMessage order yaml [sender, msgState, data]).1
      (c.onMessage order yaml [sender, msgState, data]).2 := by
  cases hphase : c.phase with
  | registering clients =>
    rw [onMessage_registering hfault hphase (hfew clients hphase)]
    split
    · next hmem => exact .confirm clients hphase hmem
    · next hmem =>
      split
      · next hstate =>
        cases hdb : registered order yaml c.db sender data with
        | none => exact .crash .exception
        | some db =>
          simp only
          by_cases hlt : (clients ++ [sender]).length < c.expectedClient
          · rw [registrationHead_lt (c := { c with db }) hlt]
            exact .register clients db hphase hmem hdb hlt
          · rw [registrationHead_ge (c := { c with db }) hlt]
            exact .registerLast clients db hphase hmem hdb
      · next hstate => exact .redirect clients hphase hmem hstate
  | collecting requestMap =>
    rw [onMessage_collecting hfault hphase]
    split
    · next htake =>
      obtain ⟨hstate, hnew⟩ := htake
      rw [UnorderedMap.find?_eq_none] at hnew
      cases hnames : (yaml.load data).bind (requestedNames yaml) with
      | none => exact .crash .exception
      | some names =>
        simp only
        split
        · next hsize => exact .takeLast requestMap names hphase hstate hnew hnames hsize
        · next hsize => exact .take requestMap names hphase hstate hnew hnames hsize
    · next hdiscard =>
      refine .discard requestMap hphase fun hstate => ?_
      by_contra hnew
      exact hdiscard ⟨hstate, UnorderedMap.find?_eq_none.mpr hnew⟩
  | subscribing requestMap toCheckSubscriptions =>
    rw [onMessage_subscribing hfault hphase]
    split
    · next htake => exact .hear requestMap toCheckSubscriptions hphase htake.1 htake.2
    · exact .unheard requestMap toCheckSubscriptions hphase

/-! ## The reply loop -/

section ReplyLoop

variable {db : DataBase} {requests : List (String × List String)}

/-- One reply for each request, in the order of the requests. -/
theorem map_replyLoop (db : DataBase) (requests : List (String × List String)) :
    (replyLoop order db requests).2.map (fun reply => (reply.client, reply.request))
      = requests := by
  induction requests generalizing db with
  | nil => rfl
  | cons request requests ih =>
    simp only [replyLoop, List.map_cons, ih]

theorem reachable_replyLoop (hdb : DataBase.Reachable order yaml db) :
    DataBase.Reachable order yaml (replyLoop order db requests).1 := by
  induction requests generalizing db with
  | nil => exact hdb
  | cons request requests ih => exact ih (hdb.providePackets request.2)

/-- Every reply is what the database it names answers to the request it names. -/
theorem reply_of_mem_replyLoop (hdb : DataBase.Reachable order yaml db) {reply : Reply}
    (hreply : reply ∈ (replyLoop order db requests).2) :
    DataBase.Reachable order yaml reply.db ∧
      reply.packetNeeded = (reply.db.providePackets order reply.request).1 := by
  induction requests generalizing db with
  | nil => simp [replyLoop] at hreply
  | cons request requests ih =>
    rcases List.mem_cons.mp hreply with rfl | hrest
    · exact ⟨hdb, rfl⟩
    · exact ih (hdb.providePackets request.2) hrest

end ReplyLoop

/-! ## Registrations -/

theorem reachable_addPackets {entries : List (Yaml × Yaml)} {db db' : DataBase}
    (hdb : DataBase.Reachable order yaml db)
    (hadd : addPackets order yaml sender db entries = some db') :
    DataBase.Reachable order yaml db' := by
  induction entries generalizing db with
  | nil =>
    simp only [addPackets, Option.some.injEq] at hadd
    exact hadd ▸ hdb
  | cons entry entries ih =>
    obtain ⟨name, -, hadd⟩ := Option.bind_eq_some_iff.mp hadd
    obtain ⟨db₁, hdb₁, hadd⟩ := Option.bind_eq_some_iff.mp hadd
    exact ih (.addPacket hdb hdb₁) hadd

/-! ## The variables -/

/-- Still in `registerClient`. -/
def registering (c : Central) : Bool :=
  match c.phase with
  | .registering _ => true
  | _ => false

/-- The requests taken so far. -/
def requestMap (c : Central) : UnorderedMap String (List String) :=
  match c.phase with
  | .registering _ => UnorderedMap.empty
  | .collecting requestMap => requestMap
  | .subscribing requestMap _ => requestMap

theorem clients_registering {clients : List String} (h : c.phase = .registering clients) :
    c.clients = clients := by
  rw [Central.clients, h]

theorem registering_eq {clients : List String} (h : c.phase = .registering clients) :
    c.registering = true := by
  rw [registering, h]

theorem collecting_eq {requestMap : UnorderedMap String (List String)}
    (h : c.phase = .collecting requestMap) :
    c.registering = false ∧ c.clients = c.connectedClients ∧ c.requestMap = requestMap := by
  simp [registering, clients, Central.requestMap, h]

theorem subscribing_eq {requestMap : UnorderedMap String (List String)}
    {toCheckSubscriptions : List String}
    (h : c.phase = .subscribing requestMap toCheckSubscriptions) :
    c.registering = false ∧ c.clients = c.connectedClients ∧ c.requestMap = requestMap := by
  simp [registering, clients, Central.requestMap, h]

/-- What Central keeps true between its variables. -/
structure Coherent (order : HashOrder String) (yaml : YamlCpp) (c : Central) : Prop where
  few : c.Few
  state : c.state = if c.registering then Fsm.init else Fsm.init.nextState.2
  nodup : c.clients.Nodup
  db : DataBase.Reachable order yaml c.db
  /-- Nobody but a client has a request. -/
  asked : ∀ client ∈ c.requestMap.keys, client ∈ c.clients
  /-- After the request loop every client has one, and the replies are the answers. -/
  everyone : ∀ requestMap toCheckSubscriptions,
    c.phase = .subscribing requestMap toCheckSubscriptions →
      ∀ client ∈ c.connectedClients, client ∈ requestMap.keys
  replies : ∀ requestMap toCheckSubscriptions,
    c.phase = .subscribing requestMap toCheckSubscriptions →
      ∃ db, DataBase.Reachable order yaml db ∧
        c.replies = (replyLoop order db (requestMap.iterate order)).2

theorem Coherent.state_registering (hc : Coherent order yaml c) (hreg : c.registering = true) :
    c.state = Fsm.init := by
  have hstate := hc.state
  rw [hreg] at hstate
  exact hstate

theorem Coherent.state_later (hc : Coherent order yaml c) (hreg : c.registering = false) :
    c.state = Fsm.init.nextState.2 := by
  have hstate := hc.state
  rw [hreg] at hstate
  exact hstate

/-- What the messages Central takes after the registration loop are to say. -/
theorem Coherent.toString_later (hc : Coherent order yaml c) (hreg : c.registering = false) :
    c.state.toString = "syncronization" := by
  rw [hc.state_later hreg]
  rfl

@[simp] theorem clients_init (expectedClient : Nat) : (init expectedClient).clients = [] := by
  unfold init registrationHead
  split <;> rfl

@[simp] theorem requestMap_init (expectedClient : Nat) :
    (init expectedClient).requestMap = UnorderedMap.empty := by
  unfold init registrationHead
  split <;> rfl

theorem phase_init_ne (expectedClient : Nat)
    (requestMap : UnorderedMap String (List String)) (toCheckSubscriptions : List String) :
    (init expectedClient).phase ≠ .subscribing requestMap toCheckSubscriptions := by
  unfold init registrationHead
  split <;> simp

theorem coherent_init (expectedClient : Nat) :
    Coherent order yaml (init expectedClient) := by
  by_cases hlt : ([] : List String).length < expectedClient
  · rw [init, registrationHead_lt hlt]
    exact {
      few := fun clients h => by cases h; exact hlt
      state := rfl
      nodup := List.nodup_nil
      db := .empty
      asked := fun _ h => by simp [requestMap] at h
      everyone := fun _ _ h => by simp at h
      replies := fun _ _ h => by simp at h }
  · rw [init, registrationHead_ge hlt]
    exact {
      few := fun clients h => by simp at h
      state := rfl
      nodup := List.nodup_nil
      db := .empty
      asked := fun _ h => by simp [requestMap] at h
      everyone := fun _ _ h => by simp at h
      replies := fun _ _ h => by simp at h }

/-- The list of clients only grows, by a sender that was not in it, and the database grows
by what that sender registers. -/
theorem clients_moves (hmove : Moves order yaml c sender msgState data c' sent) :
    c'.clients = c.clients ∨ (sender ∉ c.clients ∧ c'.clients = c.clients ++ [sender] ∧
      registered order yaml c.db sender data = some c'.db) := by
  cases hmove with
  | register clients db hphase hmem hdb hlt =>
    rw [clients_registering hphase]
    exact .inr ⟨hmem, rfl, hdb⟩
  | registerLast clients db hphase hmem hdb =>
    rw [clients_registering hphase]
    exact .inr ⟨hmem, rfl, hdb⟩
  | take requestMap names hphase =>
    rw [(collecting_eq hphase).2.1]
    exact .inl rfl
  | takeLast requestMap names hphase =>
    rw [(collecting_eq hphase).2.1]
    exact .inl rfl
  | hear requestMap toCheckSubscriptions hphase =>
    rw [(subscribing_eq hphase).2.1]
    exact .inl rfl
  | _ => exact .inl rfl

theorem clients_subset_moves (hmove : Moves order yaml c sender msgState data c' sent) :
    c.clients ⊆ c'.clients := by
  rcases clients_moves hmove with h | ⟨-, h, -⟩
  · rw [h]
    exact List.Subset.refl _
  · rw [h]
    exact List.subset_append_left _ _

/-- Requests are only added, one in a step, for the sender. -/
theorem requestMap_moves (hmove : Moves order yaml c sender msgState data c' sent) :
    c'.requestMap = c.requestMap ∨ ∃ names, msgState = c.state.toString ∧
      c.registering = false ∧ sender ∉ c.requestMap.keys ∧
      (yaml.load data).bind (requestedNames yaml) = some names ∧
      c'.requestMap = c.requestMap.assign sender names := by
  cases hmove with
  | register clients db hphase =>
    left
    simp only [requestMap, hphase]
  | registerLast clients db hphase =>
    left
    simp only [requestMap, hphase]
  | take requestMap names hphase hstate hnew hnames hsize =>
    obtain ⟨hreg, -, rfl⟩ := collecting_eq hphase
    exact .inr ⟨names, hstate, hreg, hnew, hnames, rfl⟩
  | takeLast requestMap names hphase hstate hnew hnames hsize =>
    obtain ⟨hreg, -, rfl⟩ := collecting_eq hphase
    exact .inr ⟨names, hstate, hreg, hnew, hnames, rfl⟩
  | hear requestMap toCheckSubscriptions hphase hstate hany =>
    obtain ⟨-, -, rfl⟩ := subscribing_eq hphase
    exact .inl rfl
  | _ => exact .inl rfl

/-- Past the registration loop, a client without a request is never passed over. -/
theorem takes_moves (hc : Coherent order yaml c)
    (hmove : Moves order yaml c sender msgState data c' sent) (hreg : c.registering = false)
    (hsender : sender ∈ c.clients) (hnew : sender ∉ c.requestMap.keys)
    (hstate : msgState = "syncronization") (hfault : c'.fault = none) :
    sender ∈ c'.requestMap.keys := by
  -- in the last loop every client has a request
  have hlast (requestMap : UnorderedMap String (List String)) (toCheckSubscriptions : List String)
      (hphase : c.phase = .subscribing requestMap toCheckSubscriptions) : False := by
    obtain ⟨-, hclients, hmap⟩ := subscribing_eq hphase
    exact hnew (hmap ▸ hc.everyone requestMap toCheckSubscriptions hphase sender
      (hclients ▸ hsender))
  cases hmove with
  | discard requestMap hphase hdiscard =>
    obtain ⟨-, -, hmap⟩ := collecting_eq hphase
    exact hmap ▸ hdiscard (hstate.trans (hc.toString_later hreg).symm)
  | take => exact UnorderedMap.mem_keys_assign.mpr (.inl rfl)
  | takeLast => exact UnorderedMap.mem_keys_assign.mpr (.inl rfl)
  | hear requestMap toCheckSubscriptions hphase => exact (hlast _ _ hphase).elim
  | unheard requestMap toCheckSubscriptions hphase => exact (hlast _ _ hphase).elim
  | crash fault => simp at hfault
  | confirm clients hphase => simp [registering_eq hphase] at hreg
  | redirect clients hphase => simp [registering_eq hphase] at hreg
  | register clients db hphase => simp [registering_eq hphase] at hreg
  | registerLast clients db hphase => simp [registering_eq hphase] at hreg

/-- A client is added once. -/
theorem Coherent.nodup_moves (hc : Coherent order yaml c)
    (hmove : Moves order yaml c sender msgState data c' sent) : c'.clients.Nodup := by
  rcases clients_moves hmove with h | ⟨hmem, h, -⟩
  · rw [h]
    exact hc.nodup
  · rw [h]
    refine List.nodup_append.mpr ⟨hc.nodup, List.nodup_singleton _, fun a ha b hb heq => ?_⟩
    exact hmem (List.mem_singleton.mp hb ▸ heq ▸ ha)

/-- With as many requests as clients, and all of them of clients, every client has one. -/
theorem mem_keys_of_size_eq {requestMap : UnorderedMap String (List String)}
    {clients : List String} (hsize : requestMap.size = clients.length)
    (hasked : ∀ client ∈ requestMap.keys, client ∈ clients) :
    ∀ client ∈ clients, client ∈ requestMap.keys := by
  have hperm : requestMap.keys.Perm clients :=
    (List.subperm_of_subset requestMap.keys_nodup hasked).perm_of_length_le (by simp [hsize])
  exact fun client hclient => hperm.mem_iff.mpr hclient

/-- Taking a client's request keeps the requests with the clients. -/
theorem Coherent.asked_assign (hc : Coherent order yaml c)
    {requestMap : UnorderedMap String (List String)} (hphase : c.phase = .collecting requestMap)
    (hsender : sender ∈ c.clients) (names : List String) :
    ∀ client ∈ (requestMap.assign sender names).keys, client ∈ c.connectedClients := by
  obtain ⟨-, hclients, hmap⟩ := collecting_eq hphase
  rw [← hclients]
  intro client hclient
  rcases UnorderedMap.mem_keys_assign.mp hclient with rfl | hold
  · exact hsender
  · exact hc.asked client (hmap ▸ hold)

theorem Coherent.moves (hc : Coherent order yaml c)
    (hsync : msgState = "syncronization" → sender ∈ c.clients)
    (hmove : Moves order yaml c sender msgState data c' sent) : Coherent order yaml c' := by
  have hnodup := hc.nodup_moves hmove
  cases hmove with
  | confirm => exact hc
  | redirect => exact hc
  | register clients db hphase hmem hdb hlt =>
    obtain ⟨YData, entries, -, -, hadd⟩ := registered_eq_some.mp hdb
    exact {
      few := fun clients' h => by cases h; exact hlt
      state := hc.state_registering (registering_eq hphase)
      nodup := hnodup
      db := reachable_addPackets hc.db hadd
      asked := fun _ h => by simp [requestMap] at h
      everyone := fun _ _ h => by simp at h
      replies := fun _ _ h => by simp at h }
  | registerLast clients db hphase hmem hdb =>
    obtain ⟨YData, entries, -, -, hadd⟩ := registered_eq_some.mp hdb
    exact {
      few := fun clients' h => by simp at h
      state := by rw [hc.state_registering (registering_eq hphase)]; rfl
      nodup := hnodup
      db := reachable_addPackets hc.db hadd
      asked := fun _ h => by simp [requestMap] at h
      everyone := fun _ _ h => by simp at h
      replies := fun _ _ h => by simp at h }
  | discard => exact hc
  | take requestMap names hphase hstate hnew hnames hsize =>
    obtain ⟨hreg, -⟩ := collecting_eq hphase
    have hasked := hc.asked_assign hphase (hsync (hstate.trans (hc.toString_later hreg))) names
    exact {
      few := fun clients' h => by simp at h
      state := hc.state_later hreg
      nodup := hnodup
      db := hc.db
      asked := hasked
      everyone := fun _ _ h => by simp at h
      replies := fun _ _ h => by simp at h }
  | takeLast requestMap names hphase hstate hnew hnames hsize =>
    obtain ⟨hreg, -⟩ := collecting_eq hphase
    have hasked := hc.asked_assign hphase (hsync (hstate.trans (hc.toString_later hreg))) names
    exact {
      few := fun clients' h => by simp [answerRequests] at h
      state := hc.state_later hreg
      nodup := hnodup
      db := reachable_replyLoop hc.db
      asked := hasked
      everyone := fun requestMap' _ h => by
        obtain ⟨rfl, -⟩ := Phase.subscribing.inj h
        exact mem_keys_of_size_eq hsize hasked
      replies := fun requestMap' _ h => by
        obtain ⟨rfl, -⟩ := Phase.subscribing.inj h
        exact ⟨c.db, hc.db, rfl⟩ }
  | hear requestMap toCheckSubscriptions hphase hstate hany =>
    obtain ⟨hreg, hclients, hmap⟩ := subscribing_eq hphase
    exact {
      few := fun clients' h => by simp at h
      state := hc.state_later hreg
      nodup := hnodup
      db := hc.db
      asked := fun client h => hclients ▸ hc.asked client (hmap ▸ h)
      everyone := fun requestMap' _ h => by
        obtain ⟨rfl, -⟩ := Phase.subscribing.inj h
        exact hc.everyone requestMap _ hphase
      replies := fun requestMap' _ h => by
        obtain ⟨rfl, -⟩ := Phase.subscribing.inj h
        exact hc.replies requestMap _ hphase }
  | unheard => exact hc
  | crash fault =>
    exact { hc with }

/-- "AllSubscribed" is sent by the last loop alone, when it has crossed off the last name. A
packet list does not look like it: it has no frame without a separator but the error text. -/
theorem allSubscribed_moves (hc : Coherent order yaml c)
    (hmove : Moves order yaml c sender msgState data c' sent) {client : String}
    (hmsg : [client, "syncronization", "AllSubscribed"] ∈ sent) :
    ∃ requestMap toCheckSubscriptions,
      c.phase = .subscribing requestMap toCheckSubscriptions ∧
      strcmpEq msgState "syncronization" = true ∧
      toCheckSubscriptions.any (strcmpEq sender) = true ∧
      (toCheckSubscriptions.eraseP (strcmpEq sender)).length = 0 := by
  cases hmove with
  | confirm => simp at hmsg
  | redirect => simp at hmsg
  | register => simp at hmsg
  | registerLast clients db hphase =>
    -- the broadcast of the state: its text is the state itself
    rw [hc.state_registering (registering_eq hphase)] at hmsg
    simp [strMSG] at hmsg
  | takeLast requestMap names hphase hstate hnew hnames hsize =>
    -- an answer whose first packet would be called "syncronization"
    obtain ⟨reply, hreply, hmessage⟩ := List.mem_map.mp hmsg
    obtain ⟨hdb, hanswer⟩ := reply_of_mem_replyLoop hc.db hreply
    have hpackets : reply.packetNeeded = ["syncronization", "AllSubscribed"] :=
      (List.cons.inj hmessage).2
    have hframe := DataBase.frame_of_mem_answer hdb.valid
      (show "syncronization" ∈ (reply.db.providePackets order reply.request).1 by
        rw [← hanswer, hpackets]; simp)
    exact absurd hframe (by decide)
  | hear requestMap toCheckSubscriptions hphase hstate hany =>
    split at hmsg
    · next hnil => exact ⟨requestMap, toCheckSubscriptions, hphase, hstate, hany, hnil⟩
    · simp at hmsg
  | _ => simp at hmsg

/-- The thread does not enter the last loop and end in one step. -/
theorem fault_of_subscribing {requestMap : UnorderedMap String (List String)}
    {toCheckSubscriptions : List String} (hfault : c.fault = none)
    (hmove : Moves order yaml c sender msgState data c' sent)
    (hphase : c'.phase = .subscribing requestMap toCheckSubscriptions) :
    c'.fault = none ∨ c.phase = .subscribing requestMap toCheckSubscriptions := by
  cases hmove with
  | crash => exact .inr hphase
  | _ => exact .inl hfault

/-- In the last loop Central stays there, and sends nothing but "AllSubscribed". -/
theorem subscribing_moves {requestMap : UnorderedMap String (List String)}
    {toCheckSubscriptions : List String}
    (hphase : c.phase = .subscribing requestMap toCheckSubscriptions)
    (hmove : Moves order yaml c sender msgState data c' sent) :
    (∃ toCheckSubscriptions', c'.phase = .subscribing requestMap toCheckSubscriptions') ∧
    c'.connectedClients = c.connectedClients ∧ c'.replies = c.replies ∧
    ∀ msg ∈ sent, ∃ client, msg = strMSG c.state "AllSubscribed" client := by
  cases hmove with
  | confirm clients h => simp [h] at hphase
  | redirect clients h => simp [h] at hphase
  | register clients db h => simp [h] at hphase
  | registerLast clients db h => simp [h] at hphase
  | discard requestMap h => simp [h] at hphase
  | take requestMap names h => simp [h] at hphase
  | takeLast requestMap names h => simp [h] at hphase
  | hear requestMap' toCheckSubscriptions' h =>
    obtain ⟨rfl, rfl⟩ := Phase.subscribing.inj (h.symm.trans hphase)
    refine ⟨⟨_, rfl⟩, rfl, rfl, fun msg hmsg => ?_⟩
    split at hmsg
    · obtain ⟨client, -, rfl⟩ := List.mem_map.mp hmsg
      exact ⟨client, rfl⟩
    · simp at hmsg
  | unheard => exact ⟨⟨_, hphase⟩, rfl, rfl, by simp⟩
  | crash => exact ⟨⟨_, hphase⟩, rfl, rfl, by simp⟩

/-- Central writes to clients only, once strangers do nothing but register. -/
theorem addressee_moves (hc : Coherent order yaml c)
    (hsync : msgState = "syncronization" → sender ∈ c.clients)
    (hmsgState : msgState = "registration" ∨ msgState = "syncronization")
    (hmove : Moves order yaml c sender msgState data c' sent) {msg : Multipart}
    (hmsg : msg ∈ sent) : ∃ client ∈ c'.clients, ∃ frames, msg = client :: frames := by
  cases hmove with
  | confirm clients hphase hmem =>
    obtain rfl := List.mem_singleton.mp hmsg
    exact ⟨sender, clients_registering hphase ▸ hmem, _, rfl⟩
  | redirect clients hphase hmem hstate =>
    -- whoever does not register speaks of `Syncronization`, and is a client
    rw [hc.state_registering (registering_eq hphase)] at hstate
    have hmem' := hsync (hmsgState.resolve_left hstate)
    exact absurd (clients_registering hphase ▸ hmem') hmem
  | register clients db hphase hmem hdb hlt =>
    obtain rfl := List.mem_singleton.mp hmsg
    exact ⟨sender, by simp [Central.clients], _, rfl⟩
  | registerLast clients db hphase hmem hdb =>
    rcases List.mem_cons.mp hmsg with rfl | hmsg
    · exact ⟨sender, by simp [Central.clients], _, rfl⟩
    · obtain ⟨client, hclient, rfl⟩ := List.mem_map.mp hmsg
      exact ⟨client, hclient, _, rfl⟩
  | takeLast requestMap names hphase hstate hnew hnames hsize =>
    obtain ⟨hreg, -⟩ := collecting_eq hphase
    have hasked := hc.asked_assign hphase (hsync (hstate.trans (hc.toString_later hreg))) names
    obtain ⟨reply, hreply, rfl⟩ := List.mem_map.mp hmsg
    refine ⟨reply.client, hasked _ ?_, _, rfl⟩
    -- a reply goes to a key of `requestMap`
    have hpair := List.mem_map_of_mem (f := fun reply => (reply.client, reply.request)) hreply
    rw [map_replyLoop] at hpair
    exact UnorderedMap.mem_keys.mpr ⟨_, UnorderedMap.mem_iterate.mp hpair⟩
  | hear requestMap toCheckSubscriptions hphase hstate hany =>
    split at hmsg
    · obtain ⟨client, hclient, rfl⟩ := List.mem_map.mp hmsg
      exact ⟨client, hclient, _, rfl⟩
    · simp at hmsg
  | _ => simp at hmsg

end Central

end ComuFrame
