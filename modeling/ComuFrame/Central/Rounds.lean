import ComuFrame.Central.Basic

/-!
# ComuFrame — what Central does with one message

The rounds of the three loops, branch by branch, and `onMessage` as an equation for a message
of three frames, which is what every Node sends. Callers use these equations and do not
unfold the handlers.
-/

namespace ComuFrame

open Cpp

namespace Central

variable {order : HashOrder String} {yaml : YamlCpp}

/-! ## Registration -/

/-- `std::count` of the identity just pushed: more than one if it was there already. -/
theorem count_push_gt_one_iff {clients : List String} {sender : String} :
    (clients ++ [sender]).count sender > 1 ↔ sender ∈ clients := by
  rw [List.count_append, List.count_singleton_self, ← List.count_pos_iff]
  omega

section Registration

variable {state : Fsm} {db : DataBase} {clients : List String} {sender : String}

/-- Already registered: whatever the message says, the confirmation is sent again. -/
theorem registerRound_of_mem (hmem : sender ∈ clients) (frames : Multipart) :
    registerRound order yaml state db clients (sender :: frames)
      = .ok (clients, db, [sender, "connected"]) := by
  have hcount := count_push_gt_one_iff.mpr hmem
  simp only [registerRound, bind, Except.bind, Multipart.popstr_cons, if_pos hcount,
    List.dropLast_concat]

/-- Not registered, and not asking to be. -/
theorem registerRound_of_ne (hmem : sender ∉ clients) {msgState : String}
    (hstate : msgState ≠ state.toString) (frames : Multipart) :
    registerRound order yaml state db clients (sender :: msgState :: frames)
      = .ok (clients, db, [sender, state.toString]) := by
  have hcount := mt count_push_gt_one_iff.mp hmem
  simp only [registerRound, bind, Except.bind, Multipart.popstr_cons, if_neg hcount,
    if_neg hstate, List.dropLast_concat]

/-- What a registration adds to the database; `none` when something in it throws. -/
def registered (order : HashOrder String) (yaml : YamlCpp) (db : DataBase)
    (sender packets : String) : Option DataBase :=
  ((yaml.load packets).bind yaml.pairs).bind (addPackets order yaml sender db)

/-- A registration that goes through: the entries it is read as, and what they add. -/
theorem registered_eq_some {db' : DataBase} {packets : String} :
    registered order yaml db sender packets = some db' ↔ ∃ YData entries,
      yaml.load packets = some YData ∧ yaml.pairs YData = some entries ∧
        addPackets order yaml sender db entries = some db' := by
  simp only [registered, Option.bind_eq_some_iff]
  constructor
  · rintro ⟨entries, ⟨YData, hload, hpairs⟩, hadd⟩
    exact ⟨YData, entries, hload, hpairs, hadd⟩
  · rintro ⟨YData, entries, hload, hpairs, hadd⟩
    exact ⟨entries, ⟨YData, hload, hpairs⟩, hadd⟩

/-- Not registered, and asking to be. -/
theorem registerRound_of_eq (hmem : sender ∉ clients) (packets : String) (frames : Multipart) :
    registerRound order yaml state db clients (sender :: state.toString :: packets :: frames)
      = (orThrow (registered order yaml db sender packets)).map fun db =>
          (clients ++ [sender], db, [sender, "connected"]) := by
  have hcount := mt count_push_gt_one_iff.mp hmem
  simp only [registerRound, bind, Except.bind, Multipart.popstr_cons, if_neg hcount, if_true,
    registered]
  cases yaml.load packets with
  | none => rfl
  | some YData =>
    cases hentries : yaml.pairs YData with
    | none => simp [hentries, Except.map]
    | some entries =>
      cases hadd : addPackets order yaml sender db entries with
      | none => simp [hentries, hadd, Except.map]
      | some db' => simp [hentries, hadd, Except.map]

/-- A registration cut off behind its state. -/
theorem registerRound_short (hmem : sender ∉ clients) :
    registerRound order yaml state db clients [sender, state.toString] = .error .emptyPop := by
  have hcount := mt count_push_gt_one_iff.mp hmem
  simp only [registerRound, bind, Except.bind, Multipart.popstr_cons, if_neg hcount, if_true,
    Multipart.popstr_nil]

end Registration

/-! ## Requests -/

section Requests

variable {state : Fsm} {requestMap : UnorderedMap String (List String)} {nodeName : String}

theorem requestRound_of_new (hnew : requestMap.find? nodeName = none) (text : String)
    (frames : Multipart) :
    requestRound yaml state requestMap (nodeName :: state.toString :: text :: frames)
      = (orThrow ((yaml.load text).bind (requestedNames yaml))).map fun dataRequested =>
          some (requestMap.assign nodeName dataRequested) := by
  simp only [requestRound, bind, Except.bind, Multipart.popstr_cons, hnew, and_self, if_true]
  cases yaml.load text with
  | none => rfl
  | some YDataRequested =>
    cases hnames : requestedNames yaml YDataRequested with
    | none => simp [hnames, Except.map]
    | some dataRequested => simp [hnames, Except.map]

theorem requestRound_discard {msgState : String}
    (hdiscard : ¬ (msgState = state.toString ∧ requestMap.find? nodeName = none))
    (text : String) (frames : Multipart) :
    requestRound yaml state requestMap (nodeName :: msgState :: text :: frames) = .ok none := by
  simp only [requestRound, bind, Except.bind, Multipart.popstr_cons, hdiscard, if_false]

/-- Both branches pop a third frame. -/
theorem requestRound_short (msgState : String) :
    requestRound yaml state requestMap [nodeName, msgState] = .error .emptyPop := by
  simp [requestRound, bind, Except.bind]

end Requests

/-! ## Subscriptions -/

theorem subscriptionRound_short (state : Fsm) (connectedClients toCheckSubscriptions : List String)
    (sender msgState : String) :
    subscriptionRound state connectedClients toCheckSubscriptions [sender, msgState]
      = .error .emptyPop := rfl

theorem subscriptionRound_eq (state : Fsm) (connectedClients toCheckSubscriptions : List String)
    (sender msgState data : String) (frames : Multipart) :
    subscriptionRound state connectedClients toCheckSubscriptions
        (sender :: msgState :: data :: frames)
      = .ok (if strcmpEq msgState "syncronization" = true ∧
            toCheckSubscriptions.any (strcmpEq sender) = true then
          (toCheckSubscriptions.eraseP (strcmpEq sender),
            if (toCheckSubscriptions.eraseP (strcmpEq sender)).length = 0
              then connectedClients.map (strMSG state "AllSubscribed") else [])
        else (toCheckSubscriptions, [])) := by
  simp only [subscriptionRound, bind, Except.bind, Multipart.popstr_cons]
  by_cases hstate : strcmpEq msgState "syncronization" = true
  · by_cases hany : toCheckSubscriptions.any (strcmpEq sender) = true
    · simp only [hstate, hany, if_true, and_self]
    · simp only [hstate, hany, if_true, and_false, Bool.false_eq_true, if_false]
  · simp only [hstate, false_and, Bool.false_eq_true, if_false]

/-- Once the thread has come to an end it takes no further message. -/
theorem onMessage_of_fault {c : Central} {fault : Fault} (hfault : c.fault = some fault)
    (msg : Multipart) : c.onMessage order yaml msg = (c, []) := by
  unfold onMessage
  rw [hfault]

/-! ## One message of three frames -/

section OnMessage

variable {c : Central} {sender msgState data : String}

theorem registrationHead_lt {clients : List String}
    (hlt : clients.length < c.expectedClient) :
    registrationHead c clients = ({ c with phase := .registering clients }, []) := by
  simp [registrationHead, hlt]

theorem registrationHead_ge {clients : List String}
    (hge : ¬ clients.length < c.expectedClient) :
    registrationHead c clients =
      ({ c with state := c.state.nextState.2, connectedClients := clients
                phase := .collecting UnorderedMap.empty },
        clients.map (strMSG c.state.nextState.2 c.state.nextState.2.toString)) := by
  simp [registrationHead, hge]

/-- In the registration loop. -/
theorem onMessage_registering {clients : List String} (hfault : c.fault = none)
    (hphase : c.phase = .registering clients) (hlt : clients.length < c.expectedClient) :
    c.onMessage order yaml [sender, msgState, data] =
      if sender ∈ clients then (c, [[sender, "connected"]])
      else if msgState = c.state.toString then
        match registered order yaml c.db sender data with
        | none => ({ c with fault := some .exception }, [])
        | some db =>
          ((registrationHead { c with db } (clients ++ [sender])).1,
            [sender, "connected"] :: (registrationHead { c with db } (clients ++ [sender])).2)
      else (c, [[sender, c.state.toString]]) := by
  have hstay : registrationHead c clients = (c, []) := by
    rw [registrationHead_lt hlt, ← hphase]
  obtain ⟨state, expectedClient, connectedClients, db, replies, phase, fault⟩ := c
  subst hfault hphase
  simp only [onMessage]
  by_cases hmem : sender ∈ clients
  · rw [if_pos hmem]
    simp only [registerRound_of_mem hmem, hstay]
  · rw [if_neg hmem]
    by_cases hstate : msgState = state.toString
    · rw [if_pos hstate, hstate, registerRound_of_eq hmem]
      cases registered order yaml db sender data with
      | none => rfl
      | some db => rfl
    · rw [if_neg hstate]
      simp only [registerRound_of_ne hmem hstate, hstay]

/-- In the request loop. -/
theorem onMessage_collecting {requestMap : UnorderedMap String (List String)}
    (hfault : c.fault = none) (hphase : c.phase = .collecting requestMap) :
    c.onMessage order yaml [sender, msgState, data] =
      if msgState = c.state.toString ∧ requestMap.find? sender = none then
        match (yaml.load data).bind (requestedNames yaml) with
        | none => ({ c with fault := some .exception }, [])
        | some dataRequested =>
          if (requestMap.assign sender dataRequested).size = c.connectedClients.length then
            answerRequests order c (requestMap.assign sender dataRequested)
          else ({ c with phase := .collecting (requestMap.assign sender dataRequested) }, [])
      else (c, []) := by
  obtain ⟨state, expectedClient, connectedClients, db, replies, phase, fault⟩ := c
  subst hfault hphase
  simp only [onMessage]
  by_cases htake : msgState = state.toString ∧ requestMap.find? sender = none
  · rw [if_pos htake]
    obtain ⟨rfl, hnew⟩ := htake
    rw [requestRound_of_new hnew]
    cases (yaml.load data).bind (requestedNames yaml) with
    | none => rfl
    | some dataRequested => rfl
  · rw [if_neg htake, requestRound_discard htake]

/-- In the last loop. -/
theorem onMessage_subscribing {requestMap : UnorderedMap String (List String)}
    {toCheckSubscriptions : List String} (hfault : c.fault = none)
    (hphase : c.phase = .subscribing requestMap toCheckSubscriptions) :
    c.onMessage order yaml [sender, msgState, data] =
      if strcmpEq msgState "syncronization" = true ∧
          toCheckSubscriptions.any (strcmpEq sender) = true then
        ({ c with phase :=
            .subscribing requestMap (toCheckSubscriptions.eraseP (strcmpEq sender)) },
          if (toCheckSubscriptions.eraseP (strcmpEq sender)).length = 0
            then c.connectedClients.map (strMSG c.state "AllSubscribed") else [])
      else (c, []) := by
  obtain ⟨state, expectedClient, connectedClients, db, replies, phase, fault⟩ := c
  subst hfault hphase
  simp only [onMessage, subscriptionRound_eq]
  split
  · rfl
  · rfl

end OnMessage

end Central

end ComuFrame
