import ComuFrame.Central.Requests

/-!
# ComuFrame — the subscription barrier, on whatever messages arrive

The last loop crosses a client off `toCheckSubscriptions` for every "syncronization" message
and broadcasts "AllSubscribed" when the list is empty. It compares with `strcmp`, which stops
at a NUL, where the loops before it compare whole strings; the identities ROUTER makes up for
peers without one begin with a NUL, so `strcmp` takes them all for the same.

* `waits_runOn` — the invariant: up to what `strcmp` sees, the list is the clients not heard
  yet;
* `barrier_iff` — the barrier is kept exactly when `strcmp` takes no message that should
  change nothing for one of a client still waited for.
-/

namespace ComuFrame

open Cpp Arrivals

namespace Central

/-! ## What the loop is for -/

/-- The clients the last loop waits for. -/
def toCheckSubscriptions (c : Central) : List String :=
  match c.phase with
  | .registering _ => []
  | .collecting _ => []
  | .subscribing _ toCheckSubscriptions => toCheckSubscriptions

/-- The thread as it enters the last loop. -/
structure EntersBarrier (c : Central) : Prop where
  running : c.fault = none
  phase : ∃ requestMap, c.phase = .subscribing requestMap c.connectedClients

/-- Every client occurs as the sender of a message with state "syncronization". -/
def AllHeard (c : Central) (msgs : List Message) : Prop :=
  ∀ client ∈ c.connectedClients, client ∈ heard "syncronization" msgs

instance (c : Central) (msgs : List Message) : Decidable (c.AllHeard msgs) :=
  inferInstanceAs (Decidable (∀ client ∈ c.connectedClients, _))

/-- A message of a stranger, of a client heard before, or in another state. -/
def Idle (c : Central) (before : List Message) (msg : Message) : Prop :=
  msg.sender ∉ c.connectedClients ∨ msg.sender ∈ heard "syncronization" before ∨
    msg.msgState ≠ "syncronization"

/-- "AllSubscribed", once for each client. -/
def allSubscribed (c : Central) : List Multipart :=
  c.connectedClients.map (strMSG c.state "AllSubscribed")

/-- What the thread that entered the loop as `c` sends when it gets `msg` behind `before`. -/
def sentFor (order : HashOrder String) (yaml : YamlCpp) (c : Central) (before : List Message)
    (msg : Message) : List Multipart :=
  ((c.runOn order yaml before).onMessage order yaml msg.frames).2

structure Barrier (order : HashOrder String) (yaml : YamlCpp) (c : Central)
    (msgs : List Message) : Prop where
  /-- "AllSubscribed" is sent if and only if everybody is heard. -/
  sent_iff : (∃ before msg after, msgs = before ++ msg :: after ∧
    sentFor order yaml c before msg ≠ []) ↔ c.AllHeard msgs
  /-- It is sent at the message by which everybody is heard, to each client, and nothing else
  is ever sent. -/
  sent : AtEach (fun before msg => sentFor order yaml c before msg =
    if c.AllHeard (before ++ [msg]) ∧ ¬ c.AllHeard before then c.allSubscribed else []) msgs
  idle : AtEach (fun before msg => Idle c before msg →
    (c.runOn order yaml (before ++ [msg])).toCheckSubscriptions
      = (c.runOn order yaml before).toCheckSubscriptions) msgs

/-- No message that should change nothing is, for `strcmp`, one of a client not heard yet. -/
def ToldApart (c : Central) (msgs : List Message) : Prop :=
  AtEach (fun before msg => Idle c before msg → strcmpEq msg.msgState "syncronization" = true →
    ∀ client ∈ c.connectedClients, strcmpEq msg.sender client = true →
      client ∈ heard "syncronization" before) msgs

/-! ## Clients not heard yet -/

def unheard (c : Central) (msgs : List Message) : List String :=
  c.connectedClients.filter fun client => client ∉ heard "syncronization" msgs

theorem mem_unheard {c : Central} {msgs : List Message} {client : String} :
    client ∈ c.unheard msgs ↔
      client ∈ c.connectedClients ∧ client ∉ heard "syncronization" msgs := by
  simp [unheard]

theorem unheard_eq_nil_iff {c : Central} {msgs : List Message} :
    c.unheard msgs = [] ↔ c.AllHeard msgs := by
  simp [unheard, AllHeard]

theorem heard_snoc {text : String} {msgs : List Message} {msg : Message} {client : String} :
    client ∈ heard text (msgs ++ [msg]) ↔
      client ∈ heard text msgs ∨ client = msg.sender ∧ msg.msgState = text := by
  by_cases hstate : msg.msgState = text
  · simp [heard, naming_snoc_of_eq hstate, hstate]
  · simp [heard, naming_snoc_of_ne hstate, hstate]

section Unheard

variable {c : Central} {msgs : List Message} {msg : Message}

theorem unheard_snoc_of_idle (hidle : Idle c msgs msg) :
    c.unheard (msgs ++ [msg]) = c.unheard msgs := by
  apply List.filter_congr
  intro client hclient
  rw [decide_eq_decide, not_iff_not, heard_snoc, or_iff_left_of_imp]
  intro ⟨hsender, hstate⟩
  rcases hidle with hstranger | hbefore | hother
  · exact absurd (hsender ▸ hclient) hstranger
  · exact hsender ▸ hbefore
  · exact absurd hstate hother

theorem unheard_snoc_of_not_idle (hnodup : c.connectedClients.Nodup)
    (hnew : ¬ Idle c msgs msg) :
    c.unheard (msgs ++ [msg]) = (c.unheard msgs).erase msg.sender := by
  simp only [Idle, not_or, not_not] at hnew
  have hnodup' : (c.unheard msgs).Nodup := hnodup.filter _
  rw [hnodup'.erase_eq_filter, unheard, unheard, List.filter_filter]
  apply List.filter_congr
  intro client _
  rw [Bool.eq_iff_iff]
  simp [heard_snoc, hnew.2.2, and_comm]

end Unheard

/-! ## The list, as `strcmp` sees it -/

/-- The entry `strcmp` finds first is crossed off, whichever of its equals it is. -/
theorem map_cStr_eraseP (clients : List String) (sender : String) :
    (clients.eraseP (strcmpEq sender)).map cStr = (clients.map cStr).erase (cStr sender) := by
  rw [List.erase_eq_eraseP, List.eraseP_map]
  rfl

theorem any_strcmpEq_iff {clients : List String} {sender : String} :
    clients.any (strcmpEq sender) = true ↔ cStr sender ∈ clients.map cStr := by
  rw [List.any_eq_true, List.mem_map]
  apply exists_congr
  intro client
  rw [strcmpEq, beq_iff_eq, eq_comm]

/-- The thread `c'` waits for the clients not heard in `msgs`. -/
structure Waits (c : Central) (msgs : List Message) (c' : Central) : Prop where
  eq : ∃ requestMap, c' = { c with phase := .subscribing requestMap c'.toCheckSubscriptions }
  perm : (c'.toCheckSubscriptions.map cStr).Perm ((c.unheard msgs).map cStr)

variable (order : HashOrder String) (yaml : YamlCpp) {c c' : Central} {msgs : List Message}
  {msg : Message}

/-- One message in the last loop. -/
theorem Waits.onMessage_eq (hc : c.EntersBarrier) (h : Waits c msgs c') (msg : Message) :
    ∃ requestMap, c'.onMessage order yaml msg.frames =
      if strcmpEq msg.msgState "syncronization" = true ∧
          c'.toCheckSubscriptions.any (strcmpEq msg.sender) = true then
        ({ c with
            phase := .subscribing requestMap
              (c'.toCheckSubscriptions.eraseP (strcmpEq msg.sender)) },
          if (c'.toCheckSubscriptions.eraseP (strcmpEq msg.sender)).length = 0
            then c.allSubscribed else [])
      else (c', []) := by
  obtain ⟨requestMap, heq⟩ := h.eq
  generalize c'.toCheckSubscriptions = toCheckSubscriptions at *
  refine ⟨requestMap, ?_⟩
  rw [Message.frames, heq]
  exact onMessage_subscribing hc.running rfl

/-- `strcmp` finds the sender in the list exactly when it finds it among the clients not
heard yet. -/
theorem Waits.any_iff (h : Waits c msgs c') {sender : String} :
    c'.toCheckSubscriptions.any (strcmpEq sender) = true ↔
      ∃ client ∈ c.unheard msgs, strcmpEq sender client = true := by
  rw [any_strcmpEq_iff, h.perm.mem_iff, ← any_strcmpEq_iff, List.any_eq_true]

theorem Waits.length_eq (h : Waits c msgs c') :
    c'.toCheckSubscriptions.length = (c.unheard msgs).length := by
  have := h.perm.length_eq
  rwa [List.length_map, List.length_map] at this

/-- A client heard for the first time is crossed off, and whoever was not heard stays. -/
theorem Waits.hear (hc : c.EntersBarrier) (hnodup : c.connectedClients.Nodup)
    (h : Waits c msgs c') (hnew : ¬ Idle c msgs msg) :
    Waits c (msgs ++ [msg]) (c'.onMessage order yaml msg.frames).1 ∧
    (c'.onMessage order yaml msg.frames).2
      = if c.AllHeard (msgs ++ [msg]) then c.allSubscribed else [] := by
  have hunheard := unheard_snoc_of_not_idle hnodup hnew
  simp only [Idle, not_or, not_not] at hnew
  obtain ⟨hclient, hbefore, hstate⟩ := hnew
  have hmem : msg.sender ∈ c.unheard msgs := mem_unheard.mpr ⟨hclient, hbefore⟩
  obtain ⟨requestMap, hround⟩ := h.onMessage_eq order yaml hc msg
  rw [if_pos ⟨by rw [hstate]; exact strcmpEq_self _,
    h.any_iff.mpr ⟨msg.sender, hmem, strcmpEq_self _⟩⟩] at hround
  have hperm : ((c'.toCheckSubscriptions.eraseP (strcmpEq msg.sender)).map cStr).Perm
      ((c.unheard (msgs ++ [msg])).map cStr) := by
    rw [map_cStr_eraseP, hunheard]
    refine (h.perm.erase _).trans ?_
    have hsplit := (List.perm_cons_erase hmem).map cStr
    rw [List.map_cons] at hsplit
    exact (hsplit.erase _).trans (by rw [List.erase_cons_head])
  have hwaits : Waits c (msgs ++ [msg])
      { c with
        phase := .subscribing requestMap
          (c'.toCheckSubscriptions.eraseP (strcmpEq msg.sender)) } :=
    ⟨⟨requestMap, rfl⟩, hperm⟩
  rw [hround]
  refine ⟨hwaits, ?_⟩
  show (if (c'.toCheckSubscriptions.eraseP (strcmpEq msg.sender)).length = 0
    then c.allSubscribed else []) = _
  have hlen : (c'.toCheckSubscriptions.eraseP (strcmpEq msg.sender)).length
      = (c.unheard (msgs ++ [msg])).length := hwaits.length_eq
  rw [hlen]
  exact if_congr (List.length_eq_zero_iff.trans unheard_eq_nil_iff) rfl rfl

/-- A message that should change nothing changes nothing, if `strcmp` sees it that way. -/
theorem Waits.pass (hc : c.EntersBarrier) (h : Waits c msgs c') (hidle : Idle c msgs msg)
    (htold : strcmpEq msg.msgState "syncronization" = true →
      ∀ client ∈ c.connectedClients, strcmpEq msg.sender client = true →
        client ∈ heard "syncronization" msgs) :
    c'.onMessage order yaml msg.frames = (c', []) ∧ Waits c (msgs ++ [msg]) c' := by
  refine ⟨?_, h.eq, by rw [unheard_snoc_of_idle hidle]; exact h.perm⟩
  obtain ⟨requestMap, hround⟩ := h.onMessage_eq order yaml hc msg
  rw [hround, if_neg]
  intro ⟨hstate, hany⟩
  obtain ⟨client, hclient, hsender⟩ := h.any_iff.mp hany
  obtain ⟨hconnected, hnot⟩ := mem_unheard.mp hclient
  exact hnot (htold hstate client hconnected hsender)

/-- Otherwise it crosses somebody off. -/
theorem Waits.shrinks (hc : c.EntersBarrier) (h : Waits c msgs c') {client : String}
    (hstate : strcmpEq msg.msgState "syncronization" = true)
    (hclient : client ∈ c.unheard msgs) (hsender : strcmpEq msg.sender client = true) :
    (c'.onMessage order yaml msg.frames).1.toCheckSubscriptions ≠ c'.toCheckSubscriptions := by
  obtain ⟨requestMap, hround⟩ := h.onMessage_eq order yaml hc msg
  have hany := h.any_iff.mpr ⟨client, hclient, hsender⟩
  rw [hround, if_pos ⟨hstate, hany⟩]
  obtain ⟨entry, hentry, heq⟩ := List.any_eq_true.mp hany
  have hlen := List.length_eraseP_of_mem hentry heq
  have hpos := List.length_pos_of_mem hentry
  intro hsame
  have hlen' := congrArg List.length hsame
  simp only [toCheckSubscriptions] at hlen' hlen hpos
  omega

/-! ## The run of the loop -/

/-- **The invariant**, as long as `strcmp` tells the messages apart. Induction on the
messages, the last one first. -/
theorem waits_runOn (hc : c.EntersBarrier) (hnodup : c.connectedClients.Nodup)
    (htold : ToldApart c msgs) : Waits c msgs (c.runOn order yaml msgs) := by
  induction msgs using List.reverseRecOn with
  | nil =>
    obtain ⟨requestMap, hphase⟩ := hc.phase
    have hlist : c.toCheckSubscriptions = c.connectedClients := by
      rw [toCheckSubscriptions, hphase]
    refine ⟨⟨requestMap, ?_⟩, ?_⟩
    · rw [runOn_nil, hlist, ← hphase]
    · rw [runOn_nil, hlist]
      simp [unheard, heard, naming]
  | append_singleton msgs msg ih =>
    obtain ⟨hbefore, hlast⟩ := atEach_snoc.mp htold
    have hwaits := ih hbefore
    rw [runOn_snoc]
    by_cases hidle : Idle c msgs msg
    · obtain ⟨hround, hwaits'⟩ := hwaits.pass order yaml hc hidle
        (hlast hidle)
      rw [hround]
      exact hwaits'
    · exact (hwaits.hear order yaml hc hnodup hidle).1

/-- What is sent at one message, given the invariant. -/
theorem sentFor_eq (hc : c.EntersBarrier) (hnodup : c.connectedClients.Nodup)
    (htold : ToldApart c (msgs ++ [msg])) : sentFor order yaml c msgs msg =
      if c.AllHeard (msgs ++ [msg]) ∧ ¬ c.AllHeard msgs then c.allSubscribed else [] := by
  obtain ⟨hbefore, hlast⟩ := atEach_snoc.mp htold
  have hwaits := waits_runOn order yaml hc hnodup hbefore
  rw [sentFor]
  by_cases hidle : Idle c msgs msg
  · obtain ⟨hround, -⟩ := hwaits.pass order yaml hc hidle (hlast hidle)
    rw [hround, if_neg]
    intro ⟨hafter, hnot⟩
    rw [← unheard_eq_nil_iff, unheard_snoc_of_idle hidle, unheard_eq_nil_iff] at hafter
    exact hnot hafter
  · rw [(hwaits.hear order yaml hc hnodup hidle).2]
    -- the sender itself was missing before
    have hnot : ¬ c.AllHeard msgs := fun hall => hidle (by
      by_cases hclient : msg.sender ∈ c.connectedClients
      · exact .inr (.inl (hall _ hclient))
      · exact .inl hclient)
    exact if_congr (by simp [hnot]) rfl rfl

theorem AllHeard.not_nil (hne : c.connectedClients ≠ []) : ¬ c.AllHeard [] := by
  intro hall
  obtain ⟨client, hclient⟩ := List.exists_mem_of_ne_nil _ hne
  simpa [heard, naming] using hall client hclient

theorem AllHeard.append (h : c.AllHeard msgs) (msgs' : List Message) :
    c.AllHeard (msgs ++ msgs') := by
  intro client hclient
  rw [heard, naming, List.filter_append, List.map_append]
  exact List.mem_append_left _ (h client hclient)

/-- A message that `strcmp` takes for one of a client still waited for changes the list.
Induction on the messages: before the first such message the invariant holds. -/
theorem toldApart_of_idle (hc : c.EntersBarrier) (hnodup : c.connectedClients.Nodup)
    (hidle : AtEach (fun before msg => Idle c before msg →
      (c.runOn order yaml (before ++ [msg])).toCheckSubscriptions
        = (c.runOn order yaml before).toCheckSubscriptions) msgs) : ToldApart c msgs := by
  induction msgs using List.reverseRecOn with
  | nil => exact atEach_nil _
  | append_singleton msgs msg ih =>
    obtain ⟨hbefore, hlast⟩ := atEach_snoc.mp hidle
    have htold := ih hbefore
    have hwaits := waits_runOn order yaml hc hnodup htold
    refine atEach_snoc.mpr ⟨htold, fun hmsg hstate client hclient hsender => ?_⟩
    by_contra hnot
    have hsame := hlast hmsg
    rw [runOn_snoc] at hsame
    exact hwaits.shrinks order yaml hc hstate (mem_unheard.mpr ⟨hclient, hnot⟩) hsender hsame

theorem ToldApart.of_split (htold : ToldApart c msgs) {before after : List Message}
    (heq : msgs = before ++ msg :: after) : ToldApart c (before ++ [msg]) := by
  rw [heq, List.append_cons] at htold
  exact htold.of_append

theorem barrier_of_toldApart (hc : c.EntersBarrier) (hne : c.connectedClients ≠ [])
    (hnodup : c.connectedClients.Nodup) (htold : ToldApart c msgs) :
    Barrier order yaml c msgs := by
  have hsent : AtEach (fun before msg => sentFor order yaml c before msg =
      if c.AllHeard (before ++ [msg]) ∧ ¬ c.AllHeard before then c.allSubscribed else [])
      msgs := fun before msg after heq => sentFor_eq order yaml hc hnodup (htold.of_split heq)
  refine ⟨⟨?_, ?_⟩, hsent, ?_⟩
  · intro ⟨before, msg, after, heq, hsome⟩
    rw [hsent before msg after heq] at hsome
    by_cases hall : c.AllHeard (before ++ [msg]) ∧ ¬ c.AllHeard before
    · rw [heq, List.append_cons]
      exact hall.1.append after
    · exact absurd (if_neg hall) hsome
  · intro hall
    obtain ⟨before, msg, after, heq, hnot, hturn⟩ :=
      exists_turning (AllHeard.not_nil hne) hall
    refine ⟨before, msg, after, heq, ?_⟩
    rw [hsent before msg after heq, if_pos ⟨hturn, hnot⟩, allSubscribed]
    simpa using hne
  · intro before msg after heq hmsg
    obtain ⟨hbefore, hlast⟩ := atEach_snoc.mp (htold.of_split heq)
    have hwaits := waits_runOn order yaml hc hnodup hbefore
    rw [runOn_snoc, (hwaits.pass order yaml hc hmsg (hlast hmsg)).1]

/-- **When the barrier holds**: exactly when, for `strcmp`, no message of a stranger, of a
client heard before or in another state is one of a client not heard yet. -/
theorem barrier_iff (order : HashOrder String) (yaml : YamlCpp) {c : Central}
    (hc : c.EntersBarrier) (hne : c.connectedClients ≠ []) (hnodup : c.connectedClients.Nodup)
    (msgs : List Message) : Barrier order yaml c msgs ↔ ToldApart c msgs := by
  constructor
  · intro hbarrier
    exact toldApart_of_idle order yaml hc hnodup hbarrier.idle
  · intro htold
    exact barrier_of_toldApart order yaml hc hne hnodup htold

/-- Without NULs `strcmp` compares whole strings, and the barrier always holds. -/
theorem toldApart_of_notMem {c : Central} {msgs : List Message}
    (hclients : ∀ client ∈ c.connectedClients, '\x00' ∉ client.toList)
    (hmsgs : ∀ msg ∈ msgs, '\x00' ∉ msg.sender.toList ∧ '\x00' ∉ msg.msgState.toList) :
    ToldApart c msgs := by
  intro before msg after heq hidle hstate client hclient hsender
  obtain ⟨hmsgSender, hmsgState⟩ := hmsgs msg (by simp [heq])
  have hstate' := (strcmpEq_iff hmsgState (by decide)).mp hstate
  have hsender' := (strcmpEq_iff hmsgSender (hclients client hclient)).mp hsender
  rcases hidle with hstranger | hbefore | hother
  · exact absurd (hsender' ▸ hclient) hstranger
  · exact hsender' ▸ hbefore
  · exact absurd hstate' hother

/-- The thread in front of the barrier, all requests answered. -/
def atBarrier (connectedClients : List String) : Central :=
  { init connectedClients.length with
    state := Fsm.init.nextState.2, connectedClients
    phase := .subscribing UnorderedMap.empty connectedClients }

theorem barrier_sample :
    Barrier (HashOrder.insertion String) YamlCpp.textless (atBarrier ["A", "B"])
      [⟨"A", "syncronization", "subscribed"⟩, ⟨"C", "syncronization", "subscribed"⟩,
        ⟨"A", "syncronization", "subscribed"⟩, ⟨"B", "syncronization", "subscribed"⟩] :=
  (barrier_iff _ _ ⟨rfl, _, rfl⟩ (by decide) (by decide) _).mpr
    (toldApart_of_notMem (by decide) (by decide))

/-- Two Nodes without an identity: ROUTER names them with a NUL in front, and a second message
of one counts for the other. -/
theorem not_barrier : ¬ ∀ (order : HashOrder String) (yaml : YamlCpp) (c : Central),
    c.EntersBarrier → c.connectedClients ≠ [] → c.connectedClients.Nodup →
      ∀ msgs, Barrier order yaml c msgs := by
  intro hbarrier
  have hsent := hbarrier (HashOrder.insertion String) YamlCpp.textless
    (atBarrier ["\x00AAAA", "\x00AAAB"]) ⟨rfl, _, rfl⟩ (by decide) (by decide)
    [⟨"\x00AAAA", "syncronization", "subscribed"⟩, ⟨"\x00AAAA", "syncronization", "subscribed"⟩]
  have hall := hsent.sent_iff.mp ⟨[⟨"\x00AAAA", "syncronization", "subscribed"⟩],
    ⟨"\x00AAAA", "syncronization", "subscribed"⟩, [], rfl, by decide⟩
  exact absurd hall (by decide)

end Central

end ComuFrame
