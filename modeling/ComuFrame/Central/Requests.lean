import ComuFrame.Central.Arrivals

/-!
# ComuFrame — the request loop, on whatever messages arrive

The loop that fills `requestMap` stops on a count: as many entries as there are connected
clients. It takes the first message of any sender that names Central's state, and unlike the
loop after it does not ask whether the sender is a client.

* `runOn_collecting` — the run: `requestMap` holds the decoded first messages, in order, until
  there are enough of them or one cannot be decoded;
* `collectsRequests_iff` — so the loop ends with the requests of the clients exactly when the
  senders it counted are clients.
-/

namespace ComuFrame

open Cpp Arrivals

namespace Central

/-! ## What the loop is for -/

/-- The names a message asks for; `none` when the decoding throws. -/
def requestOf (yaml : YamlCpp) (msg : Message) : Option (List String) :=
  (yaml.load msg.data).bind (requestedNames yaml)

/-- The thread as it enters the request loop. -/
structure EntersRequests (c : Central) : Prop where
  running : c.fault = none
  phase : c.phase = .collecting UnorderedMap.empty
  state : c.state = Fsm.init.nextState.2

/-- The head of the registration loop leads there once the expected clients are registered. -/
theorem entersRequests_of_full {c : Central} {clients : List String} (hfault : c.fault = none)
    (hstate : c.state = Fsm.init) (hfull : ¬ clients.length < c.expectedClient) :
    (registrationHead c clients).1.EntersRequests := by
  rw [registrationHead_ge hfull]
  exact ⟨hfault, rfl, by rw [hstate]⟩

/-- When the thread has left the loop, exactly the clients have a request, each of them the
one its first message in Central's state decodes to. -/
def CollectsRequests (order : HashOrder String) (yaml : YamlCpp) (c : Central)
    (msgs : List Message) : Prop :=
  ∀ requestMap toCheckSubscriptions,
    (c.runOn order yaml msgs).phase = .subscribing requestMap toCheckSubscriptions →
    (∀ client, client ∈ requestMap.keys ↔ client ∈ c.connectedClients) ∧
    ∀ client ∈ c.connectedClients, ∃ msg names,
      msgs.find? (fun msg => msg.sender = client ∧ msg.msgState = "syncronization") = some msg ∧
      requestOf yaml msg = some names ∧ requestMap.find? client = some names

/-- The messages the loop counts: the first of each sender, up to the number of clients. -/
def counted (c : Central) (msgs : List Message) : List Message :=
  (firstNaming "syncronization" msgs).take c.connectedClients.length

/-- The loop can be left: there are enough messages to count, and all of them decode. -/
def Filled (yaml : YamlCpp) (c : Central) (msgs : List Message) : Prop :=
  c.connectedClients.length ≤ (firstNaming "syncronization" msgs).length ∧
    ∀ msg ∈ c.counted msgs, ∃ names, requestOf yaml msg = some names

/-- `requestMap` has one node for each of the messages, in their order. -/
def HoldsRequests (yaml : YamlCpp) (requestMap : UnorderedMap String (List String))
    (msgs : List Message) : Prop :=
  requestMap.nodes.map (fun entry => (entry.1, some entry.2))
    = msgs.map fun msg => (msg.sender, requestOf yaml msg)

section HoldsRequests

variable {yaml : YamlCpp} {requestMap : UnorderedMap String (List String)}
  {msgs : List Message} (h : HoldsRequests yaml requestMap msgs)

include h

theorem HoldsRequests.keys : requestMap.keys = msgs.map Message.sender := by
  have hfst := congrArg (List.map Prod.fst) h
  simpa [Function.comp_def, UnorderedMap.keys] using hfst

theorem HoldsRequests.size : requestMap.size = msgs.length := by
  rw [← UnorderedMap.length_keys, h.keys, List.length_map]

/-- A message of the list, and what is stored for it. -/
theorem HoldsRequests.find? {msg : Message} (hmsg : msg ∈ msgs) :
    ∃ names, requestOf yaml msg = some names ∧ requestMap.find? msg.sender = some names := by
  have hmem : (msg.sender, requestOf yaml msg)
      ∈ requestMap.nodes.map fun entry => (entry.1, some entry.2) := by
    rw [h]
    exact List.mem_map_of_mem hmsg
  obtain ⟨entry, hentry, heq⟩ := List.mem_map.mp hmem
  obtain ⟨hfst, hsnd⟩ := Prod.mk.inj heq
  exact ⟨entry.2, hsnd.symm, UnorderedMap.find?_eq_some.mpr (hfst ▸ hentry)⟩

theorem HoldsRequests.assign {msg : Message} {names : List String}
    (hnew : msg.sender ∉ requestMap.keys) (hnames : requestOf yaml msg = some names) :
    HoldsRequests yaml (requestMap.assign msg.sender names) (msgs ++ [msg]) := by
  rw [HoldsRequests, UnorderedMap.nodes_assign_of_notMem hnew, List.map_append, h,
    List.map_append, List.map_singleton, List.map_singleton, hnames]

end HoldsRequests

/-! ## The run of the loop -/

/-- Where a thread that entered the loop as `c` is after `msgs`. -/
inductive Collecting (yaml : YamlCpp) (c : Central) (msgs : List Message) (c' : Central) :
    Prop where
  | waits (requestMap : UnorderedMap String (List String))
      (heq : c' = { c with phase := .collecting requestMap })
      (hholds : HoldsRequests yaml requestMap (firstNaming "syncronization" msgs))
      (hfew : (firstNaming "syncronization" msgs).length < c.connectedClients.length)
  | leaves (requestMap : UnorderedMap String (List String)) (toCheckSubscriptions : List String)
      (hphase : c'.phase = .subscribing requestMap toCheckSubscriptions)
      (hholds : HoldsRequests yaml requestMap (c.counted msgs))
      (henough : c.connectedClients.length ≤ (firstNaming "syncronization" msgs).length)
  | throws (requestMap : UnorderedMap String (List String)) (msg : Message)
      (hphase : c'.phase = .collecting requestMap) (hfault : c'.fault = some .exception)
      (hmsg : msg ∈ c.counted msgs) (hnone : requestOf yaml msg = none)

variable (order : HashOrder String) (yaml : YamlCpp) {c : Central}

/-- The last loop keeps the requests. -/
theorem phase_onMessage_subscribing {requestMap : UnorderedMap String (List String)}
    {toCheckSubscriptions : List String} (msg : Message)
    (hphase : c.phase = .subscribing requestMap toCheckSubscriptions) :
    ∃ toCheckSubscriptions', (c.onMessage order yaml msg.frames).1.phase
      = .subscribing requestMap toCheckSubscriptions' := by
  cases hfault : c.fault with
  | some fault => exact ⟨toCheckSubscriptions, by rw [onMessage_of_fault hfault]; exact hphase⟩
  | none =>
    rw [Message.frames, onMessage_subscribing hfault hphase]
    split
    · exact ⟨_, rfl⟩
    · exact ⟨toCheckSubscriptions, hphase⟩

section Waiting

variable {msgs : List Message} {requestMap : UnorderedMap String (List String)} {msg : Message}
  (hc : c.EntersRequests)
  (hholds : HoldsRequests yaml requestMap (firstNaming "syncronization" msgs))
  (hfew : (firstNaming "syncronization" msgs).length < c.connectedClients.length)

include hc hholds

/-- The thread that waits takes a message if it names the state and its sender has no entry. -/
theorem onMessage_waiting :
    ({ c with phase := .collecting requestMap } : Central).onMessage order yaml msg.frames =
      if msg.msgState = "syncronization" ∧ msg.sender ∉ heard "syncronization" msgs then
        match requestOf yaml msg with
        | none =>
          ({ c with phase := .collecting requestMap, fault := some .exception }, [])
        | some names =>
          let requestMap := requestMap.assign msg.sender names
          if requestMap.size = c.connectedClients.length then answerRequests order c requestMap
          else ({ c with phase := .collecting requestMap }, [])
      else ({ c with phase := .collecting requestMap }, []) := by
  have hstate : c.state.toString = "syncronization" := by
    rw [hc.state, Fsm.toString_nextState_init]
  have hnone : requestMap.find? msg.sender = none ↔
      msg.sender ∉ heard "syncronization" msgs := by
    rw [UnorderedMap.find?_eq_none, hholds.keys, mem_heard_iff]
  have hrunning : ({ c with phase := .collecting requestMap } : Central).fault = none :=
    hc.running
  refine (onMessage_collecting hrunning rfl).trans ?_
  exact if_congr (and_congr (by rw [← hstate]) hnone) rfl rfl

include hfew

/-- It leaves with the entry that makes the count right, and waits on with any other. -/
theorem Collecting.take (hmsgState : msg.msgState = "syncronization")
    (hnew : msg.sender ∉ heard "syncronization" msgs) :
    Collecting yaml c (msgs ++ [msg])
      (({ c with phase := .collecting requestMap } : Central).onMessage order yaml
        msg.frames).1 := by
  have hsnoc := firstNaming_snoc_of_new hmsgState hnew
  have hlen : (firstNaming "syncronization" (msgs ++ [msg])).length
      = (firstNaming "syncronization" msgs).length + 1 := by
    rw [hsnoc, List.length_append, List.length_singleton]
  have hcounted : c.counted (msgs ++ [msg]) = firstNaming "syncronization" (msgs ++ [msg]) := by
    rw [counted]
    exact List.take_of_length_le (by omega)
  rw [onMessage_waiting order yaml hc hholds, if_pos ⟨hmsgState, hnew⟩]
  cases hnames : requestOf yaml msg with
  | none => exact .throws requestMap msg rfl rfl (by rw [hcounted, hsnoc]; simp) hnames
  | some names =>
    have hholds' : HoldsRequests yaml (requestMap.assign msg.sender names)
        (firstNaming "syncronization" (msgs ++ [msg])) := by
      rw [hsnoc]
      apply hholds.assign _ hnames
      rw [hholds.keys]
      exact mt mem_heard_iff.mpr hnew
    simp only [hholds'.size]
    by_cases hfull : (firstNaming "syncronization" (msgs ++ [msg])).length
        = c.connectedClients.length
    · rw [if_pos hfull]
      exact .leaves _ _ rfl (by rwa [hcounted]) (Nat.le_of_eq hfull.symm)
    · rw [if_neg hfull]
      exact .waits _ rfl hholds' (by omega)

/-- Any other message is discarded. -/
theorem Collecting.discard
    (hdiscard : ¬ (msg.msgState = "syncronization" ∧ msg.sender ∉ heard "syncronization" msgs)) :
    Collecting yaml c (msgs ++ [msg])
      (({ c with phase := .collecting requestMap } : Central).onMessage order yaml
        msg.frames).1 := by
  have hsame : firstNaming "syncronization" (msgs ++ [msg])
      = firstNaming "syncronization" msgs := by
    by_cases hmsgState : msg.msgState = "syncronization"
    · exact firstNaming_snoc_of_mem (by_contra fun hnew => hdiscard ⟨hmsgState, hnew⟩)
    · exact firstNaming_snoc_of_ne hmsgState
  rw [onMessage_waiting order yaml hc hholds, if_neg hdiscard]
  exact .waits requestMap rfl (by rwa [hsame]) (by rwa [hsame])

end Waiting

/-- **One message in the loop.** -/
theorem Collecting.onMessage (hc : c.EntersRequests) {msgs : List Message} {c' : Central}
    (h : Collecting yaml c msgs c') (msg : Message) :
    Collecting yaml c (msgs ++ [msg]) (c'.onMessage order yaml msg.frames).1 := by
  cases h with
  | waits requestMap heq hholds hfew =>
    rw [heq]
    by_cases htake : msg.msgState = "syncronization" ∧ msg.sender ∉ heard "syncronization" msgs
    · exact .take order yaml hc hholds hfew htake.1 htake.2
    · exact .discard order yaml hc hholds hfew htake
  | leaves requestMap toCheckSubscriptions hphase hholds henough =>
    obtain ⟨toCheckSubscriptions', hphase'⟩ := phase_onMessage_subscribing order yaml msg hphase
    refine .leaves requestMap toCheckSubscriptions' hphase' ?_ ?_
    · rwa [counted, take_firstNaming_append henough]
    · exact Nat.le_trans henough (firstNaming_append _ _ _).length_le
  | throws requestMap bad hphase hfault hbad hnone =>
    rw [onMessage_of_fault hfault]
    exact .throws requestMap bad hphase hfault (take_firstNaming_subset _ _ _ _ hbad) hnone

/-- **The run.** Induction on the messages, the last one first. -/
theorem runOn_collecting (hc : c.EntersRequests) (hne : c.connectedClients ≠ [])
    (msgs : List Message) : Collecting yaml c msgs (c.runOn order yaml msgs) := by
  induction msgs using List.reverseRecOn with
  | nil =>
    refine .waits UnorderedMap.empty ?_ rfl (List.length_pos_iff.mpr hne)
    rw [← hc.phase]
    rfl
  | append_singleton msgs msg ih =>
    rw [runOn_snoc]
    exact ih.onMessage order yaml hc msg

/-- The loop is left exactly when there are enough messages to count and all of them decode. -/
theorem leaves_iff_filled (hc : c.EntersRequests) (hne : c.connectedClients ≠ [])
    (msgs : List Message) :
    (∃ requestMap toCheckSubscriptions,
      (c.runOn order yaml msgs).phase = .subscribing requestMap toCheckSubscriptions) ↔
    Filled yaml c msgs := by
  cases runOn_collecting order yaml hc hne msgs with
  | waits requestMap heq hholds hfew =>
    rw [heq]
    exact iff_of_false (by simp) fun hfilled => absurd hfilled.1 (by omega)
  | throws requestMap msg hphase hfault hmsg hnone =>
    refine iff_of_false (by simp [hphase]) fun hfilled => ?_
    obtain ⟨names, hnames⟩ := hfilled.2 msg hmsg
    exact absurd (hnames.symm.trans hnone) (by simp)
  | leaves requestMap toCheckSubscriptions hphase hholds henough =>
    exact iff_of_true ⟨requestMap, toCheckSubscriptions, hphase⟩
      ⟨henough, fun msg hmsg => (hholds.find? hmsg).imp fun _ h => h.1⟩

/-- What is in `requestMap` when the loop has been left. -/
theorem holdsRequests_of_left (hc : c.EntersRequests) (hne : c.connectedClients ≠ [])
    {msgs : List Message} {requestMap : UnorderedMap String (List String)}
    {toCheckSubscriptions : List String}
    (hleft : (c.runOn order yaml msgs).phase = .subscribing requestMap toCheckSubscriptions) :
    HoldsRequests yaml requestMap (c.counted msgs) ∧
      (c.counted msgs).length = c.connectedClients.length := by
  cases runOn_collecting order yaml hc hne msgs with
  | waits requestMap' heq hholds hfew => simp [heq] at hleft
  | throws requestMap' msg hphase hfault hmsg hnone => simp [hphase] at hleft
  | leaves requestMap' toCheckSubscriptions' hphase hholds henough =>
    obtain ⟨hsame, -⟩ := Phase.subscribing.inj (hphase.symm.trans hleft)
    refine ⟨hsame ▸ hholds, ?_⟩
    rw [counted, List.length_take]
    omega

/-! ## Whose requests they are -/

/-- As many different senders as clients, all of them clients, are the clients. -/
theorem mem_iff_of_subset {senders clients : List String} (hnodup : senders.Nodup)
    (hsub : ∀ sender ∈ senders, sender ∈ clients) (hlen : clients.length ≤ senders.length)
    (client : String) : client ∈ senders ↔ client ∈ clients :=
  ((List.subperm_of_subset hnodup hsub).perm_of_length_le hlen).mem_iff

/-- **When the loop collects the requests of the clients**: exactly when it is not left at
all, or every sender it counts is a client. -/
theorem collectsRequests_iff (order : HashOrder String) (yaml : YamlCpp) {c : Central}
    (hc : c.EntersRequests) (hne : c.connectedClients ≠ []) (msgs : List Message) :
    CollectsRequests order yaml c msgs ↔
      (Filled yaml c msgs → ∀ msg ∈ c.counted msgs, msg.sender ∈ c.connectedClients) := by
  rw [← leaves_iff_filled order yaml hc hne]
  constructor
  · intro hcollects ⟨requestMap, toCheckSubscriptions, hphase⟩ msg hmsg
    obtain ⟨hholds, -⟩ := holdsRequests_of_left order yaml hc hne hphase
    rw [← (hcollects _ _ hphase).1, hholds.keys]
    exact List.mem_map_of_mem hmsg
  · intro hsenders requestMap toCheckSubscriptions hphase
    obtain ⟨hholds, hlen⟩ := holdsRequests_of_left order yaml hc hne hphase
    have hkeys : ∀ client, client ∈ requestMap.keys ↔ client ∈ c.connectedClients := by
      refine mem_iff_of_subset requestMap.keys_nodup (fun sender hsender => ?_) ?_
      · rw [hholds.keys] at hsender
        obtain ⟨msg, hmsg, hmsgSender⟩ := List.mem_map.mp hsender
        exact hmsgSender ▸ hsenders ⟨_, _, hphase⟩ msg hmsg
      · rw [hholds.keys, List.length_map, hlen]
    refine ⟨hkeys, fun client hclient => ?_⟩
    have hmem := (hkeys client).mpr hclient
    rw [hholds.keys] at hmem
    obtain ⟨msg, hmsg, hsender⟩ := List.mem_map.mp hmem
    obtain ⟨names, hnames, hfind⟩ := hholds.find? hmsg
    rw [← hsender]
    exact ⟨msg, names, find?_naming_iff.mpr (List.mem_of_mem_take hmsg), hnames, hfind⟩

/-- One client that asks for nothing, heard behind a stranger in another state. -/
theorem collectsRequests_sample :
    let yaml := YamlCpp.documented (fun _ => "") fun _ => some .null
    let c := (registrationHead (init 1) ["A"]).1
    CollectsRequests (HashOrder.insertion String) yaml c
      [⟨"B", "registration", ""⟩, ⟨"A", "syncronization", "~"⟩] :=
  (collectsRequests_iff _ _ (entersRequests_of_full rfl rfl (by decide)) (by decide) _).mpr
    fun _ => by decide

/-- A stranger that asks first takes the place of the only client. -/
theorem not_collectsRequests : ¬ ∀ (order : HashOrder String) (yaml : YamlCpp) (c : Central),
    c.EntersRequests → c.connectedClients ≠ [] → c.connectedClients.Nodup →
      ∀ msgs, CollectsRequests order yaml c msgs := by
  intro hcollects
  have hstranger := hcollects (HashOrder.insertion String)
    (.documented (fun _ => "") fun _ => some .null)
    (registrationHead (init 1) ["A"]).1
    (entersRequests_of_full rfl rfl (by decide)) (by decide) (by decide)
    [⟨"B", "syncronization", "~"⟩] (UnorderedMap.empty.assign "B" []) ["A"] rfl
  exact absurd ((hstranger.1 "B").mp (by decide)) (by decide)

end Central

end ComuFrame
