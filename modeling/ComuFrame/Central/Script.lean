import Mathlib.Data.List.Induction
import ComuFrame.Central.Frames

/-!
# ComuFrame — everything Central ever sends

Whatever its peers send, what Central sends follows one script: replies to registrations, then
its new state to every client, then the answers, then "AllSubscribed" to every client, and
then nothing any more. How far it has got is where its thread is (`announced`), and that is so
after any sequence of messages (`script`), with frames missing or not.
-/

namespace ComuFrame

open Cpp

namespace Central

variable {order : HashOrder String} {yaml : YamlCpp} {c : Central}

/-- What Central has sent besides replies to registrations, by where its thread is. -/
def announced (c : Central) : List Multipart :=
  match c.phase with
  | .registering _ => []
  | .collecting _ => c.connectedClients.map (strMSG c.state c.state.toString)
  | .subscribing _ toCheckSubscriptions =>
    c.connectedClients.map (strMSG c.state c.state.toString) ++ c.replies.map Reply.message ++
      (if toCheckSubscriptions = [] then c.connectedClients.map (strMSG c.state "AllSubscribed")
        else [])

/-- A reply to a message in the registration loop: to a client that it is one, to a stranger
that speaks of another state which one Central is in. -/
inductive RegisterReply (clients clients' : List String) (state : Fsm) :
    Multipart → Multipart → Prop where
  | connected (sender : String) (frames : Multipart) (hmem : sender ∈ clients') :
    RegisterReply clients clients' state (sender :: frames) [sender, "connected"]
  | other (sender msgState : String) (frames : Multipart) (hmem : sender ∉ clients)
      (hstate : msgState ≠ state.toString) :
    RegisterReply clients clients' state (sender :: msgState :: frames) [sender, state.toString]

/-- A round of the registration loop that goes through replies to the sender. -/
theorem registerRound_reply {state : Fsm} {db db' : DataBase} {clients clients' : List String}
    {msg reply : Multipart}
    (hround : registerRound order yaml state db clients msg = .ok (clients', db', reply)) :
    RegisterReply clients clients' state msg reply := by
  cases msg with
  | nil => simp [registerRound, bind, Except.bind] at hround
  | cons sender frames =>
    by_cases hmem : sender ∈ clients
    · rw [registerRound_of_mem hmem] at hround
      simp only [Except.ok.injEq, Prod.mk.injEq] at hround
      obtain ⟨rfl, rfl, rfl⟩ := hround
      exact .connected sender frames hmem
    · cases frames with
      | nil => simp [registerRound, bind, Except.bind, hmem] at hround
      | cons msgState frames =>
        by_cases hstate : msgState = state.toString
        · subst hstate
          cases frames with
          | nil => simp [registerRound_short hmem] at hround
          | cons packets frames =>
            rw [registerRound_of_eq hmem] at hround
            cases hdb : registered order yaml db sender packets with
            | none => simp [hdb, Except.map] at hround
            | some db'' =>
              simp only [hdb, orThrow_some, Except.map, Except.ok.injEq, Prod.mk.injEq] at hround
              obtain ⟨rfl, rfl, rfl⟩ := hround
              exact .connected sender _ (by simp)
        · rw [registerRound_of_ne hmem hstate] at hround
          simp only [Except.ok.injEq, Prod.mk.injEq] at hround
          obtain ⟨rfl, rfl, rfl⟩ := hround
          exact .other sender msgState frames hmem hstate

/-! ## One message -/

/-- Behind a round of the registration loop Central is where the head of the loop takes it. -/
theorem announced_registrationHead (c : Central) (clients : List String) :
    (registrationHead c clients).1.announced = (registrationHead c clients).2 := by
  unfold registrationHead
  split
  · rfl
  · rfl

theorem clients_registrationHead (c : Central) (clients : List String) :
    (registrationHead c clients).1.clients = clients := by
  unfold registrationHead
  split
  · rfl
  · rfl

/-- A round of the registration loop, whatever the frames of the message. -/
theorem onMessage_registerRound {clients : List String} (hfault : c.fault = none)
    (hphase : c.phase = .registering clients) (msg : Multipart) :
    c.onMessage order yaml msg =
      match registerRound order yaml c.state c.db clients msg with
      | .error fault => ({ c with fault := some fault }, [])
      | .ok (clients', db, reply) =>
        ((registrationHead { c with db } clients').1,
          reply :: (registrationHead { c with db } clients').2) := by
  obtain ⟨state, expectedClient, connectedClients, db, replies, phase, fault⟩ := c
  subst hfault hphase
  rfl

variable (order yaml) in
/-- In the registration loop. -/
theorem announced_registering {clients : List String} (hfault : c.fault = none)
    (hphase : c.phase = .registering clients) (msg : Multipart) :
    ∃ replies, (∀ reply ∈ replies,
        RegisterReply clients (c.onMessage order yaml msg).1.clients c.state msg reply) ∧
      (c.onMessage order yaml msg).2 = replies ++ (c.onMessage order yaml msg).1.announced := by
  rw [onMessage_registerRound hfault hphase]
  cases hround : registerRound order yaml c.state c.db clients msg with
  | error fault => exact ⟨[], by simp, by simp [announced, hphase]⟩
  | ok result =>
    obtain ⟨clients', db, reply⟩ := result
    refine ⟨[reply], fun reply' hmem => ?_, ?_⟩
    · obtain rfl := List.mem_singleton.mp hmem
      simp only [clients_registrationHead]
      exact registerRound_reply hround
    · simp only [announced_registrationHead]
      rfl

/-- In the request loop Central sends nothing but, behind the last request, the answers. -/
theorem announced_collecting {requestMap : UnorderedMap String (List String)}
    (hfault : c.fault = none) (hphase : c.phase = .collecting requestMap) (msg : Multipart) :
    (c.onMessage order yaml msg).1.announced
      = c.announced ++ (c.onMessage order yaml msg).2 := by
  unfold onMessage
  rw [hfault, hphase]
  simp only
  cases hround : requestRound yaml c.state requestMap msg with
  | error fault => simp [announced, hphase]
  | ok result =>
    cases result with
    | none => simp
    | some requestMap' =>
      simp only
      split
      · -- the list of the last loop is empty only if there is nobody to release
        simp only [announced, answerRequests, hphase, List.append_assoc]
        by_cases hnil : c.connectedClients = []
        · simp [hnil]
        · simp [hnil]
      · simp [announced, hphase]

/-- In the last loop it sends nothing but, with the last name, "AllSubscribed". -/
theorem announced_subscribing {requestMap : UnorderedMap String (List String)}
    {toCheckSubscriptions : List String} (hfault : c.fault = none)
    (hphase : c.phase = .subscribing requestMap toCheckSubscriptions) (msg : Multipart) :
    (c.onMessage order yaml msg).1.announced
      = c.announced ++ (c.onMessage order yaml msg).2 := by
  match msg with
  | [] => simp [onMessage, hfault, hphase, subscriptionRound, bind, Except.bind, announced]
  | [_] => simp [onMessage, hfault, hphase, subscriptionRound, bind, Except.bind, announced]
  | [_, _] => simp [onMessage, hfault, hphase, subscriptionRound_short, announced]
  | sender :: msgState :: data :: frames =>
    unfold onMessage
    rw [hfault, hphase]
    simp only [subscriptionRound_eq]
    by_cases hhear : strcmpEq msgState "syncronization" = true ∧
        toCheckSubscriptions.any (strcmpEq sender) = true
    · -- a name is crossed off, so there was one
      have hne : toCheckSubscriptions ≠ [] := by
        rintro rfl
        simp at hhear
      simp only [if_pos hhear, announced, hphase, if_neg hne, List.append_nil,
        List.length_eq_zero_iff]
    · rw [if_neg hhear]
      simp [announced, hphase]

/-! ## Any sequence of messages -/

/-- What Central sends while it takes the messages, one after the other. -/
def sentIn (order : HashOrder String) (yaml : YamlCpp) (c : Central) :
    List Multipart → List Multipart
  | [] => []
  | msg :: msgs =>
    (c.onMessage order yaml msg).2 ++ sentIn order yaml (c.onMessage order yaml msg).1 msgs

theorem run_append (c : Central) (msgs msgs' : List Multipart) :
    c.run order yaml (msgs ++ msgs') = (c.run order yaml msgs).run order yaml msgs' :=
  List.foldl_append

theorem sentIn_append (c : Central) (msgs msgs' : List Multipart) :
    c.sentIn order yaml (msgs ++ msgs')
      = c.sentIn order yaml msgs ++ (c.run order yaml msgs).sentIn order yaml msgs' := by
  induction msgs generalizing c with
  | nil => rfl
  | cons msg msgs ih =>
    rw [List.cons_append, sentIn, ih, sentIn, List.append_assoc]
    rfl

theorem sentIn_snoc (c : Central) (msgs : List Multipart) (msg : Multipart) :
    c.sentIn order yaml (msgs ++ [msg])
      = c.sentIn order yaml msgs ++ ((c.run order yaml msgs).onMessage order yaml msg).2 := by
  rw [sentIn_append, sentIn, sentIn, List.append_nil]

/-- Central's state while it registers is the one it starts in. -/
theorem state_registering_onMessage {msg : Multipart}
    (hstate : ∀ clients, c.phase = .registering clients → c.state = Fsm.init)
    (clients : List String)
    (hphase : (c.onMessage order yaml msg).1.phase = .registering clients) :
    (c.onMessage order yaml msg).1.state = Fsm.init := by
  unfold onMessage at hphase ⊢
  cases hfault : c.fault with
  | some fault =>
    simp only [hfault] at hphase ⊢
    exact hstate clients hphase
  | none =>
    cases hcase : c.phase with
    | registering clients' =>
      simp only [hfault, hcase] at hphase ⊢
      have hinit := hstate clients' hcase
      split
      · exact hinit
      · next clients'' db reply hround =>
        rw [hround] at hphase
        simp only [registrationHead] at hphase ⊢
        split
        · exact hinit
        · next hge => exact absurd hphase (by rw [if_neg hge]; simp)
    | collecting requestMap =>
      simp only [hfault, hcase] at hphase
      split at hphase
      · simp at hphase
      · simp [hcase] at hphase
      · split at hphase
        · simp [answerRequests] at hphase
        · simp at hphase
    | subscribing requestMap toCheckSubscriptions =>
      simp only [hfault, hcase] at hphase
      split at hphase
      · simp at hphase
      · simp at hphase

/-- Before the first message nothing is announced. -/
theorem announced_init (expectedClient : Nat) : (init expectedClient).announced = [] := by
  have hannounced := announced_registrationHead
    { state := Fsm.init, expectedClient, connectedClients := [], db := DataBase.empty,
      replies := [], phase := .registering [], fault := none } []
  rw [init, hannounced]
  unfold registrationHead
  split
  · rfl
  · rfl

theorem state_registering_init (expectedClient : Nat) (clients : List String)
    (hphase : (init expectedClient).phase = .registering clients) :
    (init expectedClient).state = Fsm.init := by
  simp only [init, registrationHead] at hphase ⊢
  split
  · rfl
  · next hge => exact absurd hphase (by rw [if_neg hge]; simp)

/-- One of `msgs` came in the registration loop, and `reply` is what it was answered with. -/
def RepliesTo (order : HashOrder String) (yaml : YamlCpp) (c : Central) (msgs : List Multipart)
    (reply : Multipart) : Prop :=
  ∃ before msg after, msgs = before ++ msg :: after ∧
    RegisterReply (c.run order yaml before).clients (c.run order yaml (before ++ [msg])).clients
      Fsm.init msg reply

theorem RepliesTo.snoc {msgs : List Multipart} {reply : Multipart}
    (h : RepliesTo order yaml c msgs reply) (msg : Multipart) :
    RepliesTo order yaml c (msgs ++ [msg]) reply := by
  obtain ⟨before, first, after, rfl, hreply⟩ := h
  exact ⟨before, first, after ++ [msg], by simp, hreply⟩

end Central

end ComuFrame
