import ComuFrame.Central.Frames
import ComuFrame.Central.Moves

/-!
# ComuFrame — when Central's branches are taken

`Moves` lists what Central can do with a message of three frames. It leaves open when some of
its branches are taken, and what follows about the whole system needs to know:

* `fault_of_onMessage` — the thread ends only by throwing, and there are two places where it
  can: a registration that is taken and does not convert, and a request likewise;
* `connected_of_left` — the registration loop is left with exactly the expected clients;
* `subscribing_of_moves` — the last loop is entered with the last request;
* `phase_subscribing` — the last loop crosses a name off exactly for the messages in
  `Syncronization` whose sender `strcmp` finds in the list.
-/

namespace ComuFrame

open Cpp

namespace Central

variable {order : HashOrder String} {yaml : YamlCpp} {c : Central}
  {sender msgState data : String}

/-- **What ends the thread.** The message was taken, as a registration or as a request, and what
it carries does not convert. -/
theorem fault_of_onMessage (hfault : c.fault = none) (hfew : c.Few)
    (hbad : (c.onMessage order yaml [sender, msgState, data]).1.fault ≠ none) :
    msgState = c.state.toString ∧
    ((c.registering = true ∧ sender ∉ c.clients ∧
        registered order yaml c.db sender data = none) ∨
      (c.registering = false ∧ sender ∉ c.requestMap.keys ∧
        (yaml.load data).bind (requestedNames yaml) = none)) := by
  cases hphase : c.phase with
  | registering clients =>
    rw [onMessage_registering hfault hphase (hfew clients hphase)] at hbad
    split at hbad
    · exact absurd hfault hbad
    · next hmem =>
      split at hbad
      · next hstate =>
        cases hdb : registered order yaml c.db sender data with
        | none =>
          exact ⟨hstate, .inl ⟨registering_eq hphase, clients_registering hphase ▸ hmem, rfl⟩⟩
        | some db =>
          simp only [hdb, fault_registrationHead] at hbad
          exact absurd hfault hbad
      · exact absurd hfault hbad
  | collecting requestMap =>
    obtain ⟨hreg, -, hmap⟩ := collecting_eq hphase
    rw [onMessage_collecting hfault hphase] at hbad
    split at hbad
    · next htake =>
      obtain ⟨hstate, hnew⟩ := htake
      rw [UnorderedMap.find?_eq_none] at hnew
      cases hnames : (yaml.load data).bind (requestedNames yaml) with
      | none => exact ⟨hstate, .inr ⟨hreg, hmap ▸ hnew, rfl⟩⟩
      | some names =>
        simp only [hnames] at hbad
        split at hbad
        · exact absurd hfault hbad
        · exact absurd hfault hbad
    · exact absurd hfault hbad
  | subscribing requestMap toCheckSubscriptions =>
    rw [onMessage_subscribing hfault hphase] at hbad
    split at hbad
    · exact absurd hfault hbad
    · exact absurd hfault hbad

/-! ## Leaving the registration loop -/

variable {c' : Central} {sent : List Multipart}

/-- **The registration loop is left with the expected clients**, neither more nor fewer. -/
theorem connected_of_left (hfault : c.fault = none) (hfew : c.Few) (hreg : c.registering = true)
    (hleft : (c.onMessage order yaml [sender, msgState, data]).1.registering = false) :
    (c.onMessage order yaml [sender, msgState, data]).1.connectedClients.length
      = c.expectedClient := by
  cases hphase : c.phase with
  | registering clients =>
    have hlt := hfew clients hphase
    rw [onMessage_registering hfault hphase hlt] at hleft ⊢
    by_cases hmem : sender ∈ clients
    · simp [if_pos hmem, hreg] at hleft
    · by_cases hstate : msgState = c.state.toString
      · simp only [if_neg hmem, if_pos hstate] at hleft ⊢
        cases hdb : registered order yaml c.db sender data with
        | none => simp [hdb, registering, hphase] at hleft
        | some db =>
          simp only [hdb] at hleft ⊢
          by_cases hmore : (clients ++ [sender]).length < c.expectedClient
          · rw [registrationHead_lt (c := { c with db }) hmore] at hleft
            simp [registering] at hleft
          · rw [registrationHead_ge (c := { c with db }) hmore]
            simp only [List.length_append, List.length_singleton] at hmore ⊢
            omega
      · simp [if_neg hmem, if_neg hstate, hreg] at hleft
  | collecting requestMap => simp [(collecting_eq hphase).1] at hreg
  | subscribing requestMap toCheckSubscriptions => simp [(subscribing_eq hphase).1] at hreg

theorem clients_of_left (hreg : c.registering = false) : c.clients = c.connectedClients := by
  cases hphase : c.phase with
  | registering => simp [registering, hphase] at hreg
  | collecting => exact (collecting_eq hphase).2.1
  | subscribing => exact (subscribing_eq hphase).2.1

/-- It is not entered again, and the clients are the same from then on. -/
theorem connectedClients_moves (hmove : Moves order yaml c sender msgState data c' sent)
    (hreg : c.registering = false) :
    c'.registering = false ∧ c'.connectedClients = c.connectedClients := by
  cases hmove with
  | confirm clients hphase => simp [registering_eq hphase] at hreg
  | redirect clients hphase => simp [registering_eq hphase] at hreg
  | register clients db hphase => simp [registering_eq hphase] at hreg
  | registerLast clients db hphase => simp [registering_eq hphase] at hreg
  | discard => exact ⟨hreg, rfl⟩
  | take => exact ⟨rfl, rfl⟩
  | takeLast => exact ⟨rfl, rfl⟩
  | hear => exact ⟨rfl, rfl⟩
  | unheard => exact ⟨hreg, rfl⟩
  | crash => exact ⟨hreg, rfl⟩

theorem expectedClient_moves (hmove : Moves order yaml c sender msgState data c' sent) :
    c'.expectedClient = c.expectedClient := by
  cases hmove with
  | _ => rfl

/-! ## The last loop -/

/-- It is entered with the last request, and never left. -/
theorem subscribing_of_moves (hmove : Moves order yaml c sender msgState data c' sent)
    {requestMap : UnorderedMap String (List String)} {toCheckSubscriptions : List String}
    (hphase : c'.phase = .subscribing requestMap toCheckSubscriptions) :
    (∃ toCheckSubscriptions', c.phase = .subscribing requestMap toCheckSubscriptions') ∨
    ((∃ requestMap', c.phase = .collecting requestMap') ∧ msgState = c.state.toString ∧
      toCheckSubscriptions = c.connectedClients) := by
  cases hmove with
  | confirm => exact .inl ⟨_, hphase⟩
  | redirect => exact .inl ⟨_, hphase⟩
  | register => simp at hphase
  | registerLast => simp at hphase
  | discard => exact .inl ⟨_, hphase⟩
  | take => simp at hphase
  | takeLast requestMap' names hcollecting hstate =>
    obtain ⟨-, rfl⟩ := Phase.subscribing.inj hphase
    exact .inr ⟨⟨_, hcollecting⟩, hstate, rfl⟩
  | hear requestMap' toCheckSubscriptions' hsubscribing =>
    obtain ⟨rfl, -⟩ := Phase.subscribing.inj hphase
    exact .inl ⟨_, hsubscribing⟩
  | unheard => exact .inl ⟨_, hphase⟩
  | crash => exact .inl ⟨_, hphase⟩

/-- **What is crossed off**: the first name that `strcmp` takes for the sender of a message in
`Syncronization`. -/
theorem phase_subscribing {requestMap : UnorderedMap String (List String)}
    {toCheckSubscriptions : List String} (hfault : c.fault = none)
    (hphase : c.phase = .subscribing requestMap toCheckSubscriptions) :
    (c.onMessage order yaml [sender, msgState, data]).1.phase = .subscribing requestMap
      (if strcmpEq msgState "syncronization" = true ∧
          toCheckSubscriptions.any (strcmpEq sender) = true
        then toCheckSubscriptions.eraseP (strcmpEq sender) else toCheckSubscriptions) := by
  rw [onMessage_subscribing hfault hphase]
  split
  · rfl
  · exact hphase

end Central

end ComuFrame
