import ComuFrame.Central.Frames
import ComuFrame.Lib.Arrivals

/-!
# ComuFrame — messages of three frames, as they arrive

The three loops of Central's service thread read the same kind of message, an identity, a
state and a text, and each of them acts on the first message of a sender that names the state
it waits for. `firstNaming` picks these messages out of everything that arrived; what the
loops make of them is in `Registration`, `Requests` and `Subscriptions`.
-/

namespace ComuFrame

open Cpp Arrivals

namespace Central

/-- A message of three frames; the identity is put in front by ROUTER. -/
structure Message where
  sender : String
  msgState : String
  data : String
  deriving DecidableEq, Repr

def Message.frames (msg : Message) : Multipart := [msg.sender, msg.msgState, msg.data]

/-- The messages that name the state `text`. -/
def naming (text : String) (msgs : List Message) : List Message :=
  msgs.filter fun msg => msg.msgState = text

/-- The senders of these. -/
def heard (text : String) (msgs : List Message) : List String :=
  (naming text msgs).map Message.sender

/-- The first of them from each sender, in the order they arrived. -/
def firstNaming (text : String) (msgs : List Message) : List Message :=
  firsts Message.sender (naming text msgs)

section FirstNaming

variable {text : String} {msgs : List Message} {msg : Message}

@[simp] theorem firstNaming_nil (text : String) : firstNaming text [] = [] := rfl

theorem naming_snoc_of_ne (h : msg.msgState ≠ text) :
    naming text (msgs ++ [msg]) = naming text msgs := by
  simp [naming, h]

theorem naming_snoc_of_eq (h : msg.msgState = text) :
    naming text (msgs ++ [msg]) = naming text msgs ++ [msg] := by
  simp [naming, h]

/-- A message in another state is nobody's first. -/
theorem firstNaming_snoc_of_ne (h : msg.msgState ≠ text) :
    firstNaming text (msgs ++ [msg]) = firstNaming text msgs := by
  rw [firstNaming, naming_snoc_of_ne h, firstNaming]

/-- Neither is one whose sender was heard before. -/
theorem firstNaming_snoc_of_mem (h : msg.sender ∈ heard text msgs) :
    firstNaming text (msgs ++ [msg]) = firstNaming text msgs := by
  by_cases hstate : msg.msgState = text
  · rw [firstNaming, naming_snoc_of_eq hstate, firsts_snoc_of_mem Message.sender h, firstNaming]
  · exact firstNaming_snoc_of_ne hstate

theorem firstNaming_snoc_of_new (hstate : msg.msgState = text)
    (hnew : msg.sender ∉ heard text msgs) :
    firstNaming text (msgs ++ [msg]) = firstNaming text msgs ++ [msg] := by
  rw [firstNaming, naming_snoc_of_eq hstate, firsts_snoc_of_notMem Message.sender hnew,
    firstNaming]

theorem mem_heard_iff {sender : String} :
    sender ∈ heard text msgs ↔ sender ∈ (firstNaming text msgs).map Message.sender := by
  rw [firstNaming, mem_map_firsts, heard]

theorem nodup_senders_firstNaming (text : String) (msgs : List Message) :
    ((firstNaming text msgs).map Message.sender).Nodup :=
  nodup_map_firsts Message.sender _

theorem firstNaming_append (text : String) (msgs msgs' : List Message) :
    firstNaming text msgs <+: firstNaming text (msgs ++ msgs') := by
  rw [firstNaming, firstNaming, naming, naming, List.filter_append]
  exact firsts_prefix Message.sender _ _

theorem take_firstNaming_append {n : Nat} (h : n ≤ (firstNaming text msgs).length)
    (msgs' : List Message) :
    (firstNaming text (msgs ++ msgs')).take n = (firstNaming text msgs).take n := by
  obtain ⟨rest, hrest⟩ := firstNaming_append text msgs msgs'
  rw [← hrest, List.take_append_of_le_length h]

theorem take_firstNaming_subset (text : String) (msgs msgs' : List Message) (n : Nat) :
    (firstNaming text msgs).take n ⊆ (firstNaming text (msgs ++ msgs')).take n := by
  obtain ⟨rest, hrest⟩ := firstNaming_append text msgs msgs'
  rw [← hrest, List.take_append]
  exact List.subset_append_left _ _

/-- One message brings one new sender at most. -/
theorem length_firstNaming_snoc_le :
    (firstNaming text (msgs ++ [msg])).length ≤ (firstNaming text msgs).length + 1 := by
  by_cases hmem : msg.sender ∈ heard text msgs
  · rw [firstNaming_snoc_of_mem hmem]
    omega
  by_cases hstate : msg.msgState = text
  · rw [firstNaming_snoc_of_new hstate hmem, List.length_append, List.length_singleton]
  · rw [firstNaming_snoc_of_ne hstate]
    omega

/-- Being picked is being the first of one's sender to name the state. -/
theorem find?_naming_iff :
    msgs.find? (fun m => m.sender = msg.sender ∧ m.msgState = text) = some msg ↔
      msg ∈ firstNaming text msgs := by
  have hpred : (fun m : Message => decide (m.sender = msg.sender ∧ m.msgState = text))
      = fun m => decide (decide (m.msgState = text) = true ∧ decide (m.sender = msg.sender) = true) := by
    funext m
    simp only [decide_eq_true_eq, and_comm]
  rw [firstNaming, ← find?_eq_some_iff_mem_firsts, naming, List.find?_filter, hpred]

end FirstNaming

/-! ## Running on such messages -/

section RunOn

variable (order : HashOrder String) (yaml : YamlCpp)

def runOn (c : Central) (msgs : List Message) : Central :=
  c.run order yaml (msgs.map Message.frames)

@[simp] theorem runOn_nil (c : Central) : c.runOn order yaml [] = c := rfl

theorem runOn_snoc (c : Central) (msgs : List Message) (msg : Message) :
    c.runOn order yaml (msgs ++ [msg])
      = ((c.runOn order yaml msgs).onMessage order yaml msg.frames).1 := by
  rw [runOn, List.map_append, List.map_singleton, run_snoc, runOn]

end RunOn

end Central

end ComuFrame
