import ComuFrame.Central.Basic
import ComuFrame.Lib.Retry
import ComuFrame.Node.Basic

/-!
# ComuFrame — sending with retries (`sendStrMSG`)

`Central::sendStrMSG` and `Node::sendStrMSG` build a message and call `multipart_t::send` until
it succeeds, five times at most. That `send` takes a frame off the message before it tries to
send it, so what a retry sends is what the failed attempts have left, and a message without
frames is sent with success.

Whether a frame is accepted is up to the socket: `accepts n` is the outcome of its `n`-th frame
send. The rest of the model has every message sent at the first attempt.

* `sendLoop_fst` — a message of at most four frames is always reported as sent;
* `honest_iff` — the report is right exactly if the first attempt succeeds.
-/

namespace ComuFrame

open Retry

namespace Multipart

def addstr (msg : Multipart) (string : String) : Multipart := msg ++ [string]

def pushstr (msg : Multipart) (string : String) : Multipart := string :: msg

end Multipart

/-- A frame the socket accepted, and its flag `ZMQ_SNDMORE`. -/
structure SentFrame where
  text : String
  more : Bool
  deriving DecidableEq, Repr

/-- The message while it is being sent, and how many frame sends the socket has seen. -/
structure Sending where
  message : Multipart
  count : Nat

/-- `multipart_t::send`. -/
def Multipart.send (accepts : Nat → Bool) : Multipart → Nat → Attempt Sending (List SentFrame)
  | [], count => { ok := true, state := ⟨[], count⟩, trace := [] }
  | message :: rest, count =>
    if accepts count then
      let later := Multipart.send accepts rest (count + 1)
      { later with trace := ⟨message, !rest.isEmpty⟩ :: later.trace }
    else { ok := false, state := ⟨rest, count + 1⟩, trace := [] }

def Sending.attempt (accepts : Nat → Bool) (s : Sending) : Attempt Sending (List SentFrame) :=
  Multipart.send accepts s.message s.count

/-- The loop `while (!msg.send(*sock))`: it gives up at the failure that makes `tries > 4`. -/
def sendLoop (accepts : Nat → Bool) (message : Multipart) : Bool × List (List SentFrame) :=
  loop (Sending.attempt accepts) 4 ⟨message, 0⟩

/-- The value returned, and what each attempt transmitted. -/
def Central.sendStrMSG (accepts : Nat → Bool) (state : Fsm) (msg addressee : String) :
    Bool × List (List SentFrame) :=
  let registrationMSG : Multipart := [state.toString]
  let registrationMSG := registrationMSG.addstr msg
  let registrationMSG := registrationMSG.pushstr addressee
  sendLoop accepts registrationMSG

/-- The value returned, and what each attempt transmitted. -/
def NodeState.sendStrMSG (accepts : Nat → Bool) (st : NodeState) (msg : String) :
    Bool × List (List SentFrame) :=
  let registrationMSG : Multipart := [st.state.toString]
  let registrationMSG := registrationMSG.addstr msg
  sendLoop accepts registrationMSG

theorem Central.sendStrMSG_eq (accepts : Nat → Bool) (state : Fsm) (msg addressee : String) :
    Central.sendStrMSG accepts state msg addressee =
      sendLoop accepts (Central.strMSG state msg addressee) := rfl

theorem NodeState.sendStrMSG_eq (accepts : Nat → Bool) (st : NodeState) (msg : String) :
    st.sendStrMSG accepts msg = sendLoop accepts (st.strMSG msg) := rfl

/-! ## One attempt -/

section Attempt

variable (accepts : Nat → Bool)

theorem send_cons_of_accepts {count : Nat} (h : accepts count = true) (message : String)
    (rest : Multipart) :
    Multipart.send accepts (message :: rest) count =
      { Multipart.send accepts rest (count + 1) with
        trace := ⟨message, !rest.isEmpty⟩ :: (Multipart.send accepts rest (count + 1)).trace } := by
  rw [Multipart.send, if_pos h]

theorem send_cons_of_refuses {count : Nat} (h : accepts count = false) (message : String)
    (rest : Multipart) :
    Multipart.send accepts (message :: rest) count =
      { ok := false, state := ⟨rest, count + 1⟩, trace := [] } := by
  rw [Multipart.send, if_neg (Bool.eq_false_iff.mp h)]

/-- An attempt succeeds exactly if the socket accepts as many frames as there are. -/
theorem send_ok_iff (message : Multipart) (count : Nat) :
    (Multipart.send accepts message count).ok = true ↔
      ∀ i < message.length, accepts (count + i) = true := by
  induction message generalizing count with
  | nil => exact iff_of_true rfl fun i hi => absurd hi (Nat.not_lt_zero i)
  | cons frame rest ih =>
    cases haccepts : accepts count with
    | true =>
      rw [send_cons_of_accepts accepts haccepts]
      show (Multipart.send accepts rest (count + 1)).ok = true ↔ _
      rw [ih (count + 1)]
      constructor
      · intro hall i hi
        cases i with
        | zero => exact haccepts
        | succ i =>
          have hlater := hall i (Nat.lt_of_succ_lt_succ hi)
          rw [show count + 1 + i = count + (i + 1) by omega] at hlater
          exact hlater
      · intro hall i hi
        have hlater := hall (i + 1) (Nat.succ_lt_succ hi)
        rw [show count + (i + 1) = count + 1 + i by omega] at hlater
        exact hlater
    | false =>
      rw [send_cons_of_refuses accepts haccepts]
      refine iff_of_false Bool.false_ne_true fun hall => ?_
      have hfirst := hall 0 (Nat.succ_pos _)
      rw [Nat.add_zero, haccepts] at hfirst
      exact absurd hfirst Bool.false_ne_true

/-- An attempt that succeeds has transmitted every frame. -/
theorem send_trace_of_ok {message : Multipart} {count : Nat}
    (h : (Multipart.send accepts message count).ok = true) :
    (Multipart.send accepts message count).trace.map SentFrame.text = message := by
  induction message generalizing count with
  | nil => rfl
  | cons frame rest ih =>
    cases haccepts : accepts count with
    | true =>
      rw [send_cons_of_accepts accepts haccepts] at h ⊢
      show frame :: _ = frame :: rest
      rw [ih h]
    | false =>
      rw [send_cons_of_refuses accepts haccepts] at h
      exact absurd h Bool.false_ne_true

/-- An attempt that fails has transmitted fewer frames than there were, and leaves fewer. -/
theorem send_of_not_ok {message : Multipart} {count : Nat}
    (h : (Multipart.send accepts message count).ok = false) :
    (Multipart.send accepts message count).trace.length < message.length ∧
      (Multipart.send accepts message count).state.message.length < message.length := by
  induction message generalizing count with
  | nil => exact absurd h.symm Bool.false_ne_true
  | cons frame rest ih =>
    cases haccepts : accepts count with
    | true =>
      rw [send_cons_of_accepts accepts haccepts] at h ⊢
      have hlater := ih h
      simp only [List.length_cons]
      omega
    | false =>
      rw [send_cons_of_refuses accepts haccepts]
      simp only [List.length_cons, List.length_nil]
      omega

/-- No attempt transmits more than the message has. -/
theorem length_trace_le (message : Multipart) (count : Nat) :
    (Multipart.send accepts message count).trace.length ≤ message.length := by
  cases hok : (Multipart.send accepts message count).ok with
  | true =>
    have htext := send_trace_of_ok accepts hok
    have hlength := congrArg List.length htext
    rw [List.length_map] at hlength
    omega
  | false =>
    have hless := send_of_not_ok accepts hok
    omega

end Attempt

/-! ## The loop -/

section Loop

variable {accepts : Nat → Bool} {frames : Multipart}

theorem attempt_shrinks (s : Sending) (h : (s.attempt accepts).ok = false) :
    (s.attempt accepts).state.message.length < s.message.length :=
  (send_of_not_ok accepts h).2

/-- **A short message is always reported as sent**: every failure costs it a frame, and before
the tries are used up it has none left to fail with. -/
theorem sendLoop_fst (accepts : Nat → Bool) (hshort : frames.length ≤ 4) :
    (sendLoop accepts frames).1 = true :=
  loop_fst_of_shrinks (fun s => s.message.length) attempt_shrinks hshort

/-- With all its frames accepted a message is sent as it is, at the first attempt. -/
theorem sendLoop_of_accepts (h : ∀ i < frames.length, accepts i = true) :
    ∃ attempt, sendLoop accepts frames = (true, [attempt]) ∧
      attempt.map SentFrame.text = frames := by
  have hok : (Multipart.send accepts frames 0).ok = true := by
    rw [send_ok_iff]
    simp only [Nat.zero_add]
    exact h
  exact ⟨_, loop_of_ok hok 4, send_trace_of_ok accepts hok⟩

/-- After a failure at the start no attempt transmits as many frames as the message had. -/
theorem length_lt_of_not_ok (h : ((⟨frames, 0⟩ : Sending).attempt accepts).ok = false) :
    ∀ attempt ∈ (sendLoop accepts frames).2, attempt.length < frames.length := by
  have hfirst := send_of_not_ok accepts h
  unfold sendLoop
  rw [loop_of_not_ok h]
  refine List.forall_mem_cons.mpr ⟨hfirst.1, ?_⟩
  -- the message stays shorter than it was
  have htrace : ∀ s : Sending, s.message.length < frames.length →
      (s.attempt accepts).trace.length < frames.length := by
    intro s hs
    have hle := length_trace_le accepts s.message s.count
    show (Multipart.send accepts s.message s.count).trace.length < frames.length
    omega
  have hnext : ∀ s : Sending, s.message.length < frames.length →
      (s.attempt accepts).ok = false →
        (s.attempt accepts).state.message.length < frames.length := by
    intro s hs hfailed
    have hless := attempt_shrinks s hfailed
    omega
  exact forall_traces htrace hnext hfirst.2 3

/-- What the value returned is to say about the attempts: true only if one of them transmitted
the message, and false if five in a row did not. -/
def Honest (frames : Multipart) (result : Bool × List (List SentFrame)) : Prop :=
  (result.1 = true → ∃ attempt ∈ result.2, attempt.map SentFrame.text = frames) ∧
    ∀ before five after, result.2 = before ++ five ++ after → five.length = 5 →
      (∀ attempt ∈ five, attempt.map SentFrame.text ≠ frames) → result.1 = false

/-- **When the report is right**: exactly if the socket accepts all frames at once. -/
theorem honest_iff (hshort : frames.length ≤ 4) :
    Honest frames (sendLoop accepts frames) ↔ ∀ i < frames.length, accepts i = true := by
  constructor
  · intro hhonest
    rw [← show (Multipart.send accepts frames 0).ok = true ↔
      ∀ i < frames.length, accepts i = true by simp only [send_ok_iff, Nat.zero_add]]
    by_contra hfailed
    obtain ⟨attempt, hmem, htext⟩ := hhonest.1 (sendLoop_fst accepts hshort)
    have hless := length_lt_of_not_ok (Bool.eq_false_iff.mpr hfailed) attempt hmem
    have hlength := congrArg List.length htext
    rw [List.length_map] at hlength
    omega
  · intro haccepts
    obtain ⟨attempt, hloop, htext⟩ := sendLoop_of_accepts haccepts
    rw [hloop]
    refine ⟨fun _ => ⟨attempt, List.mem_singleton_self _, htext⟩, ?_⟩
    intro before five after hsplit hfive
    have hlength := congrArg List.length hsplit
    simp only [List.length_append, List.length_singleton] at hlength
    omega

end Loop

/-- **When `sendStrMSG` reports honestly**: exactly if the socket accepts the frames of the
message one after the other, three from Central and two from a Node. -/
theorem sendStrMSG_honest_iff (accepts : Nat → Bool) :
    (∀ (state : Fsm) (msg addressee : String),
      Honest [addressee, state.toString, msg] (Central.sendStrMSG accepts state msg addressee) ↔
        ∀ i < 3, accepts i = true) ∧
    ∀ (st : NodeState) (msg : String),
      Honest [st.state.toString, msg] (st.sendStrMSG accepts msg) ↔
        ∀ i < 2, accepts i = true := by
  constructor
  · intro state msg addressee
    rw [Central.sendStrMSG_eq]
    exact honest_iff (show 3 ≤ 4 by decide)
  · intro st msg
    rw [NodeState.sendStrMSG_eq]
    exact honest_iff (show 2 ≤ 4 by decide)

/-- The first frame send fails, the others succeed. -/
theorem sendStrMSG_not_honest :
    (¬ ∀ (accepts : Nat → Bool) (state : Fsm) (msg addressee : String),
      Honest [addressee, state.toString, msg] (Central.sendStrMSG accepts state msg addressee)) ∧
    ¬ ∀ (accepts : Nat → Bool) (st : NodeState) (msg : String),
      Honest [st.state.toString, msg] (st.sendStrMSG accepts msg) := by
  constructor
  · intro hhonest
    have hattempt := (hhonest (fun i => i ≠ 0) Fsm.init "AllSubscribed" "node").1 (by decide)
    exact absurd hattempt (by decide)
  · intro hhonest
    have hattempt := (hhonest (fun i => i ≠ 0) NodeState.init "subscribed").1 (by decide)
    exact absurd hattempt (by decide)

end ComuFrame
