import Mathlib.Data.List.Nodup
import Mathlib.Data.List.Perm.Subperm
import ComuFrame.Lib.Run

/-!
# A meeting

The protocol of a rendezvous, over any type of participants: they join until the expected number
is there; then everybody asks, once each; once everybody has asked everybody reports, once
each; and once everybody has reported they are released.

* `Meeting.step` — the moves that are possible, one participant at a time;
* `Meeting.minutes` — whoever moves when, the moves of a run are joinings, then questions, then
  reports, then the release, and no block is begun before the one before it is complete.
-/

open Transition

namespace Meeting

variable {κ : Type}

inductive Move (κ : Type) where
  | join (k : κ)
  | ask (k : κ)
  | report (k : κ)
  | release
  deriving DecidableEq

/-- Who has done what, in order. -/
structure State (κ : Type) where
  joined : List κ
  asked : List κ
  reported : List κ
  released : Bool

def start : State κ := { joined := [], asked := [], reported := [], released := false }

section Step

variable [DecidableEq κ] (expected : ℕ)

def step (m : State κ) : Move κ → Option (State κ)
  | .join k =>
    if m.joined.length < expected ∧ k ∉ m.joined then some { m with joined := m.joined ++ [k] }
    else none
  | .ask k =>
    if m.joined.length = expected ∧ k ∈ m.joined ∧ k ∉ m.asked then
      some { m with asked := m.asked ++ [k] }
    else none
  | .report k =>
    if (∀ j ∈ m.joined, j ∈ m.asked) ∧ k ∈ m.joined ∧ k ∉ m.reported then
      some { m with reported := m.reported ++ [k] }
    else none
  | .release =>
    if m.joined ≠ [] ∧ (∀ j ∈ m.joined, j ∈ m.reported) ∧ m.released = false then
      some { m with released := true }
    else none

end Step

/-- The minutes of a meeting: the moves in four blocks, nobody twice in a block, and each block
begun only behind the one before it. -/
structure Minutes (expected : ℕ) (moves : List (Move κ)) (m : State κ) : Prop where
  moves : moves = m.joined.map .join ++ m.asked.map .ask ++ m.reported.map .report ++
    (if m.released then [.release] else [])
  nodup : m.joined.Nodup ∧ m.asked.Nodup ∧ m.reported.Nodup
  few : m.joined.length ≤ expected
  asked : m.asked ⊆ m.joined ∧ (m.asked ≠ [] → m.joined.length = expected)
  reported : m.reported ⊆ m.joined ∧ (m.reported ≠ [] → m.asked.Perm m.joined)
  released : m.released = true → m.joined ≠ [] ∧ m.reported.Perm m.joined

theorem minutes_start (expected : ℕ) : Minutes expected [] (start : State κ) where
  moves := rfl
  nodup := ⟨List.nodup_nil, List.nodup_nil, List.nodup_nil⟩
  few := Nat.zero_le _
  asked := ⟨List.nil_subset _, fun h => absurd rfl h⟩
  reported := ⟨List.nil_subset _, fun h => absurd rfl h⟩
  released h := absurd h Bool.false_ne_true

section Step

variable {expected : ℕ} {moves : List (Move κ)} {m m' : State κ}

/-- Until everybody has joined nobody has asked, -/
theorem Minutes.asked_eq_nil (hm : Minutes expected moves m) (hlt : m.joined.length < expected) :
    m.asked = [] := by
  by_contra hne
  have hall := hm.asked.2 hne
  omega

/-- until everybody has asked nobody has reported, -/
theorem Minutes.reported_eq_nil (hm : Minutes expected moves m) {k : κ} (hk : k ∈ m.joined)
    (hnew : k ∉ m.asked) : m.reported = [] := by
  by_contra hne
  exact hnew ((hm.reported.2 hne).mem_iff.mpr hk)

/-- and until everybody has reported nobody is released. -/
theorem Minutes.released_eq_false (hm : Minutes expected moves m) {k : κ} (hk : k ∈ m.joined)
    (hnew : k ∉ m.reported) : m.released = false := by
  by_contra hreleased
  exact hnew ((hm.released (by simpa using hreleased)).2.mem_iff.mpr hk)

/-- As many reports as participants: everybody has reported. -/
theorem Minutes.all_reported (hm : Minutes expected moves m)
    (hcount : m.joined.length ≤ m.reported.length) : ∀ k ∈ m.joined, k ∈ m.reported := by
  have hperm : m.reported.Perm m.joined :=
    (List.subperm_of_subset hm.nodup.2.2 hm.reported.1).perm_of_length_le hcount
  exact fun k hk => hperm.mem_iff.mpr hk

theorem nodup_push {l : List κ} {k : κ} (hl : l.Nodup) (hk : k ∉ l) : (l ++ [k]).Nodup := by
  rw [← List.concat_eq_append]
  exact List.Nodup.concat hk hl

theorem perm_of_all {l joined : List κ} (hl : l.Nodup) (hjoined : joined.Nodup)
    (hsubset : l ⊆ joined) (hall : ∀ k ∈ joined, k ∈ l) : l.Perm joined :=
  (List.perm_ext_iff_of_nodup hl hjoined).mpr fun k => ⟨fun h => hsubset h, hall k⟩

theorem subset_push {l joined : List κ} {k : κ} (hl : l ⊆ joined) (hk : k ∈ joined) :
    l ++ [k] ⊆ joined := by
  intro j hj
  rcases List.mem_append.mp hj with hold | hnew
  · exact hl hold
  · exact (List.mem_singleton.mp hnew).symm ▸ hk

/-- While somebody can join nothing else has happened. -/
theorem Minutes.joining (hm : Minutes expected moves m) (hlt : m.joined.length < expected) :
    m.asked = [] ∧ m.reported = [] ∧ m.released = false := by
  have hasked := hm.asked_eq_nil hlt
  have hreported : m.reported = [] := by
    by_contra hne
    obtain ⟨j, hj⟩ := List.exists_mem_of_ne_nil _ hne
    have hmem := (hm.reported.2 hne).mem_iff.mpr (hm.reported.1 hj)
    simp [hasked] at hmem
  refine ⟨hasked, hreported, ?_⟩
  by_contra hreleased
  obtain ⟨hne, hperm⟩ := hm.released (by simpa using hreleased)
  rw [hreported] at hperm
  exact hne (List.nil_perm.mp hperm)

/-- **One more move.** -/
theorem Minutes.step [DecidableEq κ] (hm : Minutes expected moves m) {move : Move κ}
    (hstep : Meeting.step expected m move = some m') : Minutes expected (moves ++ [move]) m' := by
  cases move with
  | join k =>
    simp only [Meeting.step, Option.ite_none_right_eq_some, Option.some.injEq] at hstep
    obtain ⟨⟨hlt, hk⟩, rfl⟩ := hstep
    obtain ⟨hasked, hreported, hreleased⟩ := hm.joining hlt
    exact {
      moves := by simp [hm.moves, hasked, hreported, hreleased]
      nodup := ⟨nodup_push hm.nodup.1 hk, hm.nodup.2⟩
      few := by
        rw [List.length_append, List.length_singleton]
        omega
      asked := ⟨by simp [hasked], fun h => absurd hasked h⟩
      reported := ⟨by simp [hreported], fun h => absurd hreported h⟩
      released := fun h => absurd (hreleased.symm.trans h) Bool.false_ne_true }
  | ask k =>
    simp only [Meeting.step, Option.ite_none_right_eq_some, Option.some.injEq] at hstep
    obtain ⟨⟨hfull, hk, hnew⟩, rfl⟩ := hstep
    have hreported := hm.reported_eq_nil hk hnew
    have hreleased := hm.released_eq_false hk (by simp [hreported])
    exact {
      moves := by simp [hm.moves, hreported, hreleased]
      nodup := ⟨hm.nodup.1, nodup_push hm.nodup.2.1 hnew, hm.nodup.2.2⟩
      few := hm.few
      asked := ⟨subset_push hm.asked.1 hk, fun _ => hfull⟩
      reported := ⟨hm.reported.1, fun h => absurd hreported h⟩
      released := fun h => absurd (hreleased.symm.trans h) Bool.false_ne_true }
  | report k =>
    simp only [Meeting.step, Option.ite_none_right_eq_some, Option.some.injEq] at hstep
    obtain ⟨⟨hall, hk, hnew⟩, rfl⟩ := hstep
    have hreleased := hm.released_eq_false hk hnew
    exact {
      moves := by simp [hm.moves, hreleased]
      nodup := ⟨hm.nodup.1, hm.nodup.2.1, nodup_push hm.nodup.2.2 hnew⟩
      few := hm.few
      asked := hm.asked
      reported := ⟨subset_push hm.reported.1 hk,
        fun _ => perm_of_all hm.nodup.2.1 hm.nodup.1 hm.asked.1 hall⟩
      released := fun h => absurd (hreleased.symm.trans h) Bool.false_ne_true }
  | release =>
    simp only [Meeting.step, Option.ite_none_right_eq_some, Option.some.injEq] at hstep
    obtain ⟨⟨hne, hall, hreleased⟩, rfl⟩ := hstep
    exact {
      moves := by simp [hm.moves, hreleased]
      nodup := hm.nodup
      few := hm.few
      asked := hm.asked
      reported := hm.reported
      released := fun _ =>
        ⟨hne, perm_of_all hm.nodup.2.2 hm.nodup.1 hm.reported.1 hall⟩ }

/-- **The minutes.** -/
theorem minutes [DecidableEq κ] (hrun : Run (Meeting.step expected) Always start moves m) :
    Minutes expected moves m := by
  induction hrun with
  | nil => exact minutes_start expected
  | snoc _ _ hstep ih => exact ih.step hstep

end Step

end Meeting
