import Mathlib.Data.List.Induction
import Mathlib.Data.List.Nodup

/-!
# Sequences that arrive one element at a time

What a loop over incoming elements knows when it handles one is what came before it. Two
notions for stating results about such loops, each with the lemma for one more element:

* `AtEach P l` — `P before a` for every element `a` of `l`, `before` being what came first;
* `firsts key l` — the elements whose key is new when they arrive, in order: the contents of
  a table that is filled once under each key.
-/

namespace Arrivals

variable {α κ : Type}

/-! ## Every element and what came before it -/

def AtEach (P : List α → α → Prop) (l : List α) : Prop :=
  ∀ before a after, l = before ++ a :: after → P before a

theorem atEach_nil (P : List α → α → Prop) : AtEach P [] := by
  intro before a after heq
  simp at heq

/-- The last element is the only one with a new past. -/
theorem atEach_snoc {P : List α → α → Prop} {l : List α} {x : α} :
    AtEach P (l ++ [x]) ↔ AtEach P l ∧ P l x := by
  constructor
  · intro hall
    refine ⟨fun before a after heq => ?_, hall l x [] rfl⟩
    exact hall before a (after ++ [x]) (by simp [heq])
  · intro ⟨hall, hlast⟩ before a after heq
    rcases List.eq_nil_or_concat after with hnil | ⟨after', y, hconcat⟩
    · rw [hnil] at heq
      obtain ⟨hbefore, ha⟩ := List.append_inj' heq rfl
      rw [← hbefore, ← List.singleton_inj.mp ha]
      exact hlast
    · rw [hconcat, List.concat_eq_append, ← List.cons_append, ← List.append_assoc] at heq
      exact hall before a after' (List.append_inj' heq rfl).1

theorem AtEach.of_append {P : List α → α → Prop} {l l' : List α} (h : AtEach P (l ++ l')) :
    AtEach P l :=
  fun before a after heq => h before a (after ++ l') (by simp [heq])

/-- What holds at the end and not at the start begins to hold at some element. -/
theorem exists_turning {Q : List α → Prop} {l : List α} (hstart : ¬ Q []) (hend : Q l) :
    ∃ before a after, l = before ++ a :: after ∧ ¬ Q before ∧ Q (before ++ [a]) := by
  induction l using List.reverseRecOn with
  | nil => exact absurd hend hstart
  | append_singleton l x ih =>
    by_cases hl : Q l
    · obtain ⟨before, a, after, heq, hbefore, hafter⟩ := ih hl
      exact ⟨before, a, after ++ [x], by simp [heq], hbefore, hafter⟩
    · exact ⟨l, x, [], rfl, hl, hend⟩

/-! ## The first element of each key -/

section Firsts

variable [DecidableEq κ]

def firsts (key : α → κ) (l : List α) : List α :=
  l.foldl (fun kept a => if key a ∈ kept.map key then kept else kept ++ [a]) []

variable (key : α → κ)

@[simp] theorem firsts_nil : firsts key [] = [] := rfl

theorem firsts_snoc (l : List α) (a : α) :
    firsts key (l ++ [a]) =
      if key a ∈ (firsts key l).map key then firsts key l else firsts key l ++ [a] := by
  rw [firsts, List.foldl_append]
  rfl

/-- Every key that arrived is kept. -/
@[simp] theorem mem_map_firsts {l : List α} {k : κ} :
    k ∈ (firsts key l).map key ↔ k ∈ l.map key := by
  induction l using List.reverseRecOn with
  | nil => simp
  | append_singleton l a ih =>
    rw [firsts_snoc, List.map_append, List.mem_append, ← ih]
    split
    · next hold =>
      constructor
      · exact Or.inl
      · intro h
        rcases h with h | h
        · exact h
        · simp only [List.map_cons, List.map_nil, List.mem_singleton] at h
          exact h ▸ hold
    · rw [List.map_append, List.mem_append]

theorem firsts_snoc_of_mem {l : List α} {a : α} (h : key a ∈ l.map key) :
    firsts key (l ++ [a]) = firsts key l := by
  rw [firsts_snoc, if_pos ((mem_map_firsts key).mpr h)]

theorem firsts_snoc_of_notMem {l : List α} {a : α} (h : key a ∉ l.map key) :
    firsts key (l ++ [a]) = firsts key l ++ [a] := by
  rw [firsts_snoc, if_neg (mt (mem_map_firsts key).mp h)]

/-- Each key is kept once. -/
theorem nodup_map_firsts (l : List α) : ((firsts key l).map key).Nodup := by
  induction l using List.reverseRecOn with
  | nil => simp
  | append_singleton l a ih =>
    rw [firsts_snoc]
    split
    · exact ih
    · next hnew =>
      rw [List.map_append]
      refine List.nodup_append.mpr ⟨ih, by simp, fun x hx y hy hxy => ?_⟩
      simp only [List.map_cons, List.map_nil, List.mem_singleton] at hy
      exact hnew (by rw [← hy, ← hxy]; exact hx)

/-- What is kept only grows at the end. -/
theorem firsts_prefix (l l' : List α) : firsts key l <+: firsts key (l ++ l') := by
  induction l' using List.reverseRecOn with
  | nil => simp
  | append_singleton l' a ih =>
    rw [← List.append_assoc, firsts_snoc]
    split
    · exact ih
    · exact ih.trans (List.prefix_append _ _)

/-- The element kept for a key is the first one that has it. -/
theorem find?_eq_some_iff_mem_firsts {l : List α} {a : α} :
    l.find? (fun x => key x = key a) = some a ↔ a ∈ firsts key l := by
  induction l using List.reverseRecOn with
  | nil => simp
  | append_singleton l x ih =>
    rw [List.find?_append]
    by_cases hold : key a ∈ l.map key
    · -- the key has its element already, and `x` cannot replace it
      obtain ⟨y, hy⟩ : ∃ y, l.find? (fun x => key x = key a) = some y := by
        obtain ⟨z, hz, hkz⟩ := List.mem_map.mp hold
        exact Option.isSome_iff_exists.mp (List.find?_isSome.mpr ⟨z, hz, by simpa using hkz⟩)
      rw [hy, Option.some_or, ← hy, ih, firsts_snoc]
      split
      · exact Iff.rfl
      · next hnew =>
        rw [List.mem_append, List.mem_singleton]
        refine ⟨Or.inl, fun h => h.resolve_right fun hax => ?_⟩
        rw [mem_map_firsts, ← hax] at hnew
        exact hnew hold
    · have hnone : l.find? (fun x => key x = key a) = none := by
        rw [List.find?_eq_none]
        intro z hz hkz
        exact hold (List.mem_map.mpr ⟨z, hz, by simpa using hkz⟩)
      have hnot : a ∉ firsts key l := fun h =>
        hold ((mem_map_firsts key).mp (List.mem_map_of_mem h))
      rw [hnone, Option.none_or]
      by_cases hx : key x = key a
      · rw [firsts_snoc_of_notMem key (by rwa [hx]), List.mem_append, or_iff_right hnot]
        simp [hx, eq_comm]
      · rw [firsts_snoc]
        have hne : a ≠ x := fun h => hx (by rw [h])
        split
        · simp [hx, hnot]
        · simp [hx, hnot, hne]

/-- With different keys, an element is the only one with its key. -/
theorem filter_key_eq_singleton {l : List α} (hnodup : (l.map key).Nodup) {a : α} (ha : a ∈ l) :
    l.filter (fun x => key x = key a) = [a] := by
  induction l with
  | nil => simp at ha
  | cons x l ih =>
    rw [List.map_cons, List.nodup_cons] at hnodup
    rcases List.mem_cons.mp ha with hax | htail
    · have hnone : l.filter (fun y => key y = key a) = [] := by
        rw [List.filter_eq_nil_iff]
        intro y hy hkey
        rw [decide_eq_true_eq] at hkey
        exact hnodup.1 (hax ▸ hkey ▸ List.mem_map_of_mem hy)
      rw [List.filter_cons_of_pos (by rw [hax, decide_eq_true_eq]), hnone, hax]
    · have hne : ¬ key x = key a := fun h => hnodup.1 (h ▸ List.mem_map_of_mem htail)
      rw [List.filter_cons_of_neg (by rw [decide_eq_true_eq]; exact hne), ih hnodup.2 htail]

end Firsts

end Arrivals
