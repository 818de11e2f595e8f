import ComuFrame.Lib.UnorderedMap

/-!
# `std::unordered_map` — reading with `operator[]`

`m[k]` is an insertion first: a key the map lacks gets the default value, and that is what
is read. A program that searches with it leaves such entries behind. This file says what
they can and cannot change:

* `Padded m m'` — `m'` is `m` with default entries behind its nodes; a partial order;
* entries that were there, and every value read with `operator[]`, are the same in both
  (`Padded.mem`, `Padded.value_eq`);
* `readPairs` compares the values of a map with given ones until the first that differs.
  Whether it finds a difference depends on the values only (`readPairs_fst`), and whether
  it inserts anything on the first pair the map does not have (`readPairs_snd_eq_iff`).
-/

namespace Cpp

namespace UnorderedMap

variable {κ ν : Type}

/-- The same nodes in the same order. -/
instance [DecidableEq κ] [DecidableEq ν] : DecidableEq (UnorderedMap κ ν) := fun m m' =>
  decidable_of_iff (m.nodes = m'.nodes) ⟨ext_nodes, congrArg nodes⟩

/-- The operator `==`: as many entries, and each of them in the other map. -/
def equals [DecidableEq κ] [DecidableEq ν] (m m' : UnorderedMap κ ν) : Bool :=
  m.size == m'.size && m.nodes.all fun e => m'.find? e.1 == some e.2

/-- `m` has every entry of `q`. -/
def Contains (m q : UnorderedMap κ ν) : Prop := ∀ e ∈ q.nodes, e ∈ m.nodes

instance [DecidableEq κ] [DecidableEq ν] (m q : UnorderedMap κ ν) : Decidable (m.Contains q) :=
  inferInstanceAs (Decidable (∀ e ∈ q.nodes, e ∈ m.nodes))

section Values

variable [DecidableEq κ] [Inhabited ν]

/-- The value `m[k]` reads. -/
def value (m : UnorderedMap κ ν) (k : κ) : ν := (m.find? k).getD default

/-- `m[k]`: the value, and the map after the insertion. -/
def subscript (m : UnorderedMap κ ν) (k : κ) : ν × UnorderedMap κ ν :=
  (m.value k, m.insert k default)

/-- `m` reads as having every entry of `q`. -/
def Agrees (m q : UnorderedMap κ ν) : Prop := ∀ e ∈ q.nodes, m.value e.1 = e.2

instance [DecidableEq ν] (m q : UnorderedMap κ ν) : Decidable (m.Agrees q) :=
  inferInstanceAs (Decidable (∀ e ∈ q.nodes, m.value e.1 = e.2))

theorem value_of_mem {m : UnorderedMap κ ν} {k : κ} {v : ν} (h : (k, v) ∈ m.nodes) :
    m.value k = v := by
  rw [value, find?_eq_some.mpr h]
  rfl

theorem value_of_notMem {m : UnorderedMap κ ν} {k : κ} (h : k ∉ m.keys) :
    m.value k = default := by
  rw [value, find?_eq_none.mpr h]
  rfl

theorem Contains.agrees {m q : UnorderedMap κ ν} (h : m.Contains q) : m.Agrees q :=
  fun e he => value_of_mem (h e he)

/-- What is inserted reads as it did before. -/
@[simp] theorem value_insert (m : UnorderedMap κ ν) (k k' : κ) :
    (m.insert k default).value k' = m.value k' := by
  unfold value
  rw [find?_insert]
  split
  · next heq =>
    rw [heq]
    rfl
  · rfl

end Values

/-! ## Maps with default entries added -/

section Padded

variable [Inhabited ν]

def Padded (m m' : UnorderedMap κ ν) : Prop :=
  ∃ extra, m'.nodes = m.nodes ++ extra ∧ ∀ e ∈ extra, e.2 = default

namespace Padded

variable {m m' m'' : UnorderedMap κ ν}

theorem refl (m : UnorderedMap κ ν) : Padded m m := ⟨[], by simp, by simp⟩

theorem trans (h : Padded m m') (h' : Padded m' m'') : Padded m m'' := by
  obtain ⟨extra, hnodes, hdefault⟩ := h
  obtain ⟨extra', hnodes', hdefault'⟩ := h'
  refine ⟨extra ++ extra', by rw [hnodes', hnodes, List.append_assoc], fun e he => ?_⟩
  rcases List.mem_append.mp he with hold | hnew
  · exact hdefault e hold
  · exact hdefault' e hnew

theorem size_le (h : Padded m m') : m.size ≤ m'.size := by
  obtain ⟨extra, hnodes, -⟩ := h
  unfold size
  rw [hnodes, List.length_append]
  omega

/-- Nothing was added if there are no more entries. -/
theorem eq_of_size_le (h : Padded m m') (hsize : m'.size ≤ m.size) : m' = m := by
  obtain ⟨extra, hnodes, -⟩ := h
  have hlength : m'.nodes.length = m.nodes.length + extra.length := by
    rw [hnodes, List.length_append]
  have hnil : extra = [] := by
    unfold size at hsize
    exact List.length_eq_zero_iff.mp (by omega)
  exact ext_nodes (by rw [hnodes, hnil, List.append_nil])

theorem antisymm (h : Padded m m') (h' : Padded m' m) : m = m' :=
  h'.eq_of_size_le h.size_le

theorem mem {e : κ × ν} (h : Padded m m') (he : e ∈ m.nodes) : e ∈ m'.nodes := by
  obtain ⟨extra, hnodes, -⟩ := h
  rw [hnodes]
  exact List.mem_append_left _ he

variable [DecidableEq κ]

theorem insert (m : UnorderedMap κ ν) (k : κ) : Padded m (m.insert k default) := by
  by_cases hk : k ∈ m.keys
  · rw [insert_of_mem hk]
    exact Padded.refl m
  · exact ⟨[(k, default)], nodes_insert_of_notMem hk default, by simp⟩

/-- A new key does make a difference. -/
theorem ne_of_insert {k : κ} (hk : k ∉ m.keys) (h : Padded (m.insert k default) m') : m' ≠ m := by
  intro heq
  have hle := h.size_le
  rw [heq] at hle
  unfold size at hle
  rw [nodes_insert_of_notMem hk, List.length_append, List.length_singleton] at hle
  omega

/-- No read tells the two maps apart. -/
theorem value_eq (h : Padded m m') (k : κ) : m'.value k = m.value k := by
  by_cases hk : k ∈ m.keys
  · obtain ⟨v, hv⟩ := mem_keys.mp hk
    rw [value_of_mem hv, value_of_mem (h.mem hv)]
  · rw [value_of_notMem hk]
    by_cases hk' : k ∈ m'.keys
    · obtain ⟨v, hv⟩ := mem_keys.mp hk'
      obtain ⟨extra, hnodes, hdefault⟩ := h
      rw [value_of_mem hv]
      rw [hnodes] at hv
      rcases List.mem_append.mp hv with hold | hnew
      · exact absurd (mem_keys.mpr ⟨v, hold⟩) hk
      · exact hdefault (k, v) hnew
    · exact value_of_notMem hk'

theorem agrees_iff (h : Padded m m') (q : UnorderedMap κ ν) : m'.Agrees q ↔ m.Agrees q := by
  unfold Agrees
  simp only [h.value_eq]

theorem find? {k : κ} {v : ν} (h : Padded m m') (hfind : m.find? k = some v) :
    m'.find? k = some v :=
  find?_eq_some.mpr (h.mem (find?_eq_some.mp hfind))

end Padded

end Padded

/-! ## Comparing with `operator[]` -/

section Reading

variable [DecidableEq κ] [DecidableEq ν] [Inhabited ν]

/-- A loop `for (auto &e : pairs) if (m[e.first] != e.second) break;`: whether it went
through, and the map it leaves. -/
def readPairs : List (κ × ν) → UnorderedMap κ ν → Bool × UnorderedMap κ ν
  | [], m => (true, m)
  | (k, v) :: pairs, m =>
    let (read, m) := m.subscript k
    if read ≠ v then (false, m) else readPairs pairs m

/-- Of the pairs in this order, the first that `m` does not have is one whose key `m` does
not have. -/
def Misses (m : UnorderedMap κ ν) (pairs : List (κ × ν)) : Prop :=
  ∃ e ∈ pairs.find? (fun e => e ∉ m.nodes), e.1 ∉ m.keys

instance (m : UnorderedMap κ ν) (pairs : List (κ × ν)) : Decidable (m.Misses pairs) :=
  inferInstanceAs (Decidable (∃ e ∈ pairs.find? (fun e => e ∉ m.nodes), e.1 ∉ m.keys))

theorem readPairs_cons_of_eq {m : UnorderedMap κ ν} {k : κ} {v : ν} (heq : m.value k = v)
    (pairs : List (κ × ν)) :
    readPairs ((k, v) :: pairs) m = readPairs pairs (m.insert k default) := by
  simp [readPairs, subscript, heq]

theorem readPairs_cons_of_ne {m : UnorderedMap κ ν} {k : κ} {v : ν} (hne : m.value k ≠ v)
    (pairs : List (κ × ν)) :
    readPairs ((k, v) :: pairs) m = (false, m.insert k default) := by
  simp [readPairs, subscript, hne]

theorem readPairs_fst (pairs : List (κ × ν)) (m : UnorderedMap κ ν) :
    (readPairs pairs m).1 = true ↔ ∀ e ∈ pairs, m.value e.1 = e.2 := by
  induction pairs generalizing m with
  | nil => simp [readPairs]
  | cons e pairs ih =>
    obtain ⟨k, v⟩ := e
    rw [List.forall_mem_cons]
    by_cases heq : m.value k = v
    · rw [readPairs_cons_of_eq heq, ih, and_iff_right heq]
      simp only [value_insert]
    · simp [readPairs_cons_of_ne heq, heq]

/-- Whatever is read, the first key is in the map afterwards. -/
theorem padded_readPairs_cons (k : κ) (v : ν) (pairs : List (κ × ν)) (m : UnorderedMap κ ν) :
    Padded (m.insert k default) (readPairs ((k, v) :: pairs) m).2 := by
  induction pairs generalizing k v m with
  | nil =>
    by_cases heq : m.value k = v
    · rw [readPairs_cons_of_eq heq]
      exact Padded.refl _
    · rw [readPairs_cons_of_ne heq]
      exact Padded.refl _
  | cons e pairs ih =>
    by_cases heq : m.value k = v
    · rw [readPairs_cons_of_eq heq]
      exact (Padded.insert _ e.1).trans (ih e.1 e.2 _)
    · rw [readPairs_cons_of_ne heq]
      exact Padded.refl _

theorem padded_readPairs (pairs : List (κ × ν)) (m : UnorderedMap κ ν) :
    Padded m (readPairs pairs m).2 := by
  cases pairs with
  | nil => exact Padded.refl m
  | cons e pairs => exact (Padded.insert m e.1).trans (padded_readPairs_cons e.1 e.2 pairs m)

/-- The map is as it was unless a missing key was read. -/
theorem readPairs_snd_eq_iff (pairs : List (κ × ν)) (m : UnorderedMap κ ν) :
    (readPairs pairs m).2 = m ↔ ¬ m.Misses pairs := by
  induction pairs with
  | nil => simp [readPairs, Misses]
  | cons e pairs ih =>
    obtain ⟨k, v⟩ := e
    by_cases hmem : (k, v) ∈ m.nodes
    · -- the pair is there: nothing happens, and the loop goes on
      have hk : k ∈ m.keys := mem_keys.mpr ⟨v, hmem⟩
      have hstep : readPairs ((k, v) :: pairs) m = readPairs pairs m := by
        simp [readPairs, subscript, value_of_mem hmem, insert_of_mem hk]
      have hmisses : m.Misses ((k, v) :: pairs) ↔ m.Misses pairs := by
        simp [Misses, hmem]
      rw [hstep, hmisses, ih]
    · have hfirst : m.Misses ((k, v) :: pairs) ↔ k ∉ m.keys := by
        simp [Misses, hmem]
      rw [hfirst, not_not]
      by_cases hk : k ∈ m.keys
      · -- another value is there: the loop ends
        obtain ⟨w, hw⟩ := mem_keys.mp hk
        have hne : w ≠ v := fun h => hmem (h ▸ hw)
        simp [readPairs, subscript, value_of_mem hw, insert_of_mem hk, hk, hne]
      · exact iff_of_false (Padded.ne_of_insert hk (padded_readPairs_cons k v pairs m)) hk

omit [Inhabited ν] in
/-- A map that has all the pairs is only read. -/
theorem not_misses_of_forall_mem {m : UnorderedMap κ ν} {pairs : List (κ × ν)}
    (h : ∀ e ∈ pairs, e ∈ m.nodes) : ¬ m.Misses pairs := by
  have hnone : pairs.find? (fun e => e ∉ m.nodes) = none := by
    rw [List.find?_eq_none]
    simpa using h
  unfold Misses
  rw [hnone]
  simp

/-- A map that only reads as having the pairs is written to. -/
theorem misses_of_agrees {m : UnorderedMap κ ν} {pairs : List (κ × ν)}
    (hread : ∀ e ∈ pairs, m.value e.1 = e.2) (hnot : ¬ ∀ e ∈ pairs, e ∈ m.nodes) :
    m.Misses pairs := by
  obtain ⟨e, he⟩ : ∃ e, pairs.find? (fun e => e ∉ m.nodes) = some e := by
    rw [← Option.isSome_iff_exists, List.find?_isSome]
    simpa using hnot
  have hmem := List.mem_of_find?_eq_some he
  have hlacks : e ∉ m.nodes := by simpa using List.find?_some he
  refine ⟨e, he, fun hkey => ?_⟩
  obtain ⟨v, hv⟩ := mem_keys.mp hkey
  rw [← value_of_mem hv, hread e hmem] at hv
  exact hlacks hv

end Reading

end UnorderedMap

end Cpp
