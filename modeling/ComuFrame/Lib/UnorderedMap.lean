import Mathlib.Data.List.Nodup
import Mathlib.Data.List.Perm.Basic

/-!
# `std::unordered_map` — node-based maps with stable nodes

A model of the parts of `std::unordered_map` a program can rely on: keys are distinct, a
node never moves once it is allocated (so a pointer to its value stays good while the map
grows), `insert` keeps an existing entry, `operator[]` default-inserts. The order in which
a loop visits the map is *not* specified, so it is a parameter: a `HashOrder`.

A node is named by its allocation number, its position in `nodes`. Nothing here erases.
-/

namespace Cpp

/-- A map as the list of its nodes, oldest first. -/
structure UnorderedMap (κ ν : Type) where
  nodes : List (κ × ν)
  nodup : (nodes.map Prod.fst).Nodup

/-- The iteration order of one implementation: some rearrangement of the keys, fixed by
the sequence in which they were inserted. -/
structure HashOrder (κ : Type) where
  arrange : List κ → List κ
  perm : ∀ keys, (arrange keys).Perm keys

/-- The order that visits the keys as they were inserted. -/
def HashOrder.insertion (κ : Type) : HashOrder κ :=
  ⟨id, fun keys => List.Perm.refl keys⟩

namespace UnorderedMap

variable {κ ν : Type}

/-! ## Reading -/

def empty : UnorderedMap κ ν := ⟨[], List.nodup_nil⟩

def keys (m : UnorderedMap κ ν) : List κ := m.nodes.map Prod.fst

def size (m : UnorderedMap κ ν) : Nat := m.nodes.length

variable [DecidableEq κ]

/-- `find`: the value stored under `k`, if any. -/
def find? (m : UnorderedMap κ ν) (k : κ) : Option ν :=
  (m.nodes.find? (fun e => e.1 == k)).map Prod.snd

/-- The number of the node that holds `k`: what `&m[k]` points into. -/
def slot (m : UnorderedMap κ ν) (k : κ) : Nat := m.keys.idxOf k

/-- A loop `for (auto &e : m)`, in the given order. -/
def iterate (order : HashOrder κ) (m : UnorderedMap κ ν) : List (κ × ν) :=
  (order.arrange m.keys).filterMap fun k => (m.find? k).map fun v => (k, v)

omit [DecidableEq κ] in
@[ext] theorem ext_nodes {m m' : UnorderedMap κ ν} (h : m.nodes = m'.nodes) : m = m' := by
  cases m; cases m'; cases h; rfl

omit [DecidableEq κ] in
@[simp] theorem keys_empty : (empty : UnorderedMap κ ν).keys = [] := rfl

omit [DecidableEq κ] in
theorem keys_nodup (m : UnorderedMap κ ν) : m.keys.Nodup := m.nodup

omit [DecidableEq κ] in
@[simp] theorem length_keys (m : UnorderedMap κ ν) : m.keys.length = m.size := by
  simp [keys, size]

omit [DecidableEq κ] in
theorem mem_keys {m : UnorderedMap κ ν} {k : κ} : k ∈ m.keys ↔ ∃ v, (k, v) ∈ m.nodes := by
  simp [keys]

@[simp] theorem find?_empty (k : κ) : (empty : UnorderedMap κ ν).find? k = none := rfl

/-- The keys being distinct, a node is found exactly under its own key. -/
theorem find?_eq_some {m : UnorderedMap κ ν} {k : κ} {v : ν} :
    m.find? k = some v ↔ (k, v) ∈ m.nodes := by
  obtain ⟨nodes, hnodup⟩ := m
  simp only [find?]
  induction nodes with
  | nil => simp
  | cons e rest ih =>
    obtain ⟨k', v'⟩ := e
    rw [List.map_cons, List.nodup_cons] at hnodup
    by_cases hk : k' = k
    · subst hk
      have hnot : (k', v) ∉ rest := fun hmem =>
        hnodup.1 (List.mem_map.mpr ⟨(k', v), hmem, rfl⟩)
      simp [hnot, eq_comm]
    · have hne : (k, v) ≠ (k', v') := fun h => hk (congrArg Prod.fst h).symm
      simp [List.find?_cons_of_neg, hk, hne, ih hnodup.2]

theorem find?_eq_none {m : UnorderedMap κ ν} {k : κ} : m.find? k = none ↔ k ∉ m.keys := by
  rw [mem_keys, Option.eq_none_iff_forall_not_mem]
  simp [find?_eq_some]

theorem mem_keys_iff_find? {m : UnorderedMap κ ν} {k : κ} :
    k ∈ m.keys ↔ ∃ v, m.find? k = some v := by
  simp [mem_keys, find?_eq_some]

/-- A slot names a key exactly when the key's node sits there. -/
theorem slot_eq_iff {m : UnorderedMap κ ν} {k : κ} {i : Nat} (hk : k ∈ m.keys) :
    m.slot k = i ↔ m.keys[i]? = some k := by
  constructor
  · rintro rfl
    exact List.getElem?_eq_some_iff.mpr
      ⟨List.idxOf_lt_length_of_mem hk, List.getElem_idxOf _⟩
  · intro hi
    obtain ⟨hlt, hget⟩ := List.getElem?_eq_some_iff.mp hi
    rw [slot, ← hget]
    exact m.keys_nodup.idxOf_getElem i hlt

theorem keys_getElem?_slot {m : UnorderedMap κ ν} {k : κ} (hk : k ∈ m.keys) :
    m.keys[m.slot k]? = some k :=
  (slot_eq_iff hk).mp rfl

/-- Different keys have different nodes. -/
theorem slot_inj {m : UnorderedMap κ ν} {k k' : κ} (hk : k ∈ m.keys) (hk' : k' ∈ m.keys) :
    m.slot k = m.slot k' ↔ k = k' := by
  constructor
  · intro heq
    have hget := keys_getElem?_slot hk
    rw [heq, keys_getElem?_slot hk'] at hget
    exact (Option.some.inj hget).symm
  · intro heq
    rw [heq]

/-! ## Iterating -/

/-- A loop over the map visits every node once, in some order. -/
theorem iterate_perm (order : HashOrder κ) (m : UnorderedMap κ ν) :
    (m.iterate order).Perm m.nodes := by
  have hself : m.keys.filterMap (fun k => (m.find? k).map fun v => (k, v)) = m.nodes := by
    rw [keys, List.filterMap_map]
    calc m.nodes.filterMap _ = m.nodes.filterMap some := by
          apply List.filterMap_congr
          intro e he
          have hfind : m.find? e.1 = some e.2 := find?_eq_some.mpr he
          simp [Function.comp, hfind]
      _ = m.nodes := List.filterMap_some
  calc m.iterate order
      |>.Perm (m.keys.filterMap fun k => (m.find? k).map fun v => (k, v)) :=
        (order.perm m.keys).filterMap _
    _ = m.nodes := hself

@[simp] theorem mem_iterate {order : HashOrder κ} {m : UnorderedMap κ ν} {e : κ × ν} :
    e ∈ m.iterate order ↔ e ∈ m.nodes :=
  (m.iterate_perm order).mem_iff

theorem iterate_keys_nodup (order : HashOrder κ) (m : UnorderedMap κ ν) :
    ((m.iterate order).map Prod.fst).Nodup :=
  ((m.iterate_perm order).map Prod.fst).nodup_iff.mpr m.nodup

/-! ## Writing -/

/-- `insert({k, v})`: an existing entry stays as it is. -/
def insert (m : UnorderedMap κ ν) (k : κ) (v : ν) : UnorderedMap κ ν :=
  if hk : k ∈ m.keys then m
  else ⟨m.nodes ++ [(k, v)], by
    rw [List.map_append]
    exact List.nodup_append.mpr ⟨m.nodup, List.nodup_singleton k, fun a ha b hb hab =>
      hk (by simp at hb; subst hb; subst hab; exact ha)⟩⟩

/-- `m[k] = v`: overwrite in place, or allocate a node. -/
def assign (m : UnorderedMap κ ν) (k : κ) (v : ν) : UnorderedMap κ ν :=
  ⟨(m.insert k v).nodes.map fun e => if e.1 = k then (e.1, v) else e, by
    have hfst : (Prod.fst ∘ fun e : κ × ν => if e.1 = k then (e.1, v) else e) = Prod.fst := by
      funext e; simp only [Function.comp]; split <;> rfl
    rw [List.map_map, hfst]
    exact (m.insert k v).nodup⟩

omit [DecidableEq κ] in
/-- Rewriting values by position leaves the keys where they are. -/
theorem map_fst_mapIdx (nodes : List (κ × ν)) (f : Nat → ν → ν) :
    (nodes.mapIdx fun i e => (e.1, f i e.2)).map Prod.fst = nodes.map Prod.fst := by
  apply List.ext_getElem?
  intro i
  cases h : nodes[i]? with
  | none => simp [h]
  | some e => simp [h]

omit [DecidableEq κ] in
/-- Rewrite every value in place, by the number of its node. -/
def mapSlots (m : UnorderedMap κ ν) (f : Nat → ν → ν) : UnorderedMap κ ν :=
  ⟨m.nodes.mapIdx fun i e => (e.1, f i e.2), by
    rw [map_fst_mapIdx]; exact m.nodup⟩

theorem insert_of_mem {m : UnorderedMap κ ν} {k : κ} (hk : k ∈ m.keys) (v : ν) :
    m.insert k v = m := by
  simp [insert, hk]

theorem nodes_insert_of_notMem {m : UnorderedMap κ ν} {k : κ} (hk : k ∉ m.keys) (v : ν) :
    (m.insert k v).nodes = m.nodes ++ [(k, v)] := by
  simp [insert, hk]

/-- An insertion only appends: every node keeps its number and its contents. -/
theorem nodes_prefix_insert (m : UnorderedMap κ ν) (k : κ) (v : ν) :
    m.nodes <+: (m.insert k v).nodes := by
  by_cases hk : k ∈ m.keys
  · exact ⟨[], by simp [insert_of_mem hk]⟩
  · exact ⟨[(k, v)], by simp [nodes_insert_of_notMem hk]⟩

theorem keys_prefix_insert (m : UnorderedMap κ ν) (k : κ) (v : ν) :
    m.keys <+: (m.insert k v).keys :=
  (m.nodes_prefix_insert k v).map Prod.fst

@[simp] theorem mem_keys_insert {m : UnorderedMap κ ν} {k k' : κ} {v : ν} :
    k' ∈ (m.insert k v).keys ↔ k' = k ∨ k' ∈ m.keys := by
  by_cases hk : k ∈ m.keys
  · rw [insert_of_mem hk]
    constructor
    · exact Or.inr
    · rintro (rfl | h)
      · exact hk
      · exact h
  · simp [keys, nodes_insert_of_notMem hk, or_comm]

/-- A lookup with `operator[]` for each of `ks` inserts the missing ones. -/
theorem mem_keys_foldl_insert {m : UnorderedMap κ ν} {ks : List κ} {k : κ} {v : ν} :
    k ∈ (ks.foldl (fun m k => m.insert k v) m).keys ↔ k ∈ ks ∨ k ∈ m.keys := by
  induction ks generalizing m with
  | nil => simp
  | cons k' ks ih => rw [List.foldl_cons, ih, mem_keys_insert, List.mem_cons, or_left_comm, or_assoc]

theorem foldl_insert_of_mem {m : UnorderedMap κ ν} {ks : List κ} (hks : ∀ k ∈ ks, k ∈ m.keys)
    (v : ν) : ks.foldl (fun m k => m.insert k v) m = m := by
  induction ks with
  | nil => rfl
  | cons k ks ih =>
    rw [List.foldl_cons, insert_of_mem (hks k List.mem_cons_self)]
    exact ih fun k' hk' => hks k' (List.mem_cons_of_mem k hk')

theorem find?_insert (m : UnorderedMap κ ν) (k k' : κ) (v : ν) :
    (m.insert k v).find? k' = if k' = k then some ((m.find? k).getD v) else m.find? k' := by
  by_cases hk : k ∈ m.keys
  · rw [insert_of_mem hk]
    obtain ⟨w, hw⟩ := mem_keys_iff_find?.mp hk
    by_cases hkk : k' = k
    · subst hkk; simp [hw]
    · simp [hkk]
  · have hnone : m.find? k = none := find?_eq_none.mpr hk
    by_cases hkk : k' = k
    · subst hkk
      simp only [if_true, hnone, Option.getD_none]
      rw [find?_eq_some, nodes_insert_of_notMem hk]
      simp
    · rw [if_neg hkk]
      simp only [find?, nodes_insert_of_notMem hk, List.find?_append]
      cases m.nodes.find? (fun e => e.1 == k') with
      | some e => simp
      | none => simp [Ne.symm hkk]

@[simp] theorem keys_assign (m : UnorderedMap κ ν) (k : κ) (v : ν) :
    (m.assign k v).keys = (m.insert k v).keys := by
  simp only [keys, assign, List.map_map]
  apply List.map_congr_left
  intro e _
  simp only [Function.comp]
  split <;> rfl

theorem find?_assign (m : UnorderedMap κ ν) (k k' : κ) (v : ν) :
    (m.assign k v).find? k' = if k' = k then some v else m.find? k' := by
  by_cases hkk : k' = k
  · subst hkk
    obtain ⟨w, hw⟩ := mem_keys.mp (mem_keys_insert (m := m) (v := v).mpr (Or.inl rfl))
    rw [if_pos rfl, find?_eq_some]
    exact List.mem_map.mpr ⟨(k', w), hw, by simp⟩
  · rw [if_neg hkk]
    have hold : (m.insert k v).find? k' = m.find? k' := by rw [find?_insert, if_neg hkk]
    rw [← hold]
    apply Option.ext
    intro w
    rw [find?_eq_some, find?_eq_some]
    constructor
    · intro h
      obtain ⟨e, he, heq⟩ := List.mem_map.mp h
      by_cases hek : e.1 = k
      · rw [if_pos hek] at heq
        exact absurd ((congrArg Prod.fst heq).symm.trans hek) hkk
      · rw [if_neg hek] at heq
        exact heq ▸ he
    · intro h
      exact List.mem_map.mpr ⟨(k', w), h, by simp [hkk]⟩

/-- A new key gets a new node behind the others. -/
theorem nodes_assign_of_notMem {m : UnorderedMap κ ν} {k : κ} (hk : k ∉ m.keys) (v : ν) :
    (m.assign k v).nodes = m.nodes ++ [(k, v)] := by
  have hold : ∀ e ∈ m.nodes, (if e.1 = k then (e.1, v) else e) = e := by
    intro e he
    have hne : e.1 ≠ k := fun hek => hk (hek ▸ List.mem_map_of_mem he)
    rw [if_neg hne]
  show (m.insert k v).nodes.map _ = _
  rw [nodes_insert_of_notMem hk, List.map_append, List.map_congr_left hold]
  simp

@[simp] theorem mem_keys_assign {m : UnorderedMap κ ν} {k k' : κ} {v : ν} :
    k' ∈ (m.assign k v).keys ↔ k' = k ∨ k' ∈ m.keys := by
  rw [keys_assign, mem_keys_insert]

omit [DecidableEq κ] in
@[simp] theorem keys_mapSlots (m : UnorderedMap κ ν) (f : Nat → ν → ν) :
    (m.mapSlots f).keys = m.keys :=
  map_fst_mapIdx m.nodes f

omit [DecidableEq κ] in
@[simp] theorem nodes_getElem?_mapSlots (m : UnorderedMap κ ν) (f : Nat → ν → ν) (i : Nat) :
    (m.mapSlots f).nodes[i]? = (m.nodes[i]?).map fun e => (e.1, f i e.2) := by
  simp [mapSlots]

end UnorderedMap

end Cpp
