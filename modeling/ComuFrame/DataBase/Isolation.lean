import Mathlib.Data.List.Induction
import ComuFrame.DataBase.Answers

/-!
# ComuFrame — do earlier requests change an answer?

Central answers the requests of all nodes on one database, one after the other. An accepted
request resets the flags, a rejected one returns before the reset, so it can leave flags up
(`flags_afterRequests` says which: `LeftSelected`). Those packets are added to the answer of
the next accepted request: `answer_independent_iff` is the exact condition under which this
makes no difference.
-/

namespace ComuFrame

open Cpp

namespace DataBase

/-- The database after the requests, answered one after the other. -/
def afterRequests (order : HashOrder String) (db : DataBase) (requests : List (List String)) :
    DataBase :=
  requests.foldl (fun db requestedData => (db.providePackets order requestedData).2) db

/-- The flag that `requests` leave up: some rejected request forces the packet, every later
one is rejected as well, and none of these, the first included, has the packet among the
several entries of a name. -/
def LeftSelected (db : DataBase) (requests : List (List String)) (ptr : BoolPtr) : Prop :=
  ∃ before requestedData after, requests = before ++ requestedData :: after ∧
    db.Forced requestedData ptr ∧
    ∀ rejected ∈ requestedData :: after,
      db.Rejects rejected ∧ ∀ orClause ∈ db.formula rejected, ptr ∉ orClause

/-- The flag was up before `requests` and none of them has put it down: all are rejected, and
none has the packet among the several entries of a name. -/
def KeptSelected (db : DataBase) (requests : List (List String)) (ptr : BoolPtr) : Prop :=
  db.flags ptr = true ∧ ∀ rejected ∈ requests,
    db.Rejects rejected ∧ ∀ orClause ∈ db.formula rejected, ptr ∉ orClause

theorem keptSelected_snoc {db : DataBase} {requests : List (List String)}
    {last : List String} {ptr : BoolPtr} :
    db.KeptSelected (requests ++ [last]) ptr ↔ db.KeptSelected requests ptr ∧
      db.Rejects last ∧ ∀ orClause ∈ db.formula last, ptr ∉ orClause := by
  simp only [KeptSelected, List.forall_mem_append, List.forall_mem_singleton, and_assoc]

theorem not_leftSelected_nil (db : DataBase) (ptr : BoolPtr) : ¬ db.LeftSelected [] ptr := by
  rintro ⟨before, requestedData, after, heq, _⟩
  simp at heq

/-- What the last request does to the flags left up. -/
theorem leftSelected_snoc {db : DataBase} {requests : List (List String)}
    {last : List String} {ptr : BoolPtr} :
    db.LeftSelected (requests ++ [last]) ptr ↔
      db.Rejects last ∧ (db.LeftSelected requests ptr ∨ db.Forced last ptr) ∧
        ∀ orClause ∈ db.formula last, ptr ∉ orClause := by
  constructor
  · rintro ⟨before, requestedData, after, heq, hforced, hall⟩
    rcases List.eq_nil_or_concat after with rfl | ⟨after, last', rfl⟩
    · obtain ⟨rfl, hlast⟩ := List.append_inj' heq rfl
      obtain rfl : last = requestedData := by simpa using hlast
      obtain ⟨hrejects, hclauses⟩ := hall last List.mem_cons_self
      exact ⟨hrejects, Or.inr hforced, hclauses⟩
    · rw [List.concat_eq_append] at heq hall
      rw [← List.cons_append, ← List.append_assoc] at heq
      obtain ⟨hinit, hlast⟩ := List.append_inj' heq rfl
      obtain rfl : last = last' := by simpa using hlast
      obtain ⟨hrejects, hclauses⟩ := hall last (by simp)
      refine ⟨hrejects, Or.inl ⟨before, requestedData, after, hinit, hforced, ?_⟩, hclauses⟩
      intro rejected hmem
      apply hall
      rw [← List.cons_append]
      exact List.mem_append_left _ hmem
  · rintro ⟨hrejects, ⟨before, requestedData, after, rfl, hforced, hall⟩ | hforced, hclauses⟩
    · refine ⟨before, requestedData, after ++ [last], by simp, hforced, ?_⟩
      intro rejected hmem
      rw [← List.cons_append, List.mem_append, List.mem_singleton] at hmem
      rcases hmem with hmem | rfl
      · exact hall rejected hmem
      · exact ⟨hrejects, hclauses⟩
    · refine ⟨requests, last, [], rfl, hforced, ?_⟩
      simpa using ⟨hrejects, hclauses⟩

section Requests

variable (order : HashOrder String) {db : DataBase}

theorem afterRequests_snoc (requests : List (List String)) (last : List String) :
    db.afterRequests order (requests ++ [last])
      = ((db.afterRequests order requests).providePackets order last).2 := by
  simp [afterRequests]

/-- Requests leave the packets and the index as they were, up to empty entries. -/
theorem afterRequests_frame (requests : List (List String)) :
    (db.afterRequests order requests).avaiablePacks.keys = db.avaiablePacks.keys ∧
    ∀ dataName, (db.afterRequests order requests).providers dataName = db.providers dataName := by
  induction requests using List.reverseRecOn with
  | nil => exact ⟨rfl, fun _ => rfl⟩
  | append_singleton requests last ih =>
    obtain ⟨hkeys, hproviders⟩ :=
      providePackets_frame order (db.afterRequests order requests) last
    rw [afterRequests_snoc]
    exact ⟨hkeys.trans ih.1, fun dataName => (hproviders dataName).trans (ih.2 dataName)⟩

theorem Valid.afterRequests (hdb : db.Valid) (requests : List (List String)) :
    (db.afterRequests order requests).Valid :=
  hdb.congr (afterRequests_frame order requests).2 (afterRequests_frame order requests).1

theorem packOf_afterRequests (requests : List (List String)) (ptr : BoolPtr) :
    (db.afterRequests order requests).packOf ptr = db.packOf ptr := by
  rw [packOf, (afterRequests_frame order requests).1, packOf]

theorem clauseOf_afterRequests (requests : List (List String)) :
    (db.afterRequests order requests).clauseOf = db.clauseOf := by
  funext dataName
  rw [clauseOf, (afterRequests_frame order requests).2, clauseOf]

theorem formula_afterRequests (requests : List (List String)) :
    (db.afterRequests order requests).formula = db.formula := by
  funext requestedData
  rw [formula, clauseOf_afterRequests, formula]

theorem forced_afterRequests (requests : List (List String)) :
    (db.afterRequests order requests).Forced = db.Forced := by
  funext requestedData ptr
  rw [Forced, clauseOf_afterRequests, Forced]

theorem rejects_afterRequests (requests : List (List String)) (requestedData : List String) :
    (db.afterRequests order requests).Rejects requestedData ↔ db.Rejects requestedData := by
  rw [← nil_mem_formula_iff, formula_afterRequests, nil_mem_formula_iff]

/-- **The flags after any number of requests.** Induction on the requests, the last one
first. -/
theorem flags_afterRequests_iff (requests : List (List String)) {ptr : BoolPtr}
    {packName : String} (hptr : db.packOf ptr = some packName) :
    (db.afterRequests order requests).flags ptr = true ↔
      db.KeptSelected requests ptr ∨ db.LeftSelected requests ptr := by
  induction requests using List.reverseRecOn with
  | nil => simp [afterRequests, KeptSelected, not_leftSelected_nil]
  | append_singleton requests last ih =>
    rw [afterRequests_snoc, leftSelected_snoc, keptSelected_snoc]
    by_cases hrejects : db.Rejects last
    · have hptr' : (db.afterRequests order requests).packOf ptr = some packName := by
        rwa [packOf_afterRequests]
      have hstep := (providePackets_rejects order
        ((rejects_afterRequests order requests last).mpr hrejects)).2 ptr packName hptr'
      rw [hstep, ih, forced_afterRequests, formula_afterRequests, and_iff_right hrejects,
        and_iff_right hrejects, ← or_and_right, or_assoc]
    · have hdown := (providePackets_accepts order
        (mt (rejects_afterRequests order requests last).mp hrejects)).2.2 ptr
      simp [hdown, hrejects]

/-- Whether any flag is up then. -/
theorem exists_flag_afterRequests_iff (requests : List (List String)) :
    (∃ ptr packName, (db.afterRequests order requests).packOf ptr = some packName ∧
      (db.afterRequests order requests).flags ptr = true) ↔
    ∃ ptr packName, db.packOf ptr = some packName ∧
      (db.KeptSelected requests ptr ∨ db.LeftSelected requests ptr) := by
  apply exists_congr
  intro ptr
  apply exists_congr
  intro packName
  rw [packOf_afterRequests]
  exact and_congr_right fun hptr => flags_afterRequests_iff order requests hptr

/-- The same on a database that starts with no flag up. -/
theorem flags_afterRequests (hdb : db.Unselected) (requests : List (List String))
    {ptr : BoolPtr} {packName : String} (hptr : db.packOf ptr = some packName) :
    (db.afterRequests order requests).flags ptr = true ↔ db.LeftSelected requests ptr := by
  rw [flags_afterRequests_iff order requests hptr, or_iff_right]
  intro hkept
  exact absurd (hkept.1.symm.trans (hdb ptr)) (by simp)

/-- What a later request selects: by itself, and what was left up for it. -/
theorem selected_afterRequests_iff (hdb : db.Unselected) (requests : List (List String))
    (requestedData : List String) {ptr : BoolPtr} {packName : String}
    (hptr : db.packOf ptr = some packName) :
    (db.afterRequests order requests).Selected requestedData ptr ↔
      db.LeftSelected requests ptr ∨ db.Selected requestedData ptr := by
  rw [Selected, flags_afterRequests order hdb requests hptr, forced_afterRequests,
    formula_afterRequests, Selected, hdb ptr]
  simp

end Requests

/-- A packet left selected is in the database. -/
theorem Valid.packOf_leftSelected {db : DataBase} (hdb : db.Valid)
    {requests : List (List String)} {ptr : BoolPtr} (hleft : db.LeftSelected requests ptr) :
    ∃ packName, db.packOf ptr = some packName := by
  obtain ⟨_, _, _, _, ⟨dataName, _, honly⟩, _⟩ := hleft
  have hmem : ptr ∈ db.clauseOf dataName := by
    rw [honly]
    exact List.mem_cons_self
  obtain ⟨packName, hptr, _⟩ := hdb.packOf_of_mem_clauseOf hmem
  exact ⟨packName, hptr⟩

/-! ## Independence -/

/-- **When the answer does not depend on the requests before it**: exactly when it is the
error, or every packet those requests left selected is one it selects by itself. -/
theorem answer_independent_iff (order : HashOrder String) (calls : List AddCall)
    (requests : List (List String)) (requestedData : List String) :
    (∀ answer, answer ∈ (((DataBase.empty.addAll order calls).afterRequests order
          requests).providePackets order requestedData).1 ↔
        answer ∈ ((DataBase.empty.addAll order calls).providePackets order requestedData).1) ↔
    ((DataBase.empty.addAll order calls).Rejects requestedData ∨
      ∀ ptr, (DataBase.empty.addAll order calls).LeftSelected requests ptr →
        (DataBase.empty.addAll order calls).Forced requestedData ptr ∨
          firstPtr ((DataBase.empty.addAll order calls).formula requestedData) = some ptr) := by
  set db := DataBase.empty.addAll order calls with hdbdef
  have hvalid : db.Valid := valid_empty.addAll order calls
  have hunselected : db.Unselected := unselected_addAll unselected_empty order calls
  by_cases hrejects : db.Rejects requestedData
  · have hafter := (rejects_afterRequests order requests requestedData).mpr hrejects
    rw [(providePackets_rejects order hrejects).1, (providePackets_rejects order hafter).1]
    simp [hrejects]
  · have hafter := mt (rejects_afterRequests order requests requestedData).mp hrejects
    have hown := (providePackets_accepts order hrejects).1
    have hlater := (providePackets_accepts order hafter).1
    rw [or_iff_right hrejects]
    constructor
    · intro hsame ptr hleft
      obtain ⟨packName, hptr⟩ := hvalid.packOf_leftSelected hleft
      have hin : packName ∈ ((db.afterRequests order requests).providePackets order
          requestedData).1 :=
        (hlater packName).mpr ⟨ptr, by rwa [packOf_afterRequests],
          (selected_afterRequests_iff order hunselected requests requestedData hptr).mpr
            (Or.inl hleft)⟩
      obtain ⟨ptr', hptr', hsel⟩ := (hown packName).mp ((hsame packName).mp hin)
      rw [packOf_injective hptr' hptr] at hsel
      rwa [Selected, hunselected ptr, or_iff_right (by simp)] at hsel
    · intro hcond answer
      rw [hlater, hown]
      apply exists_congr
      intro ptr
      rw [packOf_afterRequests]
      apply and_congr_right
      intro hptr
      rw [selected_afterRequests_iff order hunselected requests requestedData hptr,
        or_iff_right_of_imp]
      exact fun hleft => Or.inr (hcond ptr hleft)

/-- Two packets, one datum each. -/
def leakCalls : List AddCall :=
  [⟨UnorderedMap.empty.insert "a" "t", "node", "P1"⟩,
   ⟨UnorderedMap.empty.insert "b" "t", "node", "P2"⟩]

/-- A rejected request for `a_t` makes the answer to `b_t` list the packet of `a_t`. -/
theorem answer_depends_on_rejected :
    ¬ ∀ (order : HashOrder String) (calls : List AddCall) (requests : List (List String))
        (requestedData : List String) (answer : String),
      answer ∈ (((DataBase.empty.addAll order calls).afterRequests order
          requests).providePackets order requestedData).1 ↔
        answer ∈ ((DataBase.empty.addAll order calls).providePackets order requestedData).1 := by
  intro hindep
  have h := hindep (HashOrder.insertion String) leakCalls [["a_t", "missing"]] ["b_t"] "P1_node"
  exact absurd h (by decide)

end DataBase

end ComuFrame
