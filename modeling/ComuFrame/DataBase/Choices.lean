import ComuFrame.DataBase.Provide

/-!
# ComuFrame — the search against what it is for, and every call it makes

`tuneFunctions` is meant to look for few packets that put a true flag in every clause. What it
does instead is known from `Search`: it accepts the first pointers of the clauses it may choose
for, or it runs off its end.

* `searchCorrect_iff` — when a top-level call decides what it should: exactly when some clause
  is empty, or those first pointers happen to do;
* `searchCalls_return_iff` — when every call made for a request, at every depth, ends at its
  `return`: exactly when no requested name is without provider.
-/

namespace ComuFrame

open Cpp

/-! ## What the search should decide -/

/-- The length of the longest clause. -/
def longest (formula : List (List BoolPtr)) : Nat := (formula.map List.length).foldr max 0

theorem length_le_longest {formula : List (List BoolPtr)} :
    ∀ clause ∈ formula, clause.length ≤ longest formula := by
  induction formula with
  | nil => simp
  | cons first formula ih =>
    intro clause hclause
    show clause.length ≤ max first.length (longest formula)
    rcases List.mem_cons.mp hclause with hfirst | hrest
    · rw [hfirst]
      exact Nat.le_max_left _ _
    · exact Nat.le_trans (ih clause hrest) (Nat.le_max_right _ _)

/-- A true flag in every clause. -/
def Satisfied (flags : Flags) (formula : List (List BoolPtr)) : Prop :=
  ∀ clause ∈ formula, ∃ ptr ∈ clause, flags ptr = true

/-- The top-level call with `recCallNum = k` returns true exactly when `k + 1` packets of the
formula are enough, and then leaves flags that are. -/
structure SearchCorrect (formula : List (List BoolPtr)) (flags : Flags) (k : Nat) : Prop where
  decides : (tuneFunctions formula (longest formula) k 0 flags).1 = some true ↔
    ∃ chosen : List BoolPtr, chosen.length ≤ k + 1 ∧
      (∀ ptr ∈ chosen, ∃ clause ∈ formula, ptr ∈ clause) ∧
      Satisfied (raised flags chosen) formula
  leaves : (tuneFunctions formula (longest formula) k 0 flags).1 = some true →
    Satisfied (tuneFunctions formula (longest formula) k 0 flags).2 formula

theorem not_satisfied_of_mem_nil {formula : List (List BoolPtr)} (hempty : [] ∈ formula)
    (flags : Flags) : ¬ Satisfied flags formula := by
  intro hsat
  obtain ⟨ptr, hptr, -⟩ := hsat [] hempty
  simp at hptr

theorem length_heads_le (formula : List (List BoolPtr)) (n : Nat) :
    (heads formula n).length ≤ n :=
  Nat.le_trans (List.length_filterMap_le _ _) (List.length_take_le n formula)

theorem mem_of_mem_heads {formula : List (List BoolPtr)} {n : Nat} {ptr : BoolPtr}
    (h : ptr ∈ heads formula n) : ∃ clause ∈ formula, ptr ∈ clause := by
  obtain ⟨clause, hclause, hhead⟩ := List.mem_filterMap.mp h
  exact ⟨clause, List.mem_of_mem_take hclause, List.mem_of_head? hhead⟩

/-- The first pointers do for their own clauses; the others are the question. -/
theorem satisfied_heads_iff {formula : List (List BoolPtr)} (hempty : [] ∉ formula)
    (flags : Flags) (n : Nat) :
    Satisfied (raised flags (heads formula n)) formula ↔
      ∀ clause ∈ formula.drop n, ∃ ptr ∈ clause, flags ptr = true ∨ ptr ∈ heads formula n := by
  have hraised : ∀ ptr, raised flags (heads formula n) ptr = true ↔
      flags ptr = true ∨ ptr ∈ heads formula n := by
    intro ptr
    by_cases hmem : ptr ∈ heads formula n
    · simp [raised, hmem]
    · simp [raised, hmem]
  simp only [Satisfied, hraised]
  constructor
  · exact fun hall clause hclause => hall clause (List.mem_of_mem_drop hclause)
  · intro hdrop clause hclause
    rw [← List.take_append_drop n formula, List.mem_append] at hclause
    rcases hclause with htake | hlater
    · cases hhead : clause.head? with
      | none =>
        rw [List.head?_eq_none_iff] at hhead
        exact absurd (hhead ▸ List.mem_of_mem_take htake) hempty
      | some ptr =>
        exact ⟨ptr, List.mem_of_head? hhead, .inr (List.mem_filterMap.mpr ⟨clause, htake, hhead⟩)⟩
    · exact hdrop clause hlater

/-- **When the search decides what it should.** -/
theorem searchCorrect_iff {formula : List (List BoolPtr)} {k : Nat} (hk : k < formula.length)
    (flags : Flags) :
    SearchCorrect formula flags k ↔ [] ∈ formula ∨
      ∀ clause ∈ formula.drop (k + 1), ∃ ptr ∈ clause,
        flags ptr = true ∨ ptr ∈ heads formula (k + 1) := by
  by_cases hempty : [] ∈ formula
  · -- the call runs off, and there is nothing it could find
    have hresult : (tuneFunctions formula (longest formula) k 0 flags).1 ≠ some true := by
      rw [tuneFunctions_runs_off hempty]
      simp
    refine iff_of_true ⟨iff_of_false hresult ?_, fun h => absurd h hresult⟩ (.inl hempty)
    intro ⟨chosen, _, _, hsat⟩
    exact not_satisfied_of_mem_nil hempty _ hsat
  · have hmax : 0 < longest formula := by
      obtain ⟨ptr, clause, hclause, -⟩ := exists_cons_of_notMem hempty hk
      have := length_le_longest _ (List.mem_of_getElem? hclause)
      rw [List.length_cons] at this
      omega
    have hcall := tuneFunctions_chooses hempty hmax hk flags
    rw [or_iff_right hempty, ← satisfied_heads_iff hempty]
    constructor
    · intro hcorrect
      have hleaves := hcorrect.leaves
      rw [hcall] at hleaves
      exact hleaves rfl
    · intro hsat
      refine ⟨iff_of_true (by rw [hcall]) ?_, fun _ => by rw [hcall]; exact hsat⟩
      exact ⟨heads formula (k + 1), length_heads_le formula (k + 1),
        fun ptr hptr => mem_of_mem_heads hptr, hsat⟩

/-- Two clauses that share a packet, which comes first. -/
theorem searchCorrect_sample :
    SearchCorrect [[⟨0⟩, ⟨1⟩], [⟨0⟩, ⟨2⟩]] (fun _ => false) 0 :=
  (searchCorrect_iff (by decide) _).mpr (.inr (by decide))

/-- Two clauses without a common packet: one packet is accepted for both. -/
theorem not_searchCorrect : ¬ ∀ (formula : List (List BoolPtr)) (flags : Flags) (k : Nat),
    k < formula.length → SearchCorrect formula flags k := by
  intro hcorrect
  have h := hcorrect [[⟨0⟩, ⟨1⟩], [⟨2⟩, ⟨3⟩]] (fun _ => false) 0 (by decide)
  obtain ⟨ptr, hptr, hflag⟩ := h.leaves rfl [⟨2⟩, ⟨3⟩] (by simp)
  have hnone : ∀ ptr ∈ [BoolPtr.mk 2, ⟨3⟩],
      (tuneFunctions [[⟨0⟩, ⟨1⟩], [⟨2⟩, ⟨3⟩]] 2 0 0 (fun _ => false)).2 ptr = false := by decide
  exact absurd (hflag.symm.trans (hnone ptr hptr)) (by simp)

/-! ## Every call of the search -/

/-- The arguments of one call, and the flags it finds. -/
structure TuneCall where
  formula : List (List BoolPtr)
  maxSize : Nat
  recCallNum : Nat
  callNumber : Nat
  flags : Flags

/-- `none` when the call runs off the end of the function. -/
def TuneCall.result (call : TuneCall) : Option Bool :=
  (tuneFunctions call.formula call.maxSize call.recCallNum call.callNumber call.flags).1

/-- The flags with which the loop body makes its attempts, cell by cell: the recursion of
`tuneCells`, keeping what it hands to `attempt`. -/
def cellAttempts (attempt : Flags → Option Bool × Flags) (formula : List (List BoolPtr)) :
    List (Nat × Nat) → Flags → List Flags
  | [], _ => []
  | (row, column) :: cells, flags =>
    match formula[column]?.bind (fun clause => clause[row]?) with
    | none => cellAttempts attempt formula cells flags
    | some ptr =>
      Function.update flags ptr true ::
        match attempt (Function.update flags ptr true) with
        | (some true, _) => []
        | (_, flags') => cellAttempts attempt formula cells (Function.update flags' ptr false)

/-- A call and all the calls it makes, in the recursion of `tuneColumns`. -/
def columnsCalls (formula : List (List BoolPtr)) (maxSize recCallNum : Nat) :
    Nat → Nat → Flags → List TuneCall
  | 0, callNumber, flags => [⟨formula, maxSize, recCallNum, callNumber, flags⟩]
  | columns + 1, callNumber, flags =>
    ⟨formula, maxSize, recCallNum, callNumber, flags⟩ ::
      if recCallNum = callNumber then []
      else (cellAttempts (tuneColumns formula maxSize recCallNum columns (callNumber + 1)) formula
        (loopCells maxSize callNumber formula.length) flags).flatMap
          (columnsCalls formula maxSize recCallNum columns (callNumber + 1))

namespace DataBase

/-- The calls of the loop over `i`, in the recursion of `deepen`. -/
def deepenCalls (andClause : List (List BoolPtr)) (maxSize : Nat) :
    List Nat → Flags → List TuneCall
  | [], _ => []
  | i :: rest, flags =>
    columnsCalls andClause maxSize i andClause.length 0 flags ++
      match tuneFunctions andClause maxSize i 0 flags with
      | (some true, _) => []
      | (_, flags') =>
        if i = andClause.length - 1 then [] else deepenCalls andClause maxSize rest flags'

/-- Every call of `tuneFunctions` made while `providePackets` runs. -/
def searchCalls (db : DataBase) (requestedData : List String) : List TuneCall :=
  let st := requestedData.foldl collectClause ⟨db, [], 0⟩
  deepenCalls st.andClause st.maxSize (List.range st.andClause.length) st.db.flags

end DataBase

/-- The first of them is the call itself. -/
theorem mem_columnsCalls_self (formula : List (List BoolPtr)) (maxSize recCallNum columns
    callNumber : Nat) (flags : Flags) :
    ⟨formula, maxSize, recCallNum, callNumber, flags⟩
      ∈ columnsCalls formula maxSize recCallNum columns callNumber flags := by
  cases columns <;> simp [columnsCalls]

/-- All of them are about the same formula. -/
theorem formula_of_mem_columnsCalls {formula : List (List BoolPtr)} {maxSize recCallNum : Nat}
    {call : TuneCall} :
    ∀ (columns callNumber : Nat) (flags : Flags),
      call ∈ columnsCalls formula maxSize recCallNum columns callNumber flags →
        call.formula = formula := by
  intro columns
  induction columns with
  | zero =>
    intro callNumber flags hcall
    rw [columnsCalls, List.mem_singleton] at hcall
    rw [hcall]
  | succ columns ih =>
    intro callNumber flags hcall
    rw [columnsCalls, List.mem_cons] at hcall
    rcases hcall with hself | hcall
    · rw [hself]
    · split at hcall
      · simp at hcall
      · obtain ⟨flags', -, hcall⟩ := List.mem_flatMap.mp hcall
        exact ih (callNumber + 1) flags' hcall

namespace DataBase

/-- With an empty clause every call runs off the end, at every depth. -/
theorem result_of_mem_deepenCalls {andClause : List (List BoolPtr)} (hempty : [] ∈ andClause)
    {maxSize : Nat} {call : TuneCall} (rounds : List Nat) (flags : Flags)
    (hcall : call ∈ deepenCalls andClause maxSize rounds flags) : call.result = none := by
  induction rounds generalizing flags with
  | nil => simp [deepenCalls] at hcall
  | cons i rounds ih =>
    rw [deepenCalls, tuneFunctions_runs_off hempty, List.mem_append] at hcall
    rcases hcall with hfirst | hlater
    · have hformula := formula_of_mem_columnsCalls _ _ _ hfirst
      rw [TuneCall.result, hformula, tuneFunctions_runs_off hempty]
    · simp only at hlater
      split at hlater
      · simp at hlater
      · exact ih _ hlater

/-- The loop over `i` makes a first call, unless there is nothing to search. -/
theorem exists_mem_deepenCalls {andClause : List (List BoolPtr)} (hne : andClause ≠ [])
    (maxSize : Nat) (flags : Flags) :
    ∃ call, call ∈ deepenCalls andClause maxSize (List.range andClause.length) flags := by
  obtain ⟨clause, rest, hcons⟩ := List.exists_cons_of_ne_nil hne
  rw [hcons, List.length_cons, List.range_succ_eq_map, deepenCalls]
  exact ⟨_, List.mem_append_left _ (mem_columnsCalls_self _ _ _ _ _ _)⟩

/-- Without empty clauses the first call is the only one, and it returns. -/
theorem result_of_mem_deepenCalls_accepts {andClause : List (List BoolPtr)}
    (hempty : [] ∉ andClause) {maxSize : Nat}
    (hmax : ∀ clause ∈ andClause, clause.length ≤ maxSize) {flags : Flags} {call : TuneCall}
    (hcall : call ∈ deepenCalls andClause maxSize (List.range andClause.length) flags) :
    call.result = some true := by
  cases andClause with
  | nil => simp [deepenCalls] at hcall
  | cons clause rest =>
    have hpos : 0 < maxSize := by
      have hle := hmax clause List.mem_cons_self
      have hne : clause ≠ [] := fun h => hempty (h ▸ List.mem_cons_self)
      have := List.length_pos_iff.mpr hne
      omega
    have haccepts := tuneFunctions_chooses hempty hpos (show 0 < (clause :: rest).length by simp)
      flags
    rw [List.length_cons, List.range_succ_eq_map, deepenCalls, haccepts, List.append_nil,
      List.length_cons, columnsCalls, if_pos rfl, List.mem_singleton] at hcall
    rw [hcall, TuneCall.result, haccepts]

/-- If every requested name has a provider no call runs off its end. -/
theorem result_of_mem_searchCalls {db : DataBase} {requestedData : List String}
    (hfound : ¬ db.Rejects requestedData) {call : TuneCall}
    (hcall : call ∈ db.searchCalls requestedData) : call.result = some true := by
  have hst := collected_foldl requestedData ⟨db, [], 0⟩
  have hand : (requestedData.foldl collectClause ⟨db, [], 0⟩).andClause
      = db.formula requestedData := hst.andClause
  unfold searchCalls at hcall
  simp only [hand] at hcall
  have hempty : [] ∉ db.formula requestedData := by rwa [nil_mem_formula_iff]
  exact result_of_mem_deepenCalls_accepts hempty hst.maxSize hcall

/-- **When every call of the search returns.** If a requested name has no provider, the first
call already runs off its end, and so do all others; if every name has one, there is at most
one call, and it returns. -/
theorem searchCalls_return_iff (db : DataBase) (requestedData : List String) :
    (∀ call ∈ db.searchCalls requestedData, call.result ≠ none) ↔ ¬ db.Rejects requestedData := by
  constructor
  · intro hreturn hrejects
    have hand : (requestedData.foldl collectClause ⟨db, [], 0⟩).andClause
        = db.formula requestedData := (collected_foldl requestedData ⟨db, [], 0⟩).andClause
    have hempty := nil_mem_formula_iff.mpr hrejects
    rw [← hand] at hempty
    obtain ⟨call, hcall⟩ := exists_mem_deepenCalls (List.ne_nil_of_mem hempty) _ _
    exact hreturn call hcall (result_of_mem_deepenCalls hempty _ _ hcall)
  · intro hfound call hcall
    rw [result_of_mem_searchCalls hfound hcall]
    simp

/-- Asking for a datum nobody offers makes the search run off its end. -/
theorem not_searchCalls_return : ¬ ∀ (order : HashOrder String) (yaml : YamlCpp) (db : DataBase),
    Reachable order yaml db → ∀ (requestedData : List String),
      ∀ call ∈ db.searchCalls requestedData, call.result ≠ none := by
  intro hreturn
  have hcall : ⟨[[]], 0, 0, 0, DataBase.empty.flags⟩
      ∈ DataBase.empty.searchCalls ["notPresentData"] := List.mem_cons_self
  exact hreturn (HashOrder.insertion String) YamlCpp.textless
    DataBase.empty .empty ["notPresentData"] _ hcall rfl

end DataBase

end ComuFrame
