import ComuFrame.DataBase.Answers
import ComuFrame.DataBase.Choices
import ComuFrame.Lib.Nested

/-!
# ComuFrame — what the search costs

`providePackets` tries one choice, then pairs of choices, then triples, each time with the loops
of `tuneFunctions` nested one level deeper. A request that is accepted never gets beyond the
first choice. One that is rejected goes through all of them, if a call that runs off its end is
read as false, and all its calls do.

* `length_searchCalls` — how many calls of `tuneFunctions` are made, exactly, for any request on
  any database;
* `factorial_le_searchCalls` — a rejected request that also asks for `n` data with several
  entries costs at least `2 ^ n * n!` calls. One misspelt name is enough.
-/

namespace ComuFrame

open Cpp Nested

/-! ## The cells of a loop -/

/-- The pointers of the clauses from the column on. -/
def width (formula : List (List BoolPtr)) (column : ℕ) : ℕ :=
  (formula.drop column).flatten.length

section Cells

variable {α β : Type}

theorem filterMap_getElem?_range (clause : List α) (n : ℕ) (hle : clause.length ≤ n) :
    (List.range n).filterMap (fun row => clause[row]?) = clause := by
  induction clause generalizing n with
  | nil => simp
  | cons a clause ih =>
    obtain ⟨rest, rfl⟩ : ∃ rest, n = rest + 1 := ⟨n - 1, by simp at hle; omega⟩
    have hrest := ih rest (by simpa using hle)
    rw [List.range_succ_eq_map, List.filterMap_cons, List.filterMap_map]
    simpa [Function.comp_def] using hrest

/-- The columns of a loop, read one after the other. -/
theorem filterMap_range' (l : List α) (f : α → Option β) (first : ℕ) :
    (List.range' first (l.length - first)).filterMap (fun column => l[column]?.bind f)
      = (l.drop first).filterMap f := by
  have hdrop := filterMap_getElem?_range (l.drop first) (l.length - first) (by simp)
  rw [← hdrop, List.filterMap_filterMap, List.range'_eq_map_range, List.filterMap_map]
  apply List.filterMap_congr
  intro column _
  simp [List.getElem?_drop]

/-- Row by row the loops visit what the clauses have. -/
theorem length_rows (clauses : List (List α)) (n : ℕ)
    (hmax : ∀ clause ∈ clauses, clause.length ≤ n) :
    ((List.range n).flatMap fun row => clauses.filterMap fun clause => clause[row]?).length
      = clauses.flatten.length := by
  induction clauses with
  | nil => simp
  | cons clause clauses ih =>
    obtain ⟨hclause, hclauses⟩ := List.forall_mem_cons.mp hmax
    have hrow (row : ℕ) : (clause :: clauses).filterMap (fun clause => clause[row]?)
        = (clause[row]?).toList ++ clauses.filterMap fun clause => clause[row]? := by
      cases h : clause[row]? with
      | none => simp [h]
      | some a => simp [h]
    have hfirst : (List.range n).flatMap (fun row => (clause[row]?).toList) = clause := by
      rw [← List.filterMap_eq_flatMap_toList]
      exact filterMap_getElem?_range clause n hclause
    simp only [hrow]
    rw [← (List.flatMap_append_perm (List.range n) _ _).length_eq, List.length_append, hfirst,
      ih hclauses, List.flatten_cons, List.length_append]

end Cells

theorem length_cellPtrs {formula : List (List BoolPtr)} {maxSize : ℕ}
    (hmax : ∀ clause ∈ formula, clause.length ≤ maxSize) (callNumber : ℕ) :
    (cellPtrs formula (loopCells maxSize callNumber formula.length)).length
      = width formula callNumber := by
  have hcells : cellPtrs formula (loopCells maxSize callNumber formula.length)
      = (List.range maxSize).flatMap fun row =>
          (formula.drop callNumber).filterMap fun clause => clause[row]? := by
    rw [cellPtrs, loopCells, List.filterMap_flatMap]
    congr 1
    funext row
    rw [List.filterMap_map, ← filterMap_range' formula _ callNumber]
    rfl
  rw [hcells, width]
  exact length_rows _ maxSize fun clause hclause => hmax clause (List.mem_of_mem_drop hclause)

/-! ## The calls of a search that fails -/

theorem length_cellAttempts {attempt : Flags → Option Bool × Flags}
    {formula : List (List BoolPtr)} (hattempt : ∀ flags, (attempt flags).1 ≠ some true)
    (cells : List (ℕ × ℕ)) (flags : Flags) :
    (cellAttempts attempt formula cells flags).length = (cellPtrs formula cells).length := by
  induction cells generalizing flags with
  | nil => rfl
  | cons cell cells ih =>
    obtain ⟨row, column⟩ := cell
    cases hptr : formula[column]?.bind (fun clause => clause[row]?) with
    | none =>
      have hcells : cellPtrs formula ((row, column) :: cells) = cellPtrs formula cells := by
        simp [cellPtrs, hptr]
      rw [cellAttempts, hptr, hcells]
      exact ih flags
    | some ptr =>
      have hcells : cellPtrs formula ((row, column) :: cells)
          = ptr :: cellPtrs formula cells := by
        simp [cellPtrs, hptr]
      rw [cellAttempts, hptr, hcells, List.length_cons]
      simp only [List.length_cons]
      split
      · next heq => exact absurd (by rw [heq]) (hattempt (Function.update flags ptr true))
      · rw [ih]

theorem length_flatMap_const {α β : Type} {l : List α} {f : α → List β} {n : ℕ}
    (hf : ∀ a ∈ l, (f a).length = n) : (l.flatMap f).length = l.length * n := by
  induction l with
  | nil => simp
  | cons a l ih =>
    obtain ⟨ha, hl⟩ := List.forall_mem_cons.mp hf
    rw [List.flatMap_cons, List.length_append, ha, ih hl, List.length_cons]
    ring

/-- A call with an empty clause to look at, and `depth` levels to go. Induction on the levels. -/
theorem length_columnsCalls {formula : List (List BoolPtr)} {maxSize : ℕ}
    (hempty : [] ∈ formula) (hmax : ∀ clause ∈ formula, clause.length ≤ maxSize) :
    ∀ (depth columns callNumber : ℕ), callNumber + columns = formula.length → depth < columns →
      ∀ flags : Flags,
        (columnsCalls formula maxSize (callNumber + depth) columns callNumber flags).length
          = calls (width formula) depth callNumber := by
  intro depth
  induction depth with
  | zero =>
    intro columns callNumber hlen hlt flags
    obtain ⟨rest, rfl⟩ : ∃ rest, columns = rest + 1 := ⟨columns - 1, by omega⟩
    rw [columnsCalls, if_pos (Nat.add_zero callNumber)]
    rfl
  | succ depth ih =>
    intro columns callNumber hlen hlt flags
    obtain ⟨rest, rfl⟩ : ∃ rest, columns = rest + 1 := ⟨columns - 1, by omega⟩
    have hfails (flags : Flags) : (tuneColumns formula maxSize (callNumber + (depth + 1)) rest
        (callNumber + 1) flags).1 ≠ some true := by
      rw [tuneColumns_of_fails (.inl hempty) maxSize rest (callNumber + 1) (by omega)]
      simp
    rw [columnsCalls, if_neg (by omega), List.length_cons, calls,
      length_flatMap_const (n := calls (width formula) depth (callNumber + 1)),
      length_cellAttempts hfails, length_cellPtrs hmax, Nat.add_comm]
    intro flags' _
    have hdeeper := ih rest (callNumber + 1) (by omega) (by omega) flags'
    rwa [show callNumber + 1 + depth = callNumber + (depth + 1) by omega] at hdeeper

namespace DataBase

/-- The loop over `i` goes through all depths. Induction on the rounds left. -/
theorem length_deepenCalls_rejects {andClause : List (List BoolPtr)} {maxSize : ℕ}
    (hempty : [] ∈ andClause) (hmax : ∀ clause ∈ andClause, clause.length ≤ maxSize)
    (flags : Flags) :
    (deepenCalls andClause maxSize (List.range andClause.length) flags).length
      = ∑ i ∈ Finset.range andClause.length, calls (width andClause) i 0 := by
  have hround (i : ℕ) (hi : i < andClause.length) (flags : Flags) :
      (columnsCalls andClause maxSize i andClause.length 0 flags).length
        = calls (width andClause) i 0 := by
    have hcalls := length_columnsCalls hempty hmax i andClause.length 0 (by omega) hi flags
    rwa [Nat.zero_add] at hcalls
  have hrounds : ∀ (rounds first : ℕ), first + rounds = andClause.length → ∀ flags : Flags,
      (deepenCalls andClause maxSize (List.range' first rounds) flags).length
        = ∑ i ∈ Finset.range rounds, calls (width andClause) (first + i) 0 := by
    intro rounds
    induction rounds with
    | zero => intro first _ flags; rfl
    | succ rounds ih =>
      intro first hlen flags
      rw [List.range'_succ, deepenCalls, tuneFunctions_runs_off hempty, List.length_append,
        hround first (by omega), Finset.sum_range_succ', Nat.add_zero, Nat.add_comm]
      congr 1
      simp only
      split
      · next hlast =>
        obtain rfl : rounds = 0 := by omega
        rfl
      · rw [ih (first + 1) (by omega)]
        apply Finset.sum_congr rfl
        intro i _
        rw [show first + 1 + i = first + (i + 1) by omega]
  have hall := hrounds andClause.length 0 (by omega) flags
  simp only [Nat.zero_add] at hall
  rwa [List.range_eq_range']

/-- Without empty clauses it ends with its first call. -/
theorem length_deepenCalls_accepts {andClause : List (List BoolPtr)} {maxSize : ℕ}
    (hempty : [] ∉ andClause) (hmax : ∀ clause ∈ andClause, clause.length ≤ maxSize)
    (flags : Flags) :
    (deepenCalls andClause maxSize (List.range andClause.length) flags).length
      = if andClause = [] then 0 else 1 := by
  cases andClause with
  | nil => rfl
  | cons clause rest =>
    have hpos : 0 < maxSize := by
      have hle := hmax clause List.mem_cons_self
      have hne : clause ≠ [] := fun h => hempty (h ▸ List.mem_cons_self)
      have := List.length_pos_iff.mpr hne
      omega
    have haccepts := tuneFunctions_chooses hempty hpos (show 0 < (clause :: rest).length by simp)
      flags
    rw [List.length_cons, List.range_succ_eq_map, deepenCalls, haccepts, List.append_nil,
      List.length_cons, columnsCalls, if_pos rfl, if_neg (List.cons_ne_nil _ _)]
    rfl

theorem length_searchCalls_rejects {db : DataBase} {requestedData : List String}
    (hnone : db.Rejects requestedData) : (db.searchCalls requestedData).length
      = ∑ i ∈ Finset.range (db.formula requestedData).length,
          calls (width (db.formula requestedData)) i 0 := by
  have hst := collected_foldl requestedData ⟨db, [], 0⟩
  have hand : (requestedData.foldl collectClause ⟨db, [], 0⟩).andClause
      = db.formula requestedData := hst.andClause
  unfold searchCalls
  simp only [hand]
  exact length_deepenCalls_rejects (nil_mem_formula_iff.mpr hnone) hst.maxSize _

/-- **How many calls the search makes**: for a rejected request a sum over all depths of the
products of the loops' lengths, and for one that is accepted none or one. -/
theorem length_searchCalls (db : DataBase) (requestedData : List String) :
    (db.searchCalls requestedData).length =
      if db.Rejects requestedData then
        ∑ depth ∈ Finset.range (db.formula requestedData).length,
          ∑ level ∈ Finset.range (depth + 1),
            ∏ column ∈ Finset.range level, width (db.formula requestedData) column
      else if db.formula requestedData = [] then 0 else 1 := by
  split
  · next hnone =>
    rw [length_searchCalls_rejects hnone]
    apply Finset.sum_congr rfl
    intro depth _
    rw [calls_eq]
    simp only [Nat.zero_add]
  · next hfound =>
    have hst := collected_foldl requestedData ⟨db, [], 0⟩
    have hand : (requestedData.foldl collectClause ⟨db, [], 0⟩).andClause
        = db.formula requestedData := hst.andClause
    unfold searchCalls
    simp only [hand]
    exact length_deepenCalls_accepts (fun h => hfound (nil_mem_formula_iff.mp h)) hst.maxSize _

/-! ## A rejected request -/

/-- The requested names with several entries. -/
def ambiguous (db : DataBase) (requestedData : List String) : List String :=
  requestedData.filter fun dataName => 1 < (db.providers dataName).length

/-- Their clauses go to the search. -/
theorem length_ambiguous (db : DataBase) (requestedData : List String) :
    (db.ambiguous requestedData).length
      = ((db.formula requestedData).filter fun clause => 1 < clause.length).length := by
  have hlen (dataName : String) :
      (db.clauseOf dataName).length = (db.providers dataName).length := by
    rw [clauseOf, List.length_map]
  rw [formula, List.filter_filter, List.filter_map, List.length_map, ambiguous]
  congr 1
  apply List.filter_congr
  intro dataName _
  simp only [Function.comp_apply, hlen, ← Bool.decide_and, decide_eq_decide]
  omega

/-- A column less is a clause less. -/
theorem le_width (formula : List (List BoolPtr)) (column : ℕ) :
    2 * ((formula.filter fun clause => 1 < clause.length).length - column)
      ≤ width formula column := by
  have htwice (clauses : List (List BoolPtr)) :
      2 * (clauses.filter fun clause => 1 < clause.length).length ≤ clauses.flatten.length := by
    induction clauses with
    | nil => simp
    | cons clause clauses ih =>
      rw [List.flatten_cons, List.length_append, List.filter_cons]
      split
      · next hlen =>
        have hlen := of_decide_eq_true hlen
        rw [List.length_cons]
        omega
      · omega
  have hdrop := htwice (formula.drop column)
  have hsplit : (formula.filter fun clause => 1 < clause.length).length
      = ((formula.take column).filter fun clause => 1 < clause.length).length
        + ((formula.drop column).filter fun clause => 1 < clause.length).length := by
    rw [← List.length_append, ← List.filter_append, List.take_append_drop]
  have htake : ((formula.take column).filter fun clause => 1 < clause.length).length ≤ column :=
    le_trans (List.length_filter_le _ _) (by simp)
  rw [width]
  omega

/-- **A rejected request costs a factorial** in the number of the data with several entries that
it asks for as well. -/
theorem factorial_le_searchCalls {db : DataBase} {requestedData : List String}
    (hnone : db.Rejects requestedData) :
    2 ^ (db.ambiguous requestedData).length * (db.ambiguous requestedData).length.factorial
      ≤ (db.searchCalls requestedData).length := by
  have hempty := nil_mem_formula_iff.mpr hnone
  -- the empty clause is none of theirs
  have hlt : (db.ambiguous requestedData).length < (db.formula requestedData).length := by
    rw [length_ambiguous]
    exact List.length_filter_lt_length_iff_exists.mpr ⟨[], hempty, by simp⟩
  obtain ⟨last, hlast⟩ : ∃ last, (db.formula requestedData).length = last + 1 :=
    ⟨(db.formula requestedData).length - 1, by omega⟩
  have hdeepest : 2 ^ (db.ambiguous requestedData).length
        * (db.ambiguous requestedData).length.factorial
      ≤ calls (width (db.formula requestedData)) last 0 := by
    refine factorial_le_calls (by omega) fun column _ => ?_
    rw [length_ambiguous]
    exact le_width (db.formula requestedData) column
  rw [length_searchCalls_rejects hnone, hlast, Finset.sum_range_succ]
  omega

/-- Two names with two packets each, and one that nobody provides. -/
theorem factorial_le_searchCalls_sample :
    8 ≤ ((DataBase.empty.addAll (HashOrder.insertion String) disjointCalls).searchCalls
      ["a_t", "b_t", "missing"]).length := by
  have hnone : (DataBase.empty.addAll (HashOrder.insertion String) disjointCalls).Rejects
      ["a_t", "b_t", "missing"] := by decide
  have hcost := factorial_le_searchCalls hnone
  have htwo : ((DataBase.empty.addAll (HashOrder.insertion String) disjointCalls).ambiguous
      ["a_t", "b_t", "missing"]).length = 2 := by decide
  rw [htwo] at hcost
  exact hcost

end DataBase

end ComuFrame
