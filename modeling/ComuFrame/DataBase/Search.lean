import ComuFrame.DataBase.Basic

/-!
# ComuFrame — what the search over the flags does

`evaluateOR` tests pointers, so `evaluateAND` only asks whether some clause is empty. That
splits every call of `tuneFunctions` into two cases, which this module computes exactly:

* **no empty clause** — the very first choice is accepted (`tuneFunctions_accepts`);
* **an empty clause** — no choice is ever accepted, every call runs off the end of the
  function, and every flag the loops visited has been written `false`
  (`tuneFunctions_runs_off`).

`deepen_accepts` and `deepen_rejects` carry the two cases to the loop of `providePackets`.
-/

namespace ComuFrame

/-! ## The evaluation only sees empty clauses -/

theorem evaluateOR_eq (OR : List BoolPtr) : evaluateOR OR = !OR.isEmpty := by
  cases OR with
  | nil => rfl
  | cons clause OR => simp [evaluateOR, BoolPtr.toBool]

theorem evaluateAND_iff (AND : List (List BoolPtr)) :
    evaluateAND AND = true ↔ [] ∉ AND := by
  induction AND with
  | nil => simp [evaluateAND]
  | cons clause AND ih =>
    cases clause with
    | nil => simp [evaluateAND, evaluateOR_eq]
    | cons ptr clause => simp [evaluateAND, evaluateOR_eq, ih]

theorem evaluateAND_eq_false {AND : List (List BoolPtr)} (hempty : [] ∈ AND) :
    evaluateAND AND = false := by
  rw [← Bool.not_eq_true, evaluateAND_iff]
  exact not_not.mpr hempty

/-! ## Writing `false` behind a list of pointers -/

/-- The flags with every pointer of `ptrs` written `false`. -/
def clear (flags : Flags) (ptrs : List BoolPtr) : Flags :=
  fun ptr => if ptr ∈ ptrs then false else flags ptr

@[simp] theorem clear_nil (flags : Flags) : clear flags [] = flags := by
  funext ptr; simp [clear]

theorem clear_clear (flags : Flags) (ptrs ptrs' : List BoolPtr) :
    clear (clear flags ptrs) ptrs' = clear flags (ptrs ++ ptrs') := by
  funext ptr
  simp only [clear, List.mem_append]
  by_cases h : ptr ∈ ptrs <;> by_cases h' : ptr ∈ ptrs' <;> simp [h, h']

theorem clear_congr {ptrs ptrs' : List BoolPtr} (h : ∀ ptr, ptr ∈ ptrs ↔ ptr ∈ ptrs')
    (flags : Flags) : clear flags ptrs = clear flags ptrs' := by
  funext ptr; simp only [clear, h]

/-- A choice that fails: the flag is set, the attempt clears what it visited, the flag is
written `false`. The value the flag had before is gone. -/
theorem update_clear_update (flags : Flags) (ptr : BoolPtr) (undone : List BoolPtr) :
    Function.update (clear (Function.update flags ptr true) undone) ptr false
      = clear flags (ptr :: undone) := by
  funext other
  by_cases h : other = ptr
  · subst h; simp [clear]
  · simp [clear, h]

/-! ## The cells of the loops -/

theorem mem_loopCells {maxSize callNumber columns row column : Nat} :
    (row, column) ∈ loopCells maxSize callNumber columns
      ↔ row < maxSize ∧ callNumber ≤ column ∧ column < columns := by
  simp only [loopCells, List.mem_flatMap, List.mem_range, List.mem_map, List.mem_range'_1,
    Prod.mk.injEq]
  constructor
  · rintro ⟨_, hrow, _, hcol, rfl, rfl⟩
    exact ⟨hrow, by omega, by omega⟩
  · rintro ⟨hrow, hle, hlt⟩
    exact ⟨row, hrow, column, by omega, rfl, rfl⟩

/-- The pointers behind the cells that exist: rows are ragged, so some do not. -/
def cellPtrs (formula : List (List BoolPtr)) (cells : List (Nat × Nat)) : List BoolPtr :=
  cells.filterMap fun cell => formula[cell.2]?.bind fun clause => clause[cell.1]?

theorem mem_cellPtrs {formula : List (List BoolPtr)} {maxSize callNumber : Nat} {ptr : BoolPtr} :
    ptr ∈ cellPtrs formula (loopCells maxSize callNumber formula.length) ↔
      ∃ row column, row < maxSize ∧ callNumber ≤ column ∧
        formula[column]?.bind (fun clause => clause[row]?) = some ptr := by
  simp only [cellPtrs, List.mem_filterMap, Prod.exists, mem_loopCells]
  constructor
  · rintro ⟨row, column, ⟨hrow, hle, _⟩, hptr⟩
    exact ⟨row, column, hrow, hle, hptr⟩
  · rintro ⟨row, column, hrow, hle, hptr⟩
    obtain ⟨clause, hclause, _⟩ := Option.bind_eq_some_iff.mp hptr
    exact ⟨row, column, ⟨hrow, hle, (List.getElem?_eq_some_iff.mp hclause).1⟩, hptr⟩

theorem cellPtrs_eq_nil {formula : List (List BoolPtr)} {maxSize callNumber : Nat}
    (hle : formula.length ≤ callNumber) :
    cellPtrs formula (loopCells maxSize callNumber formula.length) = [] := by
  rw [List.eq_nil_iff_forall_not_mem]
  intro ptr hptr
  obtain ⟨row, column, _, hcolumn, hget⟩ := mem_cellPtrs.mp hptr
  obtain ⟨clause, hclause, _⟩ := Option.bind_eq_some_iff.mp hget
  have := (List.getElem?_eq_some_iff.mp hclause).1
  omega

/-- Leaving out a column only leaves out pointers. -/
theorem cellPtrs_succ_subset {formula : List (List BoolPtr)} {maxSize callNumber : Nat}
    {ptr : BoolPtr}
    (h : ptr ∈ cellPtrs formula (loopCells maxSize (callNumber + 1) formula.length)) :
    ptr ∈ cellPtrs formula (loopCells maxSize callNumber formula.length) := by
  rw [mem_cellPtrs] at h ⊢
  obtain ⟨row, column, hrow, hle, hptr⟩ := h
  exact ⟨row, column, hrow, by omega, hptr⟩

/-- With `maxSize` the length of the longest clause, the first call visits every pointer of
the formula. -/
theorem mem_cellPtrs_zero {formula : List (List BoolPtr)} {maxSize : Nat} {ptr : BoolPtr}
    (hmax : ∀ clause ∈ formula, clause.length ≤ maxSize) :
    ptr ∈ cellPtrs formula (loopCells maxSize 0 formula.length)
      ↔ ∃ clause ∈ formula, ptr ∈ clause := by
  rw [mem_cellPtrs]
  constructor
  · rintro ⟨row, column, _, _, hptr⟩
    obtain ⟨clause, hclause, hrow⟩ := Option.bind_eq_some_iff.mp hptr
    exact ⟨clause, List.mem_of_getElem? hclause, List.mem_of_getElem? hrow⟩
  · rintro ⟨clause, hclause, hptr⟩
    obtain ⟨column, hcolumn⟩ := List.mem_iff_getElem?.mp hclause
    obtain ⟨row, hrow⟩ := List.mem_iff_getElem?.mp hptr
    have hlt := (List.getElem?_eq_some_iff.mp hrow).1
    have := hmax clause hclause
    exact ⟨row, column, by omega, by omega, by simp [hcolumn, hrow]⟩

/-! ## An empty clause: nothing is accepted -/

/-- The loops when no attempt succeeds and every attempt clears `undone`. Induction on the
cells still to visit. -/
theorem tuneCells_of_fails (attempt : Flags → Option Bool × Flags)
    (formula : List (List BoolPtr)) (undone : List BoolPtr)
    (hattempt : ∀ flags, (attempt flags).1 ≠ some true ∧ (attempt flags).2 = clear flags undone)
    (cells : List (Nat × Nat)) (flags : Flags) :
    tuneCells attempt formula cells flags
      = (none, if cellPtrs formula cells = [] then flags
          else clear flags (cellPtrs formula cells ++ undone)) := by
  induction cells generalizing flags with
  | nil => simp [tuneCells, cellPtrs]
  | cons cell cells ih =>
    obtain ⟨row, column⟩ := cell
    cases hptr : formula[column]?.bind (fun clause => clause[row]?) with
    | none =>
      have hcells : cellPtrs formula ((row, column) :: cells) = cellPtrs formula cells := by
        simp [cellPtrs, hptr]
      rw [tuneCells, hptr, hcells]
      exact ih flags
    | some ptr =>
      have hcells : cellPtrs formula ((row, column) :: cells)
          = ptr :: cellPtrs formula cells := by
        simp [cellPtrs, hptr]
      obtain ⟨hres, hflags⟩ := hattempt (Function.update flags ptr true)
      have hstep : tuneCells attempt formula ((row, column) :: cells) flags
          = tuneCells attempt formula cells (clear flags (ptr :: undone)) := by
        rw [tuneCells, hptr]
        -- `hres` rules out the branch that returns
        simp only
        rw [← update_clear_update, ← hflags]
      rw [hstep, ih, hcells, if_neg (List.cons_ne_nil _ _)]
      split
      · next hnil => rw [hnil, List.cons_append, List.nil_append]
      · rw [clear_clear]
        congr 1
        apply clear_congr
        intro other
        simp only [List.mem_append, List.mem_cons]
        tauto

/-- A depth beyond the last column is never reached, and what an empty clause is evaluated to
is never true: either way every attempt fails. Induction on the number of columns left: the
attempts of a call are either the evaluation or calls with one column less. -/
theorem tuneColumns_of_fails {formula : List (List BoolPtr)} {recCallNum : Nat}
    (hfails : [] ∈ formula ∨ formula.length ≤ recCallNum) (maxSize : Nat) :
    ∀ (columns callNumber : Nat), callNumber + columns = formula.length → ∀ flags : Flags,
      tuneColumns formula maxSize recCallNum columns callNumber flags
        = (none, clear flags (cellPtrs formula (loopCells maxSize callNumber formula.length))) := by
  intro columns
  induction columns with
  | zero =>
    intro callNumber hlen flags
    rw [tuneColumns, cellPtrs_eq_nil (show formula.length ≤ callNumber by omega), clear_nil]
  | succ columns ih =>
    intro callNumber hlen flags
    let undone := if recCallNum = callNumber then []
      else cellPtrs formula (loopCells maxSize (callNumber + 1) formula.length)
    have hundone : ∀ ptr ∈ undone,
        ptr ∈ cellPtrs formula (loopCells maxSize callNumber formula.length) := by
      intro ptr hptr
      simp only [undone] at hptr
      split at hptr
      · simp at hptr
      · exact cellPtrs_succ_subset hptr
    rw [tuneColumns, tuneCells_of_fails _ formula undone ?_]
    · congr 1
      split
      · next hnil => rw [hnil, clear_nil]
      · apply clear_congr
        intro ptr
        rw [List.mem_append, or_iff_left_of_imp (hundone ptr)]
    · intro flags
      simp only [undone]
      split
      · -- the evaluation is reached, so the depth is that of a column
        have hempty : [] ∈ formula := hfails.resolve_right (by omega)
        simp [evaluateAND_eq_false hempty]
      · rw [ih (callNumber + 1) (by omega)]
        simp

/-- A call that cannot succeed runs off the end, and leaves `false` behind every pointer its
loops visited. -/
theorem tuneFunctions_of_fails {formula : List (List BoolPtr)} {recCallNum : Nat}
    (hfails : [] ∈ formula ∨ formula.length ≤ recCallNum) (maxSize callNumber : Nat)
    (flags : Flags) :
    tuneFunctions formula maxSize recCallNum callNumber flags
      = (none, clear flags (cellPtrs formula (loopCells maxSize callNumber formula.length))) := by
  unfold tuneFunctions
  by_cases hle : callNumber ≤ formula.length
  · exact tuneColumns_of_fails hfails maxSize _ callNumber (by omega) flags
  · rw [show formula.length - callNumber = 0 by omega, tuneColumns,
      cellPtrs_eq_nil (show formula.length ≤ callNumber by omega), clear_nil]

/-- **With an empty clause every call runs off the end**, whatever its arguments. -/
theorem tuneFunctions_runs_off {formula : List (List BoolPtr)} (hempty : [] ∈ formula)
    (maxSize recCallNum callNumber : Nat) (flags : Flags) :
    tuneFunctions formula maxSize recCallNum callNumber flags
      = (none, clear flags (cellPtrs formula (loopCells maxSize callNumber formula.length))) :=
  tuneFunctions_of_fails (Or.inl hempty) maxSize callNumber flags

/-! ## No empty clause: the first choice is accepted -/

/-- The flags with every pointer of `ptrs` written `true`. -/
def raised (flags : Flags) (ptrs : List BoolPtr) : Flags :=
  fun ptr => if ptr ∈ ptrs then true else flags ptr

theorem raised_nil (flags : Flags) : raised flags [] = flags := by
  funext ptr; simp [raised]

theorem raised_update (flags : Flags) (ptr : BoolPtr) (ptrs : List BoolPtr) :
    raised (Function.update flags ptr true) ptrs = raised flags (ptr :: ptrs) := by
  funext other
  by_cases h : other = ptr
  · subst h; simp [raised]
  · simp [raised, h]

/-- The first pointers of the first `n` clauses. -/
def heads (formula : List (List BoolPtr)) (n : Nat) : List BoolPtr :=
  (formula.take n).filterMap List.head?

/-- The column at a place, when no clause is empty. -/
theorem exists_cons_of_notMem {formula : List (List BoolPtr)} (hempty : [] ∉ formula)
    {callNumber : Nat} (hlt : callNumber < formula.length) :
    ∃ ptr clause, formula[callNumber]? = some (ptr :: clause) ∧
      formula.drop callNumber = (ptr :: clause) :: formula.drop (callNumber + 1) := by
  have hdrop := List.drop_eq_getElem_cons hlt
  have hget := List.getElem?_eq_getElem hlt
  cases hclause : formula[callNumber] with
  | nil => exact absurd (hclause ▸ List.getElem_mem hlt) hempty
  | cons ptr clause =>
    rw [hclause] at hdrop hget
    exact ⟨ptr, clause, hget, hdrop⟩

/-- The loops start with the first row of the first column. -/
theorem loopCells_cons {maxSize callNumber columns : Nat} (hmax : 0 < maxSize)
    (hlt : callNumber < columns) :
    ∃ cells, loopCells maxSize callNumber columns = (0, callNumber) :: cells := by
  obtain ⟨rows, rfl⟩ : ∃ rows, maxSize = rows + 1 := ⟨maxSize - 1, by omega⟩
  obtain ⟨rest, hrest⟩ : ∃ rest, columns - callNumber = rest + 1 :=
    ⟨columns - callNumber - 1, by omega⟩
  rw [loopCells, List.range_succ_eq_map, List.flatMap_cons, hrest, List.range'_succ]
  exact ⟨_, rfl⟩

/-- Without empty clauses the first cell is accepted at every depth, so a call takes the first
pointers of as many clauses as it may choose. Induction on the depth left. -/
theorem tuneColumns_accepts {formula : List (List BoolPtr)} {maxSize : Nat}
    (hempty : [] ∉ formula) (hmax : 0 < maxSize) :
    ∀ (depth columns callNumber : Nat), callNumber + columns = formula.length →
      callNumber + depth < formula.length → ∀ flags : Flags,
        tuneColumns formula maxSize (callNumber + depth) columns callNumber flags
          = (some true, raised flags (heads (formula.drop callNumber) (depth + 1))) := by
  intro depth
  induction depth with
  | zero =>
    intro columns callNumber hlen hlt flags
    obtain ⟨columns, rfl⟩ : ∃ rest, columns = rest + 1 := ⟨columns - 1, by omega⟩
    obtain ⟨cells, hcells⟩ := loopCells_cons hmax (show callNumber < formula.length by omega)
    obtain ⟨ptr, clause, hclause⟩ := exists_cons_of_notMem hempty
      (show callNumber < formula.length from hlt)
    rw [tuneColumns, hcells, tuneCells, heads, hclause.2]
    simp [hclause.1, (evaluateAND_iff _).mpr hempty, ← raised_update, raised_nil]
  | succ depth ih =>
    intro columns callNumber hlen hlt flags
    obtain ⟨columns, rfl⟩ : ∃ rest, columns = rest + 1 := ⟨columns - 1, by omega⟩
    obtain ⟨cells, hcells⟩ := loopCells_cons hmax (show callNumber < formula.length by omega)
    obtain ⟨ptr, clause, hclause⟩ := exists_cons_of_notMem hempty
      (show callNumber < formula.length by omega)
    have hdeeper := ih columns (callNumber + 1) (by omega) (by omega)
      (Function.update flags ptr true)
    rw [show callNumber + 1 + depth = callNumber + (depth + 1) by omega] at hdeeper
    rw [tuneColumns, hcells, tuneCells, heads, hclause.2]
    simp only [hclause.1, Option.bind_some, List.getElem?_cons_zero]
    rw [if_neg (by omega), hdeeper, raised_update]
    rfl

/-- **Without empty clauses `tuneFunctions` accepts its first choice**, one pointer for each
clause it may choose for, whatever the other clauses need. -/
theorem tuneFunctions_chooses {formula : List (List BoolPtr)} {maxSize recCallNum : Nat}
    (hempty : [] ∉ formula) (hmax : 0 < maxSize) (hlt : recCallNum < formula.length)
    (flags : Flags) :
    tuneFunctions formula maxSize recCallNum 0 flags
      = (some true, raised flags (heads formula (recCallNum + 1))) := by
  have h := tuneColumns_accepts hempty hmax recCallNum formula.length 0 (by omega) (by omega) flags
  rwa [Nat.zero_add] at h

/-- The first pointer of the first clause. -/
def firstPtr (formula : List (List BoolPtr)) : Option BoolPtr := formula.head?.bind List.head?

/-- **Without empty clauses the first cell is accepted**, whatever the other clauses need. -/
theorem tuneFunctions_accepts {formula : List (List BoolPtr)} {maxSize : Nat} {ptr : BoolPtr}
    (hempty : [] ∉ formula) (hptr : firstPtr formula = some ptr) (hmax : 0 < maxSize)
    (flags : Flags) :
    tuneFunctions formula maxSize 0 0 flags = (some true, Function.update flags ptr true) := by
  obtain ⟨clause, hclause, hhead⟩ := Option.bind_eq_some_iff.mp hptr
  obtain ⟨rest, hrest⟩ := List.head?_eq_some_iff.mp hclause
  have hheads : heads formula 1 = [ptr] := by simp [heads, hrest, hhead]
  rw [tuneFunctions_chooses hempty hmax (by rw [hrest]; simp), hheads, ← raised_update, raised_nil]

/-! ## The deepening loop -/

namespace DataBase

theorem deepen_accepts {andClause : List (List BoolPtr)} {maxSize : Nat}
    (hempty : [] ∉ andClause) (hmax : ∀ clause ∈ andClause, clause.length ≤ maxSize)
    (flags : Flags) :
    deepen andClause maxSize (List.range andClause.length) flags
      = (true, fun ptr => if firstPtr andClause = some ptr then true else flags ptr) := by
  cases andClause with
  | nil => simp [deepen, firstPtr]
  | cons clause rest =>
    cases clause with
    | nil => simp at hempty
    | cons ptr clause =>
      have hfirst : firstPtr ((ptr :: clause) :: rest) = some ptr := rfl
      have hpos : 0 < maxSize := by
        have := hmax _ List.mem_cons_self
        rw [List.length_cons] at this
        omega
      rw [List.length_cons, List.range_succ_eq_map, deepen,
        tuneFunctions_accepts hempty hfirst hpos]
      simp only [hfirst, Option.some.injEq]
      congr 1
      funext other
      by_cases h : other = ptr
      · subst h; simp
      · simp [Function.update_of_ne h, Ne.symm h]

/-- Every depth fails, so the loop reaches its last round and reports the error. Induction
on the rounds left. -/
theorem deepen_rejects {andClause : List (List BoolPtr)} (hempty : [] ∈ andClause)
    (maxSize : Nat) (flags : Flags) :
    deepen andClause maxSize (List.range andClause.length) flags
      = (false, clear flags (cellPtrs andClause (loopCells maxSize 0 andClause.length))) := by
  have hrounds : ∀ (rounds first : Nat), 0 < rounds → first + rounds = andClause.length →
      ∀ flags : Flags, deepen andClause maxSize (List.range' first rounds) flags
        = (false, clear flags (cellPtrs andClause (loopCells maxSize 0 andClause.length))) := by
    intro rounds
    induction rounds with
    | zero => intro first hpos; omega
    | succ rounds ih =>
      intro first _ hlen flags
      rw [List.range'_succ, deepen, tuneFunctions_runs_off hempty]
      simp only
      split
      · rfl
      · next hlast =>
        rw [ih (first + 1) (by omega) (by omega), clear_clear]
        congr 1
        apply clear_congr
        simp
  have hpos : 0 < andClause.length := List.length_pos_of_mem hempty
  rw [List.range_eq_range']
  exact hrounds _ 0 hpos (by omega) flags

end DataBase

end ComuFrame
