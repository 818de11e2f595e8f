import ComuFrame.DataBase.Provide

/-!
# ComuFrame — when a failed search puts the flags back

A choice of `tuneFunctions` that fails is undone by writing `false`. That is the old value
only if the flag was not up before: packets that are the only one for some requested name are
selected before the search starts, and the comment in `providePackets` reminds of leaving those
alone.

A call that does not return true has written `false` behind every pointer its loops visited, at
whatever depth (`tuneFunctions_of_fails`). So it puts the flags back exactly if none of those
was up before (`tuneFunctions_undoes_iff`).
-/

namespace ComuFrame

/-- Writing `false` where it is already changes nothing. -/
theorem clear_eq_self_iff {flags : Flags} {ptrs : List BoolPtr} :
    clear flags ptrs = flags ↔ ∀ ptr ∈ ptrs, flags ptr = false := by
  constructor
  · intro heq ptr hptr
    rw [← heq]
    simp [clear, hptr]
  · intro hdown
    funext ptr
    unfold clear
    split
    · next hptr => exact (hdown ptr hptr).symm
    · rfl

/-- Without rows there is nothing to try. -/
theorem tuneFunctions_of_no_rows (formula : List (List BoolPtr)) (recCallNum callNumber : Nat)
    (flags : Flags) : tuneFunctions formula 0 recCallNum callNumber flags = (none, flags) := by
  unfold tuneFunctions
  cases formula.length - callNumber with
  | zero => rfl
  | succ columns => rfl

/-- **When a call undoes its choices**: exactly if it cannot fail, no clause being empty and
as many clauses there as it wants, or every flag its loops visit was down. -/
theorem tuneFunctions_undoes_iff (formula : List (List BoolPtr)) (maxSize : Nat)
    {recCallNum callNumber : Nat} (hle : callNumber ≤ recCallNum) (flags : Flags) :
    ((tuneFunctions formula maxSize recCallNum callNumber flags).1 ≠ some true →
      (tuneFunctions formula maxSize recCallNum callNumber flags).2 = flags) ↔
    ([] ∉ formula ∧ recCallNum < formula.length) ∨
      ∀ row column ptr, row < maxSize → callNumber ≤ column →
        formula[column]?.bind (fun clause => clause[row]?) = some ptr → flags ptr = false := by
  by_cases hable : [] ∉ formula ∧ recCallNum < formula.length
  · refine iff_of_true (fun hfailed => ?_) (Or.inl hable)
    rcases Nat.eq_zero_or_pos maxSize with hzero | hpos
    · rw [hzero, tuneFunctions_of_no_rows]
    · -- the first choice of every level is accepted
      have hcall := tuneColumns_accepts hable.1 hpos (recCallNum - callNumber)
        (formula.length - callNumber) callNumber (by omega) (by omega) flags
      rw [show callNumber + (recCallNum - callNumber) = recCallNum by omega] at hcall
      unfold tuneFunctions at hfailed
      rw [hcall] at hfailed
      exact absurd rfl hfailed
  · rw [or_iff_right hable]
    have hfails : [] ∈ formula ∨ formula.length ≤ recCallNum := by
      rw [not_and_or, not_not, Nat.not_lt] at hable
      exact hable
    rw [tuneFunctions_of_fails hfails]
    have hcells : (∀ ptr ∈ cellPtrs formula (loopCells maxSize callNumber formula.length),
          flags ptr = false) ↔
        ∀ row column ptr, row < maxSize → callNumber ≤ column →
          formula[column]?.bind (fun clause => clause[row]?) = some ptr → flags ptr = false := by
      simp only [mem_cellPtrs]
      constructor
      · exact fun hdown row column ptr hrow hcolumn hget =>
          hdown ptr ⟨row, column, hrow, hcolumn, hget⟩
      · exact fun hdown ptr ⟨row, column, hrow, hcolumn, hget⟩ =>
          hdown row column ptr hrow hcolumn hget
    rw [← hcells, ← clear_eq_self_iff]
    exact forall_prop_of_true (by simp)

/-- Two packets for one name, none for another. `providePackets` makes this formula of a request
for three names, if the first packet also has a field that no other packet has. -/
def missingFormula : List (List BoolPtr) := [[⟨0⟩, ⟨1⟩], []]

theorem tuneFunctions_undoes_sample :
    (tuneFunctions missingFormula 2 1 0 fun _ => false).2 = fun _ => false :=
  (tuneFunctions_undoes_iff missingFormula 2 (show 0 ≤ 1 by decide) fun _ => false).mpr
    (Or.inr fun _ _ _ _ _ _ => rfl) (by decide)

theorem tuneFunctions_not_undoing :
    ¬ ∀ (formula : List (List BoolPtr)) (maxSize recCallNum callNumber : Nat) (flags : Flags),
      callNumber ≤ recCallNum →
      (tuneFunctions formula maxSize recCallNum callNumber flags).1 ≠ some true →
        (tuneFunctions formula maxSize recCallNum callNumber flags).2 = flags := by
  intro hundoes
  have hflags := hundoes missingFormula 2 0 0 (Function.update (fun _ => false) ⟨0⟩ true)
    (by decide) (by decide)
  exact absurd (congrFun hflags ⟨0⟩) (by decide)

example :
    let db := DataBase.empty.addAll (Cpp.HashOrder.insertion String)
      [⟨(Cpp.UnorderedMap.empty.insert "a" "t").insert "b" "t", "node", "P1"⟩,
        ⟨Cpp.UnorderedMap.empty.insert "b" "t", "node", "P2"⟩]
    let st := ["a_t", "b_t", "c_t"].foldl DataBase.collectClause ⟨db, [], 0⟩
    st.andClause = [[⟨0⟩, ⟨1⟩], []] ∧ st.maxSize = 2 ∧ st.db.flags ⟨0⟩ = true := by decide

end ComuFrame
