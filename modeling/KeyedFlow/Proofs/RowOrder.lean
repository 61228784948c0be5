import KeyedFlow.Digest
import KeyedFlow.Proofs.Combination
import KeyedFlow.Proofs.RowWise
import KeyedFlow.Proofs.Sorting

/-!
# The order of the input

A run takes permutations of a table to permutations of a table, and a reducing stage takes them to the same table, after
which nothing can tell them apart (`Stage.applyAll_eq_of_perm`).  So the result of a pipeline is right or wrong
independently of the order of its input, and with a reducing operation it is the same file
(`Pipeline.run_perm_of_build`).
-/

namespace KeyedFlow

namespace Stage

private theorem apply_perm (stage : Stage) {t u : Table} (h : t.Perm u) : (stage.apply t).Perm (stage.apply u) := by
  by_cases hrow : stage.IsRowWise
  · rw [apply_eq_filterMap hrow, apply_eq_filterMap hrow]
    exact h.filterMap stage.onRecord
  · cases stage with
    | reduce aggregate => exact List.Perm.of_eq (aggregate.apply_perm h)
    | filter | map | changeKey => exact absurd (by simp [IsRowWise, operator]) hrow

private theorem applyAll_perm (stages : List Stage) {t u : Table} (h : t.Perm u) :
    (applyAll stages t).Perm (applyAll stages u) := by
  induction stages generalizing t u with
  | nil => exact h
  | cons stage rest ih => exact ih (stage.apply_perm h)

/-- From a reducing stage on, the order of the records before it makes no difference. -/
theorem applyAll_eq_of_perm {stages : List Stage} {aggregate : Aggregate} (hr : .reduce aggregate ∈ stages)
    {t u : Table} (h : t.Perm u) : applyAll stages t = applyAll stages u := by
  induction stages generalizing t u with
  | nil => cases hr
  | cons stage rest ih =>
    rcases List.mem_cons.1 hr with rfl | hr
    · rw [applyAll_cons, applyAll_cons]
      exact congrArg (applyAll rest) (aggregate.apply_perm h)
    · exact ih hr (stage.apply_perm h)

end Stage

/-- An operation named `REDUCE` resolves to a reducing stage. -/
private theorem Operation.Resolve.exists_reduce {rounding : Rounding} {operations : List Operation}
    {stages : List Stage} (h : Operation.Resolve rounding operations stages)
    (hr : ∃ operation ∈ operations, operation.operator = "REDUCE") :
    ∃ aggregate, .reduce aggregate ∈ stages := by
  induction h with
  | nil => simp at hr
  | @cons operation stage rest stages hstage _ ih =>
    obtain ⟨found, hmem, hname⟩ := hr
    rcases List.mem_cons.1 hmem with rfl | hmem
    · have hop : stage.operator = .reduce := Operator.name_injective ((operator_of_compile hstage).symm.trans hname)
      cases stage with
      | reduce aggregate => exact ⟨aggregate, List.mem_cons_self ..⟩
      | filter | map | changeKey => cases hop
    · obtain ⟨aggregate, ha⟩ := ih ⟨found, hmem, hname⟩
      exact ⟨aggregate, List.mem_cons_of_mem _ ha⟩

/-- The results of a pipeline on two permutations of a table are permutations of each other, so that comparing them
finds no difference.  If some operation reduces, they are the same table, with the same file and the same digest. -/
theorem Pipeline.run_perm_of_build {blueprint : Blueprint} {pipeline : Pipeline}
    (hbuild : blueprint.build = .ok pipeline) {t u : Table} (h : t.Perm u) :
    (pipeline.run t).Perm (pipeline.run u) ∧
    Validation.compare (pipeline.run t) (pipeline.run u) = .correct ∧
    ((∃ operation ∈ blueprint.operations, operation.operator = "REDUCE") →
      pipeline.run t = pipeline.run u ∧
      RecordFile.encode (pipeline.run t) = RecordFile.encode (pipeline.run u) ∧
      (pipeline.run t).digest = (pipeline.run u).digest) := by
  have hperm : (pipeline.run t).Perm (pipeline.run u) := by
    rw [run_eq_applyAll, run_eq_applyAll]
    exact Stage.applyAll_perm pipeline.stages h
  refine ⟨hperm, Validation.compare_eq_correct_iff.2 hperm, fun hr => ?_⟩
  obtain ⟨aggregate, ha⟩ := (Blueprint.resolve_of_build hbuild).exists_reduce hr
  have heq : pipeline.run t = pipeline.run u := by
    rw [run_eq_applyAll, run_eq_applyAll]
    exact Stage.applyAll_eq_of_perm ha h
  exact ⟨heq, by rw [heq], by rw [heq]⟩

/-- A floored quotient of an odd number, a repeated record and a sum, on a table and its reverse. -/
theorem Pipeline.run_perm_of_build_reverse :
    let blueprint : Blueprint :=
      ⟨"pipeline", [⟨"CHANGEKEY", "DIVIDE(2)"⟩, ⟨"REDUCE", "SUM"⟩, ⟨"MAP", "MULTIPLY(3)"⟩], .floor⟩
    let pipeline : Pipeline := ⟨"pipeline",
      [⟨1, ⟨"CHANGEKEY", "DIVIDE(2)"⟩, .changeKey ⟨.divide 2 (by decide), .floor⟩⟩,
        ⟨2, ⟨"REDUCE", "SUM"⟩, .reduce .sum⟩, ⟨3, ⟨"MAP", "MULTIPLY(3)"⟩, .map ⟨.multiply 3, .floor⟩⟩]⟩
    let t : Table := [⟨1, -5⟩, ⟨2, 4⟩, ⟨3, -6⟩, ⟨2, 4⟩]
    blueprint.build = .ok pipeline ∧ t.Perm t.reverse ∧
      Validation.compare (pipeline.run t) (pipeline.run t.reverse) = .correct ∧
      pipeline.run t = pipeline.run t.reverse := by
  intro blueprint pipeline t
  have hbuild : blueprint.build = .ok pipeline := rfl
  have hperm : t.Perm t.reverse := t.reverse_perm.symm
  have hreduce : ∃ operation ∈ blueprint.operations, operation.operator = "REDUCE" :=
    ⟨⟨"REDUCE", "SUM"⟩, by simp [blueprint], rfl⟩
  obtain ⟨-, hcompare, hsame⟩ := run_perm_of_build hbuild hperm
  exact ⟨hbuild, hperm, hcompare, (hsame hreduce).1⟩

end KeyedFlow
