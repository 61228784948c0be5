import KeyedFlow.Proofs.RowWise

/-!
# Overwritten keys

Until records are grouped nothing reads their keys: a stage that looks at one record at a time makes tables with the
same values into tables with the same values (`Stage.values_apply_congr`), and `CHANGEKEY` makes them into the same
table (`Formula.rekey_congr`).  So the keys before a `CHANGEKEY` are lost on the result, unless a `REDUCE` has read them
first, and a `CHANGEKEY` whose keys are overwritten in this way can be left out (`Pipeline.run_changeKey_of_build`).
-/

namespace KeyedFlow

/-- Which records meet a condition, and what becomes of them, is decided by the values. -/
private theorem Condition.values_apply (condition : Condition) (t : Table) :
    Table.values (condition.apply t) = t.values.filter condition.holds := by
  unfold Condition.apply Table.values
  rw [List.filter_map]
  rfl

private theorem Formula.values_mapValues (formula : Formula) (t : Table) :
    Table.values (formula.mapValues t) = t.values.map formula.eval := by
  simp [Formula.mapValues, Table.values]

private theorem Formula.values_rekey (formula : Formula) (t : Table) : Table.values (formula.rekey t) = t.values := by
  simp [Formula.rekey, Table.values]

/-- The keys of a rekeyed table come from the values. -/
private theorem Formula.rekey_eq (formula : Formula) (t : Table) :
    formula.rekey t = t.values.map fun v => ⟨formula.eval v, v⟩ := by
  simp [Formula.rekey, Table.values]

/-- Rekeying a table forgets the keys it had. -/
theorem Formula.rekey_congr (formula : Formula) {t u : Table} (h : t.values = u.values) :
    formula.rekey t = formula.rekey u := by
  rw [rekey_eq, rekey_eq, h]

namespace Stage

/-- A stage that looks at one record at a time computes values from values. -/
theorem values_apply_congr {stage : Stage} (hrow : stage.IsRowWise) {t u : Table} (h : t.values = u.values) :
    Table.values (stage.apply t) = Table.values (stage.apply u) := by
  cases stage with
  | filter condition =>
    show Table.values (condition.apply t) = Table.values (condition.apply u)
    rw [condition.values_apply, condition.values_apply, h]
  | map formula =>
    show Table.values (formula.mapValues t) = Table.values (formula.mapValues u)
    rw [formula.values_mapValues, formula.values_mapValues, h]
  | changeKey formula => exact congrArg Table.values (formula.rekey_congr h)
  | reduce aggregate => exact absurd rfl hrow

private theorem values_applyAll_congr {stages : List Stage} (hrow : ∀ stage ∈ stages, stage.IsRowWise) {t u : Table}
    (h : t.values = u.values) : Table.values (applyAll stages t) = Table.values (applyAll stages u) := by
  induction stages generalizing t u with
  | nil => exact h
  | cons stage rest ih =>
    exact ih (fun s hs => hrow s (List.mem_cons_of_mem _ hs))
      (values_apply_congr (hrow stage (List.mem_cons_self ..)) h)

/-- From a `CHANGEKEY` on, the keys before it make no difference. -/
private theorem applyAll_changeKey_congr {stages : List Stage} (hrow : ∀ stage ∈ stages, stage.IsRowWise)
    (formula : Formula) (rest : List Stage) {t u : Table} (h : t.values = u.values) :
    applyAll (stages ++ .changeKey formula :: rest) t = applyAll (stages ++ .changeKey formula :: rest) u := by
  have hkeys : formula.rekey (applyAll stages t) = formula.rekey (applyAll stages u) :=
    formula.rekey_congr (values_applyAll_congr hrow h)
  rw [applyAll_append, applyAll_append, applyAll_cons, applyAll_cons]
  exact congrArg (applyAll rest) hkeys

/-- A `CHANGEKEY` whose keys are overwritten before a `REDUCE` can be left out. -/
private theorem applyAll_changeKey_changeKey (before : List Stage) (lost : Formula) {middle : List Stage}
    (hrow : ∀ stage ∈ middle, stage.IsRowWise) (formula : Formula) (after : List Stage) (t : Table) :
    applyAll (before ++ .changeKey lost :: (middle ++ .changeKey formula :: after)) t =
      applyAll (before ++ (middle ++ .changeKey formula :: after)) t := by
  rw [applyAll_append, applyAll_append, applyAll_cons]
  exact applyAll_changeKey_congr hrow formula after (lost.values_rekey (applyAll before t))

end Stage

/-- An operation named `CHANGEKEY` resolves to a stage that changes keys. -/
private theorem Operation.exists_changeKey_of_compile {rounding : Rounding} {function : String} {stage : Stage}
    (h : Operation.compile rounding ⟨"CHANGEKEY", function⟩ = .ok stage) : ∃ formula, stage = .changeKey formula := by
  have hop : stage.operator = .changeKey := Operator.name_injective (operator_of_compile h).symm
  cases stage with
  | changeKey formula => exact ⟨formula, rfl⟩
  | filter | map | reduce => cases hop

/-- Operations around a `CHANGEKEY` resolve to stages around a stage that changes keys. -/
private theorem Operation.Resolve.exists_changeKey {rounding : Rounding} {before after : List Operation}
    {function : String} {stages : List Stage}
    (h : Operation.Resolve rounding (before ++ ⟨"CHANGEKEY", function⟩ :: after) stages) :
    ∃ first formula rest, stages = first ++ .changeKey formula :: rest ∧
      Operation.Resolve rounding before first ∧ Operation.Resolve rounding after rest := by
  obtain ⟨first, more, rfl, hfirst, hmore⟩ := h.exists_append
  cases hmore with
  | @cons _ stage _ rest hstage hrest =>
    obtain ⟨formula, rfl⟩ := exists_changeKey_of_compile hstage
    exact ⟨first, formula, rest, rfl, hfirst, hrest⟩

/-- Let a pipeline have a `CHANGEKEY` before any `REDUCE`.  Then tables that differ in their keys only have the same
result.  And a `CHANGEKEY` that is followed by a `CHANGEKEY`, with no `REDUCE` between them, can be left out. -/
theorem Pipeline.run_changeKey_of_build (name : String) (rounding : Rounding) :
    (∀ (before : List Operation) (function : String) (after : List Operation) (pipeline : Pipeline),
      Blueprint.build ⟨name, before ++ ⟨"CHANGEKEY", function⟩ :: after, rounding⟩ = .ok pipeline →
      (∀ operation ∈ before, operation.operator ≠ "REDUCE") →
      ∀ t u : Table, t.values = u.values → pipeline.run t = pipeline.run u) ∧
    ∀ (before : List Operation) (lost : String) (middle : List Operation) (function : String)
      (after : List Operation) (pipeline : Pipeline),
      Blueprint.build ⟨name, before ++ ⟨"CHANGEKEY", lost⟩ :: (middle ++ ⟨"CHANGEKEY", function⟩ :: after),
        rounding⟩ = .ok pipeline →
      (∀ operation ∈ middle, operation.operator ≠ "REDUCE") →
      ∃ shorter, Blueprint.build ⟨name, before ++ (middle ++ ⟨"CHANGEKEY", function⟩ :: after), rounding⟩ = .ok shorter ∧
        ∀ t : Table, shorter.run t = pipeline.run t := by
  constructor
  · intro before function after pipeline hbuild hbefore t u h
    obtain ⟨first, formula, rest, hstages, hfirst, -⟩ := (Blueprint.resolve_of_build hbuild).exists_changeKey
    rw [run_eq_applyAll, run_eq_applyAll, hstages]
    exact Stage.applyAll_changeKey_congr (hfirst.operator_ne hbefore) formula rest h
  · intro before lost middle function after pipeline hbuild hmiddle
    obtain ⟨first, hidden, more, hstages, hfirst, hmore⟩ := (Blueprint.resolve_of_build hbuild).exists_changeKey
    -- without the first `CHANGEKEY` the operations resolve to the other stages
    obtain ⟨shorter, hshorter, hrest⟩ := Blueprint.exists_build_of_resolve (List.rel_append hfirst hmore) name
    refine ⟨shorter, hshorter, fun t => ?_⟩
    obtain ⟨between, formula, rest, rfl, hbetween, -⟩ := hmore.exists_changeKey
    rw [run_eq_applyAll, run_eq_applyAll, hrest, hstages]
    exact (Stage.applyAll_changeKey_changeKey first hidden (hbetween.operator_ne hmiddle) formula rest t).symm

/-- Tables with different keys, and a `CHANGEKEY` whose keys are overwritten before they are counted. -/
theorem Pipeline.run_changeKey_of_build_reduce :
    let before : List Operation := [⟨"MAP", "ADD(1)"⟩]
    let middle : List Operation := [⟨"FILTER", "IS_ODD"⟩]
    let after : List Operation := [⟨"REDUCE", "COUNT"⟩]
    let pipeline : Pipeline := ⟨"pipeline", [⟨1, ⟨"MAP", "ADD(1)"⟩, .map ⟨.add 1, .floor⟩⟩,
      ⟨2, ⟨"CHANGEKEY", "MULTIPLY(7)"⟩, .changeKey ⟨.multiply 7, .floor⟩⟩, ⟨3, ⟨"FILTER", "IS_ODD"⟩, .filter .isOdd⟩,
      ⟨4, ⟨"CHANGEKEY", "DIVIDE(4)"⟩, .changeKey ⟨.divide 4 (by decide), .floor⟩⟩,
      ⟨5, ⟨"REDUCE", "COUNT"⟩, .reduce .count⟩]⟩
    let t : Table := [⟨1, 4⟩, ⟨1, 6⟩, ⟨2, -3⟩, ⟨1, -8⟩]
    let u : Table := [⟨9, 4⟩, ⟨-5, 6⟩, ⟨0, -3⟩, ⟨0, -8⟩]
    Blueprint.build ⟨"pipeline", before ++ ⟨"CHANGEKEY", "MULTIPLY(7)"⟩ ::
        (middle ++ ⟨"CHANGEKEY", "DIVIDE(4)"⟩ :: after), .floor⟩ = .ok pipeline ∧
      (∀ operation ∈ before, operation.operator ≠ "REDUCE") ∧ (∀ operation ∈ middle, operation.operator ≠ "REDUCE") ∧
      t.values = u.values ∧ t ≠ u ∧ pipeline.run t = pipeline.run u ∧
      ∃ shorter, Blueprint.build ⟨"pipeline", before ++ (middle ++ ⟨"CHANGEKEY", "DIVIDE(4)"⟩ :: after), .floor⟩ =
        .ok shorter ∧ shorter.run t = pipeline.run t := by
  intro before middle after pipeline t u
  have hbuild : Blueprint.build ⟨"pipeline", before ++ ⟨"CHANGEKEY", "MULTIPLY(7)"⟩ ::
      (middle ++ ⟨"CHANGEKEY", "DIVIDE(4)"⟩ :: after), .floor⟩ = .ok pipeline := rfl
  have hbefore : ∀ operation ∈ before, operation.operator ≠ "REDUCE" := by simp [before]
  have hmiddle : ∀ operation ∈ middle, operation.operator ≠ "REDUCE" := by simp [middle]
  have hvalues : t.values = u.values := rfl
  obtain ⟨hsame, hleft⟩ := run_changeKey_of_build "pipeline" .floor
  obtain ⟨shorter, hshorter, hrun⟩ := hleft before _ middle _ after pipeline hbuild hmiddle
  exact ⟨hbuild, hbefore, hmiddle, hvalues, by decide, hsame before _ _ pipeline hbuild hbefore t u hvalues,
    shorter, hshorter, hrun t⟩

end KeyedFlow
