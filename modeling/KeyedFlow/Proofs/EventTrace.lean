import KeyedFlow.Proofs.RunLog
import KeyedFlow.Proofs.RowWise
import Mathlib.Data.Finset.Card

/-!
# The trace of a run

The events of a run are found at fixed places: the start of the pipeline, two events for each operation, and the end of
the pipeline (`Event.IsTrace`).  They tell the numbers of rows of the tables that the operations receive and leave
(`Pipeline.after`), so the number that one operation leaves is the number that the next one receives.  What becomes of
the number at an operation depends on its operator (`Operator.Counts`, `Stage.counts_apply`).
-/

namespace KeyedFlow

/-- The table at hand after the first operations of a run, `count` of them. -/
def Pipeline.after (pipeline : Pipeline) (t : Table) (count : Nat) : Table :=
  Step.runAll (pipeline.steps.take count) t

/-- Whether events are the trace of operations, each of which receives a table of a sequence and leaves the next one. -/
structure Event.IsTrace (name : String) (operations : List Operation) (tables : Nat → Table) (events : List Event) :
    Prop where
  length_eq : events.length = 2 * operations.length + 2
  /-- The start of the pipeline tells the number of operations and the rows of the first table. -/
  first : events[0]? = some (.pipelineStarted name operations.length (tables 0).length)
  /-- The start of an operation tells its position, counted from one, and what was written. -/
  started : ∀ {i : Nat} {operation : Operation}, operations[i]? = some operation →
    events[2 * i + 1]? = some (.operationStarted (i + 1) operation.operator operation.function)
  /-- The end of an operation tells in addition the rows that it has received and those that it leaves. -/
  completed : ∀ {i : Nat} {operation : Operation}, operations[i]? = some operation →
    events[2 * i + 2]? = some (.operationCompleted (i + 1) operation.operator operation.function (tables i).length
      (tables (i + 1)).length)
  /-- The end of the pipeline tells the rows of the last table. -/
  last : events[2 * operations.length + 1]? = some (.pipelineCompleted name (tables operations.length).length)

/-- What becomes of the number of rows when an operator makes one table into another. -/
def Operator.Counts (operator : Operator) (t u : Table) : Prop :=
  match operator with
  | .map | .changeKey => u.length = t.length
  | .filter => u.length ≤ t.length
  | .reduce => u.length = t.keys.toFinset.card ∧ u.length ≤ t.length ∧ (u.length = 0 → t.length = 0)

private theorem length_ascendingKeys (keys : List Int64) : (ascendingKeys keys).length = keys.toFinset.card := by
  rw [ascendingKeys, List.length_mergeSort, List.card_toFinset]

private theorem Aggregate.length_apply (aggregate : Aggregate) (t : Table) :
    (aggregate.apply t).length = t.keys.toFinset.card := by
  rw [apply_eq, List.length_map, length_ascendingKeys]

/-- A table with rows has keys, so reducing leaves rows of it. -/
private theorem Aggregate.length_eq_zero_of_apply {aggregate : Aggregate} {t : Table}
    (h : (aggregate.apply t).length = 0) : t.length = 0 := by
  rw [length_apply, Finset.card_eq_zero, List.toFinset_eq_empty_iff] at h
  rw [← List.length_map Record.key, show t.map Record.key = [] from h, List.length_nil]

/-- Every stage leaves the number of rows that its operator allows. -/
theorem Stage.counts_apply (stage : Stage) (t : Table) : stage.operator.Counts t (stage.apply t) := by
  cases stage with
  | filter condition => exact List.length_filter_le _ t
  | map formula => exact List.length_map _
  | changeKey formula => exact List.length_map _
  | reduce aggregate =>
    exact ⟨aggregate.length_apply t, aggregate.length_apply_le t, Aggregate.length_eq_zero_of_apply⟩

namespace Step

private theorem length_eventsAll (steps : List Step) (t : Table) : (eventsAll steps t).length = 2 * steps.length := by
  induction steps generalizing t with
  | nil => rfl
  | cons step rest ih =>
    rw [eventsAll, List.length_append, ih, List.length_cons]
    show 2 + 2 * rest.length = 2 * (rest.length + 1)
    omega

/-- The two events of a step stand at twice its place. -/
private theorem getElem?_eventsAll {steps : List Step} {i : Nat} {step : Step} (h : steps[i]? = some step) (t : Table) :
    (eventsAll steps t)[2 * i]? =
      some (.operationStarted step.position step.operation.operator step.operation.function) ∧
    (eventsAll steps t)[2 * i + 1]? =
      some (.operationCompleted step.position step.operation.operator step.operation.function
        (runAll (steps.take i) t).length (runAll (steps.take (i + 1)) t).length) := by
  induction steps generalizing i t with
  | nil => cases h
  | cons first rest ih =>
    cases i with
    | zero =>
      cases h
      exact ⟨rfl, rfl⟩
    | succ i =>
      -- behind the two events of the first step come those of the rest, on the table that it leaves
      exact ih h (first.stage.apply t)

private theorem runAll_take_succ {steps : List Step} {i : Nat} {step : Step} (h : steps[i]? = some step) (t : Table) :
    runAll (steps.take (i + 1)) t = step.stage.apply (runAll (steps.take i) t) := by
  unfold runAll
  rw [List.take_add_one, h, List.foldl_append]
  rfl

end Step

namespace Blueprint

/-- The step of an operation is at the place of the operation, and has its position and its stage. -/
private theorem getElem?_of_resolve {rounding : Rounding} {position : Nat} {operations : List Operation}
    {steps : List Step} (h : resolve rounding position operations = .ok steps) {i : Nat} {operation : Operation}
    (hi : operations[i]? = some operation) :
    ∃ stage, operation.compile rounding = .ok stage ∧ steps[i]? = some ⟨position + i, operation, stage⟩ := by
  induction operations generalizing position steps i with
  | nil => cases hi
  | cons first rest ih =>
    obtain ⟨stage, more, hstage, hmore, rfl⟩ := resolve_cons_eq_ok_iff.1 h
    cases i with
    | zero =>
      cases hi
      exact ⟨stage, hstage, rfl⟩
    | succ i =>
      obtain ⟨found, hfound, hget⟩ := ih hmore hi
      refine ⟨found, hfound, ?_⟩
      rw [List.getElem?_cons_succ, hget, Nat.add_right_comm, Nat.add_assoc]

end Blueprint

namespace Pipeline

private theorem getElem?_events {pipeline : Pipeline} {t : Table} {k : Nat} {event : Event}
    (h : (Step.eventsAll pipeline.steps t)[k]? = some event) : (pipeline.events t)[k + 1]? = some event := by
  obtain ⟨hk, -⟩ := List.getElem?_eq_some_iff.1 h
  show (Step.eventsAll pipeline.steps t ++ [_])[k]? = some event
  rw [List.getElem?_append_left hk, h]

private theorem length_events (pipeline : Pipeline) (t : Table) :
    (pipeline.events t).length = 2 * pipeline.steps.length + 2 := by
  rw [events, List.length_append, List.length_cons, Step.length_eventsAll]
  rfl

private theorem after_length (pipeline : Pipeline) (t : Table) :
    pipeline.after t pipeline.steps.length = pipeline.run t := by
  rw [after, List.take_length]
  rfl

/-- The events of a run are the trace of its operations on the tables at hand, from the input to the result.  Every
operation has a known operator, which says how the numbers of rows before and after it are related. -/
theorem isTrace_of_build {blueprint : Blueprint} {pipeline : Pipeline} (hbuild : blueprint.build = .ok pipeline)
    (t : Table) :
    Event.IsTrace blueprint.name blueprint.operations (pipeline.after t) (pipeline.events t) ∧
    pipeline.after t 0 = t ∧ pipeline.after t blueprint.operations.length = pipeline.run t ∧
    ∀ i operation, blueprint.operations[i]? = some operation →
      ∃ operator : Operator, operation.operator = operator.name ∧
        operator.Counts (pipeline.after t i) (pipeline.after t (i + 1)) := by
  obtain ⟨steps, hsteps, rfl⟩ := map_eq_ok_iff.1 hbuild
  have hlength : blueprint.operations.length = steps.length := by
    rw [← Blueprint.map_operation_of_resolve hsteps, List.length_map]
  rw [hlength, after_length]
  refine ⟨?_, rfl, rfl, fun i operation hi => ?_⟩
  · constructor
    case length_eq => rw [length_events, hlength]
    case first => rw [hlength]; rfl
    case started =>
      intro i operation hi
      obtain ⟨stage, -, hstep⟩ := Blueprint.getElem?_of_resolve hsteps hi
      rw [getElem?_events (Step.getElem?_eventsAll hstep t).1, Nat.add_comm 1 i]
    case completed =>
      intro i operation hi
      obtain ⟨stage, -, hstep⟩ := Blueprint.getElem?_of_resolve hsteps hi
      rw [getElem?_events (Step.getElem?_eventsAll hstep t).2, Nat.add_comm 1 i]
      rfl
    case last =>
      rw [hlength, after_length, ← Step.length_eventsAll steps t]
      exact List.getElem?_concat_length
  · -- the table behind a step is what its stage makes of the table before it
    obtain ⟨stage, hstage, hstep⟩ := Blueprint.getElem?_of_resolve hsteps hi
    refine ⟨stage.operator, Operation.operator_of_compile hstage, ?_⟩
    unfold after
    rw [Step.runAll_take_succ hstep]
    exact stage.counts_apply _

/-- A `FILTER` that leaves three of four rows, and a count that leaves one row for each of two keys. -/
theorem isTrace_of_build_count :
    let blueprint : Blueprint := ⟨"pipeline", [⟨"FILTER", "GT(1)"⟩, ⟨"REDUCE", "COUNT"⟩], .floor⟩
    let pipeline : Pipeline := ⟨"pipeline",
      [⟨1, ⟨"FILTER", "GT(1)"⟩, .filter (.greater 1)⟩, ⟨2, ⟨"REDUCE", "COUNT"⟩, .reduce .count⟩]⟩
    let t : Table := [⟨4, 7⟩, ⟨-3, 1⟩, ⟨4, 2⟩, ⟨5, 9⟩]
    blueprint.build = .ok pipeline ∧
      Event.IsTrace blueprint.name blueprint.operations (pipeline.after t) (pipeline.events t) ∧
      (pipeline.events t)[2]? = some (.operationCompleted 1 "FILTER" "GT(1)" 4 3) ∧
      (pipeline.events t)[4]? = some (.operationCompleted 2 "REDUCE" "COUNT" 3 2) ∧
      Operator.reduce.Counts (pipeline.after t 1) (pipeline.run t) := by
  intro blueprint pipeline t
  have hbuild : blueprint.build = .ok pipeline := rfl
  obtain ⟨htrace, -, hlast, hcounts⟩ := isTrace_of_build hbuild t
  obtain ⟨operator, hname, hreduce⟩ := hcounts 1 ⟨"REDUCE", "COUNT"⟩ rfl
  rw [← Operator.name_injective (a := .reduce) hname] at hreduce
  have hrows : (pipeline.after t 2).length = 2 := hreduce.1.trans (by decide)
  have hcompleted := htrace.completed (i := 1) rfl
  rw [show pipeline.after t (1 + 1) = pipeline.after t 2 from rfl, hrows] at hcompleted
  exact ⟨hbuild, htrace, htrace.completed (i := 0) rfl, hcompleted, hlast ▸ hreduce⟩

end Pipeline

end KeyedFlow
