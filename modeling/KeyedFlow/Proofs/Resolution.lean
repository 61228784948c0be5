import KeyedFlow.Pipeline
import Mathlib.Data.List.Forall2

/-!
# Resolved operations

A pipeline matters to tables only through its stages.  Building a blueprint succeeds exactly when every operation
resolves to a stage (`Operation.Resolve`), and the pipeline then consists of these stages (`Blueprint.resolve_of_build`,
`Blueprint.exists_build_of_resolve`).  Running it applies them one after the other (`Pipeline.run_eq_applyAll`).
-/

namespace KeyedFlow

namespace Stage

/-- The table after some stages. -/
def applyAll (stages : List Stage) (t : Table) : Table :=
  stages.foldl (fun t stage => stage.apply t) t

@[simp] theorem applyAll_nil (t : Table) : applyAll [] t = t := rfl

@[simp] theorem applyAll_cons (stage : Stage) (stages : List Stage) (t : Table) :
    applyAll (stage :: stages) t = applyAll stages (stage.apply t) := rfl

@[simp] theorem applyAll_append (stages more : List Stage) (t : Table) :
    applyAll (stages ++ more) t = applyAll more (applyAll stages t) := by
  unfold applyAll; exact List.foldl_append

end Stage

/-- The stages of a pipeline, in order. -/
def Pipeline.stages (pipeline : Pipeline) : List Stage :=
  pipeline.steps.map Step.stage

/-- A pipeline is run by applying its stages in order. -/
theorem Pipeline.run_eq_applyAll (pipeline : Pipeline) (t : Table) :
    pipeline.run t = Stage.applyAll pipeline.stages t := by
  unfold Pipeline.run Step.runAll Pipeline.stages Stage.applyAll
  rw [List.foldl_map]

theorem map_eq_ok_iff {ε α β : Type} {x : Except ε α} {f : α → β} {b : β} :
    x.map f = .ok b ↔ ∃ a, x = .ok a ∧ f a = b := by
  cases x with
  | error e => simp [Except.map]
  | ok a => simp [Except.map]

theorem map_eq_error_iff {ε α β : Type} {x : Except ε α} {f : α → β} {e : ε} :
    x.map f = .error e ↔ x = .error e := by
  cases x with
  | error e => simp [Except.map]
  | ok a => simp [Except.map]

theorem mapError_eq_ok_iff {ε ε' α : Type} {x : Except ε α} {f : ε → ε'} {a : α} :
    x.mapError f = .ok a ↔ x = .ok a := by
  cases x with
  | error e => simp [Except.mapError]
  | ok a => simp [Except.mapError]

theorem mapError_eq_error_iff {ε ε' α : Type} {x : Except ε α} {f : ε → ε'} {e : ε'} :
    x.mapError f = .error e ↔ ∃ cause, x = .error cause ∧ f cause = e := by
  cases x with
  | error e => simp [Except.mapError]
  | ok a => simp [Except.mapError]

namespace Operation

/-- Operations resolve to stages, one each and in order. -/
def Resolve (rounding : Rounding) (operations : List Operation) (stages : List Stage) : Prop :=
  List.Forall₂ (fun operation stage => operation.compile rounding = .ok stage) operations stages

private theorem eq_name_of_parse {text : String} {operator : Operator} (h : Operator.parse text = .ok operator) :
    text = operator.name := by
  unfold Operator.parse at h
  split at h
  · rename_i found heq
    have hname := List.find?_some heq
    cases h
    exact (beq_iff_eq.1 hname).symm
  · cases h

/-- A stage has the operator for which it is compiled. -/
theorem operator_of_stage_compile {operator : Operator} {rounding : Rounding} {function : String}
    {stage : Stage} (h : Stage.compile operator rounding function = .ok stage) : stage.operator = operator := by
  cases operator
  all_goals
    obtain ⟨_, _, rfl⟩ := map_eq_ok_iff.1 h
    rfl

/-- An operation compiles if its operator is known and its function is one of the operator. -/
theorem compile_eq_ok_iff {rounding : Rounding} {operation : Operation} {stage : Stage} :
    operation.compile rounding = .ok stage ↔
      ∃ operator, Operator.parse operation.operator = .ok operator ∧
        Stage.compile operator rounding operation.function = .ok stage := by
  unfold compile
  cases Operator.parse operation.operator with
  | error cause => simp [bind, Except.bind]
  | ok operator => simp [bind, Except.bind]

/-- The operator of a stage is the one its operation names. -/
theorem operator_of_compile {rounding : Rounding} {operation : Operation} {stage : Stage}
    (h : operation.compile rounding = .ok stage) : operation.operator = stage.operator.name := by
  obtain ⟨operator, hp, hc⟩ := compile_eq_ok_iff.1 h
  rw [operator_of_stage_compile hc]
  exact eq_name_of_parse hp

/-- Operations none of which names an operator resolve to stages without it. -/
theorem Resolve.operator_ne {rounding : Rounding} {operations : List Operation} {stages : List Stage}
    (h : Resolve rounding operations stages) {operator : Operator}
    (hne : ∀ operation ∈ operations, operation.operator ≠ operator.name) :
    ∀ stage ∈ stages, stage.operator ≠ operator := by
  induction h with
  | nil => simp
  | @cons operation stage rest stages hstage _ ih =>
    intro found hfound
    rcases List.mem_cons.1 hfound with rfl | hfound
    · rintro rfl
      exact hne operation (List.mem_cons_self ..) (operator_of_compile hstage)
    · exact ih (fun o ho => hne o (List.mem_cons_of_mem _ ho)) found hfound

/-- Joined lists of operations resolve to joined lists of stages. -/
theorem Resolve.exists_append {rounding : Rounding} {operations more : List Operation} {stages : List Stage}
    (h : Resolve rounding (operations ++ more) stages) :
    ∃ first rest, stages = first ++ rest ∧ Resolve rounding operations first ∧ Resolve rounding more rest := by
  refine ⟨stages.take operations.length, stages.drop operations.length, (List.take_append_drop ..).symm, ?_, ?_⟩
  · have hfirst := List.forall₂_take operations.length h
    rwa [List.take_left] at hfirst
  · have hrest := List.forall₂_drop operations.length h
    rwa [List.drop_left] at hrest

end Operation

namespace Blueprint

/-- Operations can be resolved if the first one can and the others can, whose positions come after it. -/
theorem resolve_cons_eq_ok_iff {rounding : Rounding} {position : Nat} {operation : Operation} {rest : List Operation}
    {steps : List Step} :
    resolve rounding position (operation :: rest) = .ok steps ↔
      ∃ stage more, operation.compile rounding = .ok stage ∧ resolve rounding (position + 1) rest = .ok more ∧
        ⟨position, operation, stage⟩ :: more = steps := by
  rw [resolve]
  cases operation.compile rounding with
  | error cause => simp
  | ok stage => simp [map_eq_ok_iff]

/-- Resolving succeeds with steps only if the operations resolve to the stages of these steps. -/
private theorem resolve_stages {rounding : Rounding} {position : Nat} {operations : List Operation}
    {steps : List Step} (h : resolve rounding position operations = .ok steps) :
    Operation.Resolve rounding operations (steps.map Step.stage) := by
  induction operations generalizing position steps with
  | nil => cases h; exact .nil
  | cons operation rest ih =>
    obtain ⟨stage, more, hstage, hmore, rfl⟩ := resolve_cons_eq_ok_iff.1 h
    exact .cons hstage (ih hmore)

private theorem exists_resolve {rounding : Rounding} {operations : List Operation} {stages : List Stage}
    (h : Operation.Resolve rounding operations stages) (position : Nat) :
    ∃ steps, resolve rounding position operations = .ok steps ∧ steps.map Step.stage = stages := by
  induction h generalizing position with
  | nil => exact ⟨[], rfl, rfl⟩
  | @cons operation stage rest _ hstage _ ih =>
    obtain ⟨steps, hsteps, rfl⟩ := ih (position + 1)
    exact ⟨_, resolve_cons_eq_ok_iff.2 ⟨stage, steps, hstage, hsteps, rfl⟩, rfl⟩

/-- The operations of a blueprint that builds resolve to the stages of its pipeline. -/
theorem resolve_of_build {blueprint : Blueprint} {pipeline : Pipeline} (h : blueprint.build = .ok pipeline) :
    Operation.Resolve blueprint.rounding blueprint.operations pipeline.stages := by
  obtain ⟨steps, hsteps, rfl⟩ := map_eq_ok_iff.1 h
  exact resolve_stages hsteps

/-- A blueprint whose operations resolve builds. -/
theorem exists_build_of_resolve {rounding : Rounding} {operations : List Operation} {stages : List Stage}
    (h : Operation.Resolve rounding operations stages) (name : String) :
    ∃ pipeline, build ⟨name, operations, rounding⟩ = .ok pipeline ∧ pipeline.stages = stages := by
  obtain ⟨steps, hsteps, hstages⟩ := exists_resolve h 1
  exact ⟨⟨name, steps⟩, by simp [build, hsteps, Except.map], hstages⟩

end Blueprint

/-- Operations that resolve are run by applying their stages. -/
theorem Pipeline.runOperations_of_resolve {operations : List Operation} {stages : List Stage}
    (h : Operation.Resolve .towardZero operations stages) (t : Table) :
    Pipeline.runOperations operations t = .ok (Stage.applyAll stages t) := by
  obtain ⟨pipeline, hbuild, rfl⟩ := Blueprint.exists_build_of_resolve h "pipeline"
  unfold Pipeline.runOperations
  rw [hbuild, ← Pipeline.run_eq_applyAll]

end KeyedFlow
