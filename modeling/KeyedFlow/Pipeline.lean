import KeyedFlow.Event
import KeyedFlow.Operator.Stage
import KeyedFlow.Program

/-!
# Pipelines

A blueprint is a name, operations as written and a rounding.  Building resolves all operations, so that a pipeline, once
built, has a result for every table: its stages applied one after the other.  The first operation that cannot be
resolved is reported with its position, counted from one.  Building and running report what they do as events.
-/

namespace KeyedFlow

/-- What a pipeline is built from. -/
structure Blueprint where
  name : String
  operations : List Operation
  rounding : Rounding
  deriving DecidableEq, Repr

/-- A resolved operation. -/
structure Step where
  position : Nat
  operation : Operation
  stage : Stage
  deriving DecidableEq, Repr

/-- Resolved operations under a name. -/
structure Pipeline where
  name : String
  steps : List Step
  deriving DecidableEq, Repr

namespace Operation

/-- Resolves an operation: the operator first, then the function. -/
def compile (rounding : Rounding) (operation : Operation) : Except Failure Stage := do
  let operator ← Operator.parse operation.operator
  Stage.compile operator rounding operation.function

/-- A failure in the context of the operation that raised it. -/
def failure (operation : Operation) (position : Nat) (cause : Failure) : Failure :=
  .atOperation position operation.operator operation.function cause

end Operation

/-- An operation that cannot be resolved, with its position and the reason. -/
structure Rejection where
  position : Nat
  operation : Operation
  cause : Failure

namespace Rejection

/-- The failure of a rejection. -/
def failure (rejection : Rejection) : Failure :=
  rejection.operation.failure rejection.position rejection.cause

/-- The event of a rejection. -/
def event (pipeline : String) (rejection : Rejection) : Event :=
  .operationFailed pipeline rejection.position rejection.operation.operator rejection.operation.function
    rejection.cause.message

end Rejection

namespace Blueprint

/-- Resolves operations, the first of which has the given position. -/
def resolve (rounding : Rounding) : Nat → List Operation → Except Rejection (List Step)
  | _, [] => .ok []
  | position, operation :: rest =>
    match operation.compile rounding with
    | .error cause => .error ⟨position, operation, cause⟩
    | .ok stage => (resolve rounding (position + 1) rest).map (⟨position, operation, stage⟩ :: ·)

/-- The pipeline of a blueprint, or the first operation that cannot be resolved. -/
def build (blueprint : Blueprint) : Except Rejection Pipeline :=
  (resolve blueprint.rounding 1 blueprint.operations).map (⟨blueprint.name, ·⟩)

end Blueprint

namespace Step

/-- The events of a step that turns `rowsIn` rows into `rowsOut`. -/
def events (step : Step) (rowsIn rowsOut : Nat) : List Event :=
  [.operationStarted step.position step.operation.operator step.operation.function,
    .operationCompleted step.position step.operation.operator step.operation.function rowsIn rowsOut]

/-- The table after some steps. -/
def runAll (steps : List Step) (t : Table) : Table :=
  steps.foldl (fun t step => step.stage.apply t) t

/-- The events of some steps on a table. -/
def eventsAll : List Step → Table → List Event
  | [], _ => []
  | step :: rest, t =>
    let u := step.stage.apply t
    step.events t.length u.length ++ eventsAll rest u

/-- The tables after each of some steps. -/
def tables : List Step → Table → List Table
  | [], _ => []
  | step :: rest, t =>
    let u := step.stage.apply t
    u :: tables rest u

end Step

namespace Pipeline

/-- The table after all steps. -/
def run (pipeline : Pipeline) (t : Table) : Table :=
  Step.runAll pipeline.steps t

/-- The events of a run. -/
def events (pipeline : Pipeline) (t : Table) : List Event :=
  .pipelineStarted pipeline.name pipeline.steps.length t.length :: Step.eventsAll pipeline.steps t ++
    [.pipelineCompleted pipeline.name (pipeline.run t).length]

/-- Builds a pipeline of operations with the usual rounding and runs it. -/
def runOperations (operations : List Operation) (t : Table) : Except Failure Table :=
  match Blueprint.build ⟨"pipeline", operations, .towardZero⟩ with
  | .error rejection => .error rejection.failure
  | .ok pipeline => .ok (pipeline.run t)

end Pipeline

end KeyedFlow
