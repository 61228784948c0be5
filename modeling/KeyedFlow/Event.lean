import KeyedFlow.Json.Value

/-!
# Events

Building and running a pipeline leaves a trace of events.  An event has a type, by whose beginning events can be
selected, and data.
-/

namespace KeyedFlow

/-- What happens to a pipeline and its operations. -/
inductive Event where
  | pipelineStarted (pipeline : String) (operations rows : Nat)
  | pipelineCompleted (pipeline : String) (rows : Nat)
  | pipelineSkipped
  | operationStarted (position : Nat) (operator function : String)
  | operationCompleted (position : Nat) (operator function : String) (rowsIn rowsOut : Nat)
  | operationFailed (pipeline : String) (position : Nat) (operator function error : String)
  deriving DecidableEq, Repr

/-- An event as it is logged: its type and its data. -/
structure LogEntry where
  type : String
  data : Option Json

namespace Event

/-- The type of an event. -/
def type : Event → String
  | .pipelineStarted .. => "pipeline.started"
  | .pipelineCompleted .. => "pipeline.completed"
  | .pipelineSkipped => "pipeline.skipped"
  | .operationStarted .. => "operation.started"
  | .operationCompleted .. => "operation.completed"
  | .operationFailed .. => "operation.failed"

/-- The data of an event. -/
def data : Event → Json
  | .pipelineStarted pipeline operations rows =>
    .object [("pipeline", .text pipeline), ("operations", .count operations), ("rows", .count rows)]
  | .pipelineCompleted pipeline rows => .object [("pipeline", .text pipeline), ("rows", .count rows)]
  | .pipelineSkipped => .object [("partitions", .count 0)]
  | .operationStarted position operator function =>
    .object [("position", .count position), ("operator", .text operator), ("function", .text function)]
  | .operationCompleted position operator function rowsIn rowsOut =>
    .object [("position", .count position), ("operator", .text operator), ("function", .text function),
      ("rows_in", .count rowsIn), ("rows_out", .count rowsOut)]
  | .operationFailed pipeline position operator function error =>
    .object [("pipeline", .text pipeline), ("position", .count position), ("operator", .text operator),
      ("function", .text function), ("error", .text error)]

/-- An event as a log entry. -/
def entry (event : Event) : LogEntry :=
  ⟨event.type, some event.data⟩

end Event

/-- Log entries in the order in which they were made. -/
abbrev EventLog := List LogEntry

namespace EventLog

/-- The log with one more entry. -/
def emit (log : EventLog) (type : String) (data : Option Json) : EventLog :=
  log ++ [⟨type, data⟩]

/-- The types of the entries. -/
def types (log : EventLog) : List String :=
  log.map LogEntry.type

/-- The entries whose type begins with a text. -/
def ofType (log : EventLog) (start : String) : EventLog :=
  log.filter fun entry => start.toList.isPrefixOf entry.type.toList

end EventLog

end KeyedFlow
