import KeyedFlow.Generation
import KeyedFlow.Run
import KeyedFlow.Validation

/-!
# Sessions

A session has a setup and remembers how many partitions were last generated, which is then the usual number for later
runs.  What is asked of a session is a request; it is answered by a reply, some events and the session afterwards.
-/

namespace KeyedFlow

/-- A setup and the number of partitions last generated. -/
structure Session where
  setup : Setup
  lastGenerated : Option UInt64
  deriving DecidableEq, Repr

/-- What is asked of a session. -/
inductive Request where
  | generate (generation : Generation) (draws : Draws)
  | apply (partitions : Option UInt64)
  | validate

/-- The answer to a request without a failure. -/
inductive Reply where
  | generated (count : UInt64)
  | applied (outcome : Outcome)
  | validated (validation : Validation)
  deriving DecidableEq, Repr

/-- What answering a request leads to. -/
structure Answer where
  reply : Except Failure Reply
  events : List Event
  session : Session

namespace Session

/-- The session of a setup in which nothing has been generated. -/
def start (setup : Setup) : Session :=
  ⟨setup, none⟩

/-- The number of partitions for a run: the one asked for, else the number last generated. -/
def partitionsAsked (session : Session) (partitions : Option UInt64) : Option UInt64 :=
  partitions.or session.lastGenerated

/-- Generates partitions and remembers their number. -/
def generate (session : Session) (generation : Generation) (draws : Draws) : DiskAction Answer := do
  match ← generation.perform draws session.setup.partitions with
  | .ok count => return ⟨.ok (.generated count), [], { session with lastGenerated := some count }⟩
  | .error failure => return ⟨.error failure, [], session⟩

/-- Runs the program. -/
def apply (session : Session) (partitions : Option UInt64) : DiskAction Answer := do
  let run ← Run.perform session.setup (session.partitionsAsked partitions)
  return ⟨run.result.map .applied, run.events, session⟩

/-- Validates the result. -/
def validate (session : Session) : DiskAction Answer := do
  let validation ← Validation.perform session.setup.resultPath session.setup.expectedPath
  return ⟨validation.map .validated, [], session⟩

/-- Answers a request. -/
def perform (session : Session) : Request → DiskAction Answer
  | .generate generation draws => session.generate generation draws
  | .apply partitions => session.apply partitions
  | .validate => session.validate

end Session

end KeyedFlow
