/-!
# Verbosity

How much is logged, and the labels of timed spans.
-/

namespace KeyedFlow

/-- What is logged. -/
inductive LogLevel where
  | info
  | debug
  | trace
  deriving DecidableEq, Repr

namespace LogLevel

/-- The level for the number of times that verbosity is asked for. -/
def ofVerbosity : Nat → LogLevel
  | 0 => .info
  | 1 => .debug
  | _ => .trace

/-- The name of a level in log filters. -/
def name : LogLevel → String
  | .info => "info"
  | .debug => "debug"
  | .trace => "trace"

end LogLevel

/-- A span of time that is measured under a label. -/
structure Span where
  label : String
  deriving DecidableEq, Repr

/-- A span that starts now. -/
def Span.start (label : String) : Span :=
  ⟨label⟩

end KeyedFlow
