import KeyedFlow.Call
import KeyedFlow.Operator
import KeyedFlow.Record

/-!
# Conditions

The functions of `FILTER`: conditions on the value of a record.  A table filtered by a condition keeps the records that
meet it, in order.
-/

namespace KeyedFlow

/-- The failure of a call whose argument is not the integer it should be. -/
def Call.argumentFailure (call : Call) (fault : ArgumentFault) : Failure :=
  .badArgument call.name call.argument fault.message

/-- The integer argument of a call, or the failure of not having one. -/
def Call.requireInteger (call : Call) : Except Failure Int64 :=
  call.integer.mapError call.argumentFailure

/-- A condition on values. -/
inductive Condition where
  | isEven
  | isOdd
  | less (bound : Int64)
  | greater (bound : Int64)
  | atLeast (bound : Int64)
  | atMost (bound : Int64)
  deriving DecidableEq, Repr

namespace Condition

/-- The condition that a call names.  `IS_EVEN` and `IS_ODD` take no argument and ignore one. -/
def ofCall (call : Call) : Except Failure Condition :=
  match call.name with
  | "IS_EVEN" => .ok .isEven
  | "IS_ODD" => .ok .isOdd
  | "LT" => call.requireInteger.map .less
  | "GT" => call.requireInteger.map .greater
  | "GTE" => call.requireInteger.map .atLeast
  | "LTE" => call.requireInteger.map .atMost
  | name => .error (.unsupportedFunction Operator.filter.name name)

/-- Whether a value meets the condition. -/
def holds : Condition → Int64 → Bool
  | .isEven, v => v % 2 == 0
  | .isOdd, v => v % 2 != 0
  | .less bound, v => v < bound
  | .greater bound, v => bound < v
  | .atLeast bound, v => bound ≤ v
  | .atMost bound, v => v ≤ bound

/-- The records whose value meets the condition. -/
def apply (condition : Condition) (t : Table) : Table :=
  t.filter fun r => condition.holds r.value

end Condition

end KeyedFlow
