import KeyedFlow.Failure
import KeyedFlow.Json.Reader

/-!
# Operators

The four operators that the operations of a program name.
-/

namespace KeyedFlow

/-- The operators: keep records, replace values, replace keys, collapse the records of a key. -/
inductive Operator where
  | filter
  | map
  | changeKey
  | reduce
  deriving DecidableEq, Repr, Inhabited

namespace Operator

/-- The name of an operator in programs. -/
def name : Operator → String
  | .filter => "FILTER"
  | .map => "MAP"
  | .changeKey => "CHANGEKEY"
  | .reduce => "REDUCE"

/-- All operators. -/
def all : List Operator :=
  [.filter, .map, .changeKey, .reduce]

/-- All operators are listed. -/
theorem mem_all (operator : Operator) : operator ∈ all := by
  cases operator <;> decide

/-- Different operators have different names. -/
theorem name_injective {a b : Operator} (h : a.name = b.name) : a = b := by
  revert h
  cases a <;> cases b <;> decide

/-- The operator of a name, which has to be spelled exactly. -/
def parse (text : String) : Except Failure Operator :=
  match all.find? (·.name == text) with
  | some operator => .ok operator
  | none => .error (.unsupportedOperator text)

/-- Reads an operator from a document. -/
def read : Json.Reader Operator :=
  Json.readChoice (all.map fun operator => (operator.name, operator))

end Operator

end KeyedFlow
