import KeyedFlow.Operator.Aggregate
import KeyedFlow.Operator.Formula

/-!
# Stages

A stage is an operator with its function, all names and arguments resolved, so that applying it to a table cannot fail.
-/

namespace KeyedFlow

/-- An operator with a function of its own kind. -/
inductive Stage where
  | filter (condition : Condition)
  | map (formula : Formula)
  | changeKey (formula : Formula)
  | reduce (aggregate : Aggregate)
  deriving DecidableEq, Repr

namespace Stage

/-- Resolves a function text under an operator. -/
def compile (operator : Operator) (rounding : Rounding) (function : String) : Except Failure Stage :=
  let call := Call.parse function
  match operator with
  | .filter => (Condition.ofCall call).map .filter
  | .map => (Formula.ofCall operator rounding call).map .map
  | .changeKey => (Formula.ofCall operator rounding call).map .changeKey
  | .reduce => (Aggregate.ofCall call).map .reduce

/-- The operator of a stage. -/
def operator : Stage → Operator
  | .filter _ => .filter
  | .map _ => .map
  | .changeKey _ => .changeKey
  | .reduce _ => .reduce

/-- The table after the stage. -/
def apply : Stage → Table → Table
  | .filter condition, t => condition.apply t
  | .map formula, t => formula.mapValues t
  | .changeKey formula, t => formula.rekey t
  | .reduce aggregate, t => aggregate.apply t

/-- Resolves a function text under an operator and applies it, with the usual rounding. -/
def applyText (operator : Operator) (function : String) (t : Table) : Except Failure Table :=
  (compile operator .towardZero function).map (·.apply t)

end Stage

end KeyedFlow
