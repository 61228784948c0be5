import KeyedFlow.Operator.Condition
import KeyedFlow.Rounding

/-!
# Formulas

The functions of `MAP` and `CHANGEKEY`: a value is combined with a constant.  `MAP` puts the outcome in the place of the
value, `CHANGEKEY` in the place of the key.  Sums, differences and products wrap at 64 bits; quotients are rounded, and
no formula divides by zero.
-/

namespace KeyedFlow

/-- A value combined with a constant. -/
inductive Arithmetic where
  | add (p : Int64)
  | subtract (p : Int64)
  | multiply (p : Int64)
  | divide (p : Int64) (nonzero : p ≠ 0)
  deriving DecidableEq, Repr

/-- An arithmetic with the rounding of its quotients. -/
structure Formula where
  arithmetic : Arithmetic
  rounding : Rounding
  deriving DecidableEq, Repr

namespace Formula

/-- The arithmetic that a call names under an operator. -/
def arithmeticOfCall (operator : Operator) (call : Call) : Except Failure Arithmetic :=
  match call.name with
  | "ADD" => call.requireInteger.map .add
  | "SUBTRACT" => call.requireInteger.map .subtract
  | "MULTIPLY" => call.requireInteger.map .multiply
  | "DIVIDE" => do
    let p ← call.requireInteger
    if nonzero : p ≠ 0 then return .divide p nonzero
    else throw (.divisionByZero operator.name call.text)
  | name => .error (.unsupportedFunction operator.name name)

/-- The formula that a call names under an operator. -/
def ofCall (operator : Operator) (rounding : Rounding) (call : Call) : Except Failure Formula :=
  (arithmeticOfCall operator call).map (⟨·, rounding⟩)

/-- The outcome for a value. -/
def eval (formula : Formula) (v : Int64) : Int64 :=
  match formula.arithmetic with
  | .add p => v + p
  | .subtract p => v - p
  | .multiply p => v * p
  | .divide p _ => formula.rounding.quotient v p

/-- Every value replaced by its outcome. -/
def mapValues (formula : Formula) (t : Table) : Table :=
  t.map fun r => ⟨r.key, formula.eval r.value⟩

/-- Every key replaced by the outcome for the value of its record.  Records that come to share a key stay apart. -/
def rekey (formula : Formula) (t : Table) : Table :=
  t.map fun r => ⟨formula.eval r.value, r.value⟩

end Formula

end KeyedFlow
