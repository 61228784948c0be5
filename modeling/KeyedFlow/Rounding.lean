import KeyedFlow.Json.Reader

/-!
# Rounding of quotients

A quotient of two integers need not be an integer.  The rounding says which integer stands for it: the one next to it
in the direction of zero, or the greatest one that is not above it.  The two differ, by one, exactly where the division
leaves a remainder and the signs of dividend and divisor differ.
-/

namespace KeyedFlow

/-- How a quotient is brought back to an integer. -/
inductive Rounding where
  | towardZero
  | floor
  deriving DecidableEq, Repr, Inhabited

namespace Rounding

/-- The name of a rounding in documents. -/
def name : Rounding → String
  | .towardZero => "toward_zero"
  | .floor => "floor"

/-- The roundings by name. -/
def known : List (String × Rounding) :=
  [(towardZero.name, towardZero), (floor.name, floor)]

/-- Reads a rounding from a document. -/
def read : Json.Reader Rounding :=
  Json.readChoice known

/-- The quotient for a divisor other than zero.  The one quotient that has no 64-bit value, that of the smallest number
by minus one, wraps to the dividend. -/
def quotient (rounding : Rounding) (dividend divisor : Int64) : Int64 :=
  let truncated := dividend / divisor
  match rounding with
  | .towardZero => truncated
  | .floor =>
    if dividend % divisor ≠ 0 ∧ (decide (dividend < 0) ≠ decide (divisor < 0)) then truncated - 1 else truncated

/-- The quotient, which zero has not as a divisor. -/
def divide (rounding : Rounding) (dividend divisor : Int64) : Option Int64 :=
  if divisor = 0 then none else some (rounding.quotient dividend divisor)

end Rounding

end KeyedFlow
