import KeyedFlow.Json.BinaryFraction

/-!
# Decimal fractions

A binary fraction is written as the decimal fraction with the fewest digits among those that are nearer to it than to
any other binary fraction.  A decimal fraction is written so that it cannot be taken for an integer: with a decimal
point or an exponent.
-/

namespace KeyedFlow

/-- The number `digits * 10 ^ exponent`, negated if `negative`; zero has a sign too. -/
structure Decimal where
  negative : Bool
  digits : Nat
  exponent : Int
  deriving DecidableEq, Repr, Inhabited

namespace BinaryFraction

/-- The power of ten for exponents that are not negative. -/
def wholeTenPow (e : Int) : Nat :=
  Nat.pow 10 e.toNat

/-- How many steps of the grid of multiples of `10 ^ place` make up the unit in the last place of a fraction, as a
quotient. -/
def stepsOfUnit (b : BinaryFraction) (place : Int) : Nat × Nat :=
  (twoPow b.exponent * wholeTenPow (-place), twoPow (-b.exponent) * wholeTenPow place)

/-- Whether `c * 10 ^ place` is nearer to a fraction than to its neighbours.  The neighbour below a power of two is at
half the distance, and a number halfway between two fractions belongs to the one with the even significand. -/
def readsBack (b : BinaryFraction) (place : Int) (c : Nat) : Bool :=
  let (n, d) := b.stepsOfUnit place
  let s := b.significand
  let isNarrow := s = 0x10000000000000 ∧ -1074 < b.exponent
  let lo := if isNarrow then 4 * s - 1 else 4 * s - 2
  let hi := 4 * s + 2
  let isEven := s % 2 = 0
  (lo * n < 4 * c * d || (isEven && lo * n = 4 * c * d)) && (4 * c * d < hi * n || (isEven && 4 * c * d = hi * n))

/-- The multiple of `10 ^ place` that stands for a fraction, if there is one: of two the nearer, and the even one if
both are equally near. -/
def onGrid (b : BinaryFraction) (place : Int) : Option (Nat × Int) :=
  let (n, d) := b.stepsOfUnit place
  let v := b.significand * n
  let c := v / d
  match b.readsBack place c, b.readsBack place (c + 1) with
  | false, false => none
  | true, false => some (c, place)
  | false, true => some (c + 1, place)
  | true, true => some (roundDiv v d, place)

/-- The place before the first digit of a fraction that is not zero. -/
def firstPlace (b : BinaryFraction) : Int :=
  let isBelow := fun (place : Int) =>
    let (n, d) := b.stepsOfUnit place
    b.significand * n < d
  -- a binary digit is worth 0.30103 decimal ones
  let guess := ((b.significand.log2 + b.exponent) * 30103).fdiv 100000
  if isBelow guess then guess else if isBelow (guess + 1) then guess + 1 else guess + 2

/-- A fraction as a whole number and a power of ten. -/
def exact (b : BinaryFraction) : Nat × Int :=
  if 0 ≤ b.exponent then (b.significand * twoPow b.exponent, 0)
  else (b.significand * Nat.pow 5 (-b.exponent).toNat, b.exponent)

/-- A whole number and a power of ten with the zeros at the end of the number moved into the power. -/
def moveZeros (n : Nat) (exponent : Int) : Nat × Int :=
  if n ≠ 0 ∧ n % 10 = 0 then moveZeros (n / 10) (exponent + 1) else (n, exponent)
termination_by n

/-- The fewest digits that stand for a fraction, and the power of ten by which they are multiplied. -/
def shortest (b : BinaryFraction) : Nat × Int :=
  if b.significand = 0 then (0, 0)
  else
    let found := (List.range 17).findSome? fun (more : Nat) => b.onGrid (b.firstPlace - 1 - more)
    let (n, exponent) := found.getD b.exact
    moveZeros n exponent

end BinaryFraction

namespace Decimal

/-- Zero. -/
def zero : Decimal :=
  ⟨false, 0, 0⟩

/-- The decimal fraction that is written for a binary one. -/
def ofBinary (negative : Bool) (b : BinaryFraction) : Decimal :=
  ⟨negative, b.shortest.1, b.shortest.2⟩

/-- The decimal fraction that is written for an integer. -/
def ofInt (n : Int) : Decimal :=
  ofBinary (n < 0) (BinaryFraction.ofNat n.natAbs)

/-- The characters of a decimal fraction: positional from a hundred-thousandth up to sixteen digits before the point,
and with an exponent otherwise. -/
def chars (d : Decimal) : List Char :=
  let digits := Nat.toDigits 10 d.digits
  let point := digits.length + d.exponent
  let sign := if d.negative then ['-'] else []
  sign ++
    if 0 ≤ d.exponent ∧ point ≤ 16 then digits ++ List.replicate d.exponent.toNat '0' ++ ['.', '0']
    else if 0 < point ∧ point ≤ 16 then digits.take point.toNat ++ '.' :: digits.drop point.toNat
    else if -5 < point ∧ point ≤ 0 then '0' :: '.' :: (List.replicate (-point).toNat '0' ++ digits)
    else
      digits.take 1 ++ (if digits.length = 1 then [] else '.' :: digits.drop 1) ++ 'e' :: (toString (point - 1)).toList

end Decimal

end KeyedFlow
