/-!
# Binary fractions

Numbers that are no integers are kept to 53 significant bits, and to multiples of `2 ^ -1074`.  A quotient becomes the
nearest such number, and of two that are equally near the one with the even significand.  A decimal number is reached
in up to four such steps: its first digits, as many as 64 bits hold, are multiplied or divided by powers of ten not
above `10 ^ 308`.
-/

namespace KeyedFlow

/-- The number `significand * 2 ^ exponent`. -/
structure BinaryFraction where
  significand : Nat
  exponent : Int
  deriving DecidableEq, Repr

namespace BinaryFraction

/-- A quotient rounded to the nearest natural number; a tie goes to the even neighbour. -/
def roundDiv (n d : Nat) : Nat :=
  let q := n / d
  let r := n % d
  if 2 * r < d ∨ (2 * r = d ∧ q % 2 = 0) then q else q + 1

/-- The power of two for exponents that are not negative. -/
def twoPow (e : Int) : Nat :=
  Nat.pow 2 e.toNat

/-- The binary logarithm of a positive quotient, rounded down. -/
def log2Div (n d : Nat) : Int :=
  let guess : Int := n.log2 - d.log2
  if d * twoPow guess ≤ n * twoPow (-guess) then guess else guess - 1

/-- The binary fraction nearest to a quotient. -/
def nearest (n d : Nat) : BinaryFraction :=
  if n = 0 then ⟨0, 0⟩
  else
    let e := max (log2Div n d - 52) (-1074)
    let s := roundDiv (n * twoPow (-e)) (d * twoPow e)
    -- rounding up can carry into a bit more than there is room for
    if s = 0x20000000000000 then ⟨0x10000000000000, e + 1⟩ else ⟨s, e⟩

/-- The binary fraction nearest to `n / d * 2 ^ e`. -/
def nearestScaled (n d : Nat) (e : Int) : BinaryFraction :=
  nearest (n * twoPow e) (d * twoPow (-e))

/-- The product, rounded. -/
def mul (a b : BinaryFraction) : BinaryFraction :=
  nearestScaled (a.significand * b.significand) 1 (a.exponent + b.exponent)

/-- The quotient by a fraction that is not zero, rounded. -/
def div (a b : BinaryFraction) : BinaryFraction :=
  nearestScaled a.significand b.significand (a.exponent - b.exponent)

/-- The binary fraction nearest to a natural number. -/
def ofNat (n : Nat) : BinaryFraction :=
  nearest n 1

/-- The binary fraction nearest to a power of ten. -/
def tenPow (n : Nat) : BinaryFraction :=
  ofNat (Nat.pow 10 n)

/-- Whether a fraction lies below `2 ^ 1024`; others are too large. -/
def isFinite (b : BinaryFraction) : Bool :=
  b.exponent ≤ 971

/-- A fraction multiplied by a power of ten, unless the result is too large. -/
def scale (b : BinaryFraction) (exponent : Int) : Option BinaryFraction :=
  if b.significand = 0 then some b
  else if 308 < exponent then none
  else if 0 ≤ exponent then
    let product := b.mul (tenPow exponent.toNat)
    if product.isFinite then some product else none
  else if -308 ≤ exponent then some (b.div (tenPow (-exponent).toNat))
  else (b.div (tenPow 308)).scale (exponent + 308)
termination_by (-exponent).toNat

/-- The binary fraction of a 64-bit number times a power of ten. -/
def ofScientific (n : Nat) (exponent : Int) : Option BinaryFraction :=
  (ofNat n).scale exponent

end BinaryFraction

end KeyedFlow
