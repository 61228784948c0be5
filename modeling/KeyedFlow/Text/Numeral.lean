import KeyedFlow.IntegerRange

/-!
# Integer numerals

A numeral is an optional sign followed by decimal digits, any number of leading zeros among them.  It is read from the
left: the first character that is no digit, or the first digit that carries the value out of the range asked for,
decides why reading fails.  A minus sign is a sign only for ranges that hold negative numbers.
-/

namespace KeyedFlow.Text.Numeral

/-- Why a text is no numeral of a range. -/
inductive Fault where
  | empty
  | badDigit
  | tooLarge
  | tooSmall
  deriving DecidableEq, Repr

/-- The wording of a fault. -/
def Fault.message : Fault → String
  | .empty => "cannot parse integer from empty string"
  | .badDigit => "invalid digit found in string"
  | .tooLarge => "number too large to fit in target type"
  | .tooSmall => "number too small to fit in target type"

/-- The value of a decimal digit. -/
def digitValue (c : Char) : Nat :=
  c.toNat - '0'.toNat

/-- Appends digits to the value read so far, `sign` being `1` or `-1`, without ever leaving the range. -/
def readDigits (range : IntegerRange) (sign : Int) : Int → List Char → Except Fault Int
  | value, [] => .ok value
  | value, c :: rest =>
    if c.isDigit then
      let next := value * 10 + sign * digitValue c
      if range.hi < next then .error .tooLarge
      else if next < range.lo then .error .tooSmall
      else readDigits range sign next rest
    else .error .badDigit

/-- At least one digit is required. -/
def readMagnitude (range : IntegerRange) (sign : Int) : List Char → Except Fault Int
  | [] => .error .badDigit
  | c :: rest => readDigits range sign 0 (c :: rest)

/-- Reads a numeral of a range. -/
def read (range : IntegerRange) : List Char → Except Fault Int
  | [] => .error .empty
  | '+' :: digits => readMagnitude range 1 digits
  | '-' :: digits => if range.lo < 0 then readMagnitude range (-1) digits else .error .badDigit
  | digits => readMagnitude range 1 digits

/-- Reads a signed 64-bit numeral. -/
def readInt64 (s : List Char) : Except Fault Int64 :=
  (read .signed64 s).map Int64.ofInt

/-- Reads an unsigned 64-bit numeral. -/
def readCount (s : List Char) : Except Fault UInt64 :=
  (read .unsigned64 s).map fun n => UInt64.ofNat n.toNat

/-- Whether a text is a signed 64-bit numeral. -/
def isInt64 (s : List Char) : Bool :=
  (readInt64 s).isOk

end KeyedFlow.Text.Numeral
