/-!
# Ranges of integers

Keys and values are signed and counts are unsigned 64-bit integers; years are signed 32-bit integers.  What is read as
one of them has to lie in its range.
-/

namespace KeyedFlow

/-- The integers from `lo` to `hi`, both included. -/
structure IntegerRange where
  lo : Int
  hi : Int
  deriving DecidableEq, Repr

namespace IntegerRange

/-- The signed 32-bit integers. -/
def signed32 : IntegerRange :=
  ⟨-0x80000000, 0x7FFFFFFF⟩

/-- The signed 64-bit integers. -/
def signed64 : IntegerRange :=
  ⟨-0x8000000000000000, 0x7FFFFFFFFFFFFFFF⟩

/-- The unsigned 64-bit integers. -/
def unsigned64 : IntegerRange :=
  ⟨0, 0xFFFFFFFFFFFFFFFF⟩

/-- Whether an integer lies in a range. -/
def contains (range : IntegerRange) (n : Int) : Bool :=
  range.lo ≤ n && n ≤ range.hi

/-- A range contains the integers from its least to its greatest one. -/
theorem contains_iff {range : IntegerRange} {n : Int} : range.contains n ↔ range.lo ≤ n ∧ n ≤ range.hi := by
  simp [contains]

/-- The signed 64-bit range contains all 64-bit integers. -/
theorem contains_toInt (n : Int64) : signed64.contains n.toInt :=
  contains_iff.2 ⟨n.le_toInt, Int.le_of_lt_add_one n.toInt_lt⟩

end IntegerRange

end KeyedFlow
