import KeyedFlow.Json.Decimal

/-!
# JSON values

The values that documents, reports and events are written from.  The members of an object keep the order in which they
were given.
-/

namespace KeyedFlow

/-- A JSON value. -/
inductive Json where
  | null
  | bool (b : Bool)
  | integer (n : Int)
  | decimal (d : Decimal)
  | text (s : String)
  | list (items : List Json)
  | object (members : List (String × Json))
  deriving Repr, Inhabited

namespace Json

/-- A natural number as a value. -/
def count (n : Nat) : Json :=
  .integer n

@[simp]
theorem count_inj {m n : Nat} : count m = count n ↔ m = n :=
  ⟨fun h => Int.ofNat.inj (integer.inj h), congrArg count⟩

/-- A text that may be absent. -/
def text? : Option String → Json
  | none => .null
  | some s => .text s

end Json

end KeyedFlow
