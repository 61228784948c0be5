import KeyedFlow.Operator.Condition

/-!
# Aggregates

The functions of `REDUCE`: the records of each key are collapsed into one, whose value is computed from theirs.  The
outcome has its keys in ascending order, each once.
-/

namespace KeyedFlow

/-- What the values of a key are collapsed to. -/
inductive Aggregate where
  | sum
  | product
  | min
  | max
  | count
  deriving DecidableEq, Repr

namespace Aggregate

/-- The aggregate that a call names; an argument is ignored. -/
def ofCall (call : Call) : Except Failure Aggregate :=
  match call.name with
  | "SUM" => .ok .sum
  | "PRODUCT" => .ok .product
  | "MIN" => .ok .min
  | "MAX" => .ok .max
  | "COUNT" => .ok .count
  | name => .error (.unsupportedFunction Operator.reduce.name name)

/-- The value of a group.  Sums and products wrap at 64 bits; groups are not empty, and the least and the greatest of
no values would be zero. -/
def combine (aggregate : Aggregate) (values : List Int64) : Int64 :=
  match aggregate with
  | .sum => values.foldl (· + ·) 0
  | .product => values.foldl (· * ·) 1
  | .min => values.min?.getD 0
  | .max => values.max?.getD 0
  | .count => clamped values.length

/-- Divides a table into runs of neighbours with the same key, each with its values in order. -/
def runs : Table → List (Int64 × List Int64)
  | [] => []
  | r :: rest =>
    match runs rest with
    | [] => [(r.key, [r.value])]
    | (key, values) :: more =>
      if r.key = key then (key, r.value :: values) :: more else (r.key, [r.value]) :: (key, values) :: more

/-- The keys of a table in ascending order, each with its values in table order. -/
def groups (t : Table) : List (Int64 × List Int64) :=
  runs (t.mergeSort fun r s => r.key ≤ s.key)

/-- One record for every key. -/
def apply (aggregate : Aggregate) (t : Table) : Table :=
  (groups t).map fun group => ⟨group.1, aggregate.combine group.2⟩

end Aggregate

end KeyedFlow
