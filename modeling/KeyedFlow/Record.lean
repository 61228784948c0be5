/-!
# Records and tables

A record is a key and a value; a table is a list of records, in which keys may repeat.  Records are ordered by key and
then by value.  Two tables are equivalent when they hold the same records equally often, which is decided by sorting
both.
-/

namespace KeyedFlow

/-- A key with a value. -/
structure Record where
  key : Int64
  value : Int64
  deriving DecidableEq, Repr, Inhabited

namespace Record

/-- The order by key, and by value where keys agree. -/
def le (r s : Record) : Bool :=
  r.key < s.key || (r.key == s.key && r.value ≤ s.value)

/-- The text of a record, `(key, value)`. -/
def text (r : Record) : String :=
  s!"({r.key}, {r.value})"

end Record

/-- A natural number as a key or value; numbers beyond the largest key stand at it. -/
def clamped (n : Nat) : Int64 :=
  Int64.ofNat (Nat.min n 0x7FFFFFFFFFFFFFFF)

/-- A clamped number is the number itself, or the largest key where that is less. -/
theorem toInt_clamped (n : Nat) : (clamped n).toInt = min (n : Int) 0x7FFFFFFFFFFFFFFF := by
  show (Int64.ofNat (min n 0x7FFFFFFFFFFFFFFF)).toInt = _
  rw [Int64.toInt_ofNat_of_lt (by omega)]
  omega

/-- Records in order; the order matters to what is written, not to equivalence. -/
abbrev Table := List Record

namespace Table

/-- A table whose records all have the same key. -/
def keyed (key : Int64) (values : List Int64) : Table :=
  values.map fun v => ⟨key, v⟩

/-- The keys, in table order. -/
def keys (t : Table) : List Int64 :=
  t.map Record.key

/-- The values, in table order. -/
def values (t : Table) : List Int64 :=
  t.map Record.value

/-- The records in ascending order. -/
def sorted (t : Table) : Table :=
  t.mergeSort Record.le

/-- Whether two tables hold the same records equally often. -/
def equivalent (t u : Table) : Bool :=
  t.length == u.length && t.sorted == u.sorted

/-- Whether no key is smaller than the key before it. -/
def isSortedByKey : Table → Bool
  | r :: s :: rest => r.key ≤ s.key && isSortedByKey (s :: rest)
  | _ => true

/-- Items between square brackets, divided by commas. -/
def bracketed (items : List String) : String :=
  "[" ++ String.intercalate ", " items ++ "]"

/-- The text of a table: its records between square brackets. -/
def text (t : Table) : String :=
  bracketed (t.map Record.text)

/-- The text of the keys of a table. -/
def keysText (t : Table) : String :=
  bracketed (t.keys.map toString)

end Table

end KeyedFlow
