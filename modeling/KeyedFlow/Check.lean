import KeyedFlow.Record

/-!
# Checks of tables

Checks tell whether a table is as it should be, and if not, show the rows or keys in question.
-/

namespace KeyedFlow

/-- The outcome of a check; a failed one may say why. -/
inductive Check where
  | passed
  | failed (message : Option String)
  deriving DecidableEq, Repr

namespace Check

/-- A check that fails with a message unless a condition holds. -/
def ofBool (holds : Bool) (message : Option String) : Check :=
  if holds then .passed else .failed message

/-- A table has exactly the expected records, in order. -/
def rows (actual expected : Table) : Check :=
  ofBool (actual == expected) none

/-- Two tables hold the same records equally often. -/
def equivalent (actual expected : Table) : Check :=
  ofBool (actual.equivalent expected)
    (some ("Tables are not equivalent:\n  actual:   " ++ actual.sorted.text ++ "\n  expected: " ++
      expected.sorted.text))

/-- Two tables do not hold the same records equally often. -/
def notEquivalent (actual expected : Table) : Check :=
  ofBool (!actual.equivalent expected)
    (some ("Expected tables to differ, both hold: " ++ actual.sorted.text))

/-- No key is smaller than the key before it. -/
def sortedByKey (t : Table) : Check :=
  ofBool t.isSortedByKey (some ("Keys are not in ascending order: " ++ t.keysText))

end Check

end KeyedFlow
