import KeyedFlow.Disk.Load
import KeyedFlow.Json.Value

/-!
# Validation of results

A result is correct when it holds the same records as the expected one, each equally often.  Otherwise the numbers of
rows and the first place where the two differ after sorting are told.  A file that is absent makes the validation
unavailable, which is no failure.
-/

namespace KeyedFlow

/-- What comparing a result with the expected one tells. -/
inductive Validation where
  | correct
  | incorrect (generatedRows expectedRows : Nat) (firstMismatch : Option Nat)
  | unavailable (missing : String)
  deriving DecidableEq, Repr

namespace Validation

/-- The first index, below both lengths, at which two lists differ. -/
def firstDifference {α : Type} [DecidableEq α] : List α → List α → Option Nat
  | a :: as, b :: bs => if a = b then (firstDifference as bs).map (· + 1) else some 0
  | _, _ => none

/-- Compares a result with the expected one. -/
def compare (generated expected : Table) : Validation :=
  if generated.sorted = expected.sorted then .correct
  else .incorrect generated.length expected.length (firstDifference generated.sorted expected.sorted)

/-- Whether the result is correct. -/
def isCorrect (validation : Validation) : Bool :=
  validation == .correct

/-- The message for the user. -/
def message : Validation → String
  | .correct => "Congrats, data is correct!"
  | .incorrect .. => "Sorry, data is incorrect"
  | .unavailable _ => "Data not available. Please generate data and apply operations first."

/-- A validation as a JSON object. -/
def toJson : Validation → Json
  | .correct => .object [("status", .text "correct")]
  | .incorrect generatedRows expectedRows firstMismatch =>
    .object [("status", .text "incorrect"), ("generated_rows", .count generatedRows),
      ("expected_rows", .count expectedRows),
      ("first_mismatch", match firstMismatch with | some i => .count i | none => .null)]
  | .unavailable missing => .object [("status", .text "unavailable"), ("missing", .text missing)]

/-- The validation that a failure to load means, if it means one. -/
def ofFailure : Failure → Except Failure Validation
  | .missingInput path => .ok (.unavailable path)
  | failure => .error failure

/-- Compares the result in one file with the expected one in another, each with an optional header. -/
def perform (generatedPath expectedPath : String) : DiskAction (Except Failure Validation) := do
  match ← Table.load generatedPath .optional with
  | .error failure => return ofFailure failure
  | .ok generated =>
    match ← Table.load expectedPath .optional with
    | .error failure => return ofFailure failure
    | .ok expected => return .ok (compare generated expected)

end Validation

end KeyedFlow
