import KeyedFlow.Json.Value
import KeyedFlow.Text.Quoted

/-!
# Failures

Everything that can keep a program from having a result.  A failure of one operation is wrapped in the position and the
wording of that operation; the wrapping hides nothing, since the code and the root of a wrapped failure are those of
the failure inside.
-/

namespace KeyedFlow

/-- Why there is no result. -/
inductive Failure where
  | unsupportedOperator (operator : String)
  | unsupportedFunction (operator function : String)
  | badArgument (function : String) (argument : Option String) (reason : String)
  | divisionByZero (operator function : String)
  | missingInput (path : String)
  | malformedRecord (path : String) (line : Nat) (content : String)
  | invalidDocument (path message : String)
  /-- A record file holds bytes that are no text, or is a directory. -/
  | recordFormat
  /-- A file cannot be read or written for another reason than being absent. -/
  | storage
  | atOperation (position : Nat) (operator function : String) (cause : Failure)
  deriving DecidableEq, Repr

namespace Failure

/-- The failure inside all operation contexts. -/
def root : Failure → Failure
  | .atOperation _ _ _ cause => cause.root
  | failure => failure

/-- Whether the root is an absent file. -/
def isMissingInput (failure : Failure) : Bool :=
  match failure.root with
  | .missingInput _ => true
  | _ => false

/-- The code of a failure. -/
def code : Failure → String
  | .unsupportedOperator _ => "UNSUPPORTED_OPERATOR"
  | .unsupportedFunction _ _ => "UNSUPPORTED_FUNCTION"
  | .badArgument _ _ _ => "PARAMETER_CONVERSION"
  | .divisionByZero _ _ => "DIVISION_BY_ZERO"
  | .missingInput _ => "MISSING_INPUT"
  | .malformedRecord _ _ _ => "MALFORMED_RECORD"
  | .invalidDocument _ _ => "INVALID_CONFIG"
  | .recordFormat => "CSV"
  | .storage => "IO"
  | .atOperation _ _ _ cause => cause.code

/-- The wording of a failure. -/
def message : Failure → String
  | .unsupportedOperator operator => s!"Unsupported operator: {operator}"
  | .unsupportedFunction operator function => s!"Unsupported {operator} function: {function}"
  | .badArgument function argument reason =>
    "Cannot convert parameter " ++ Text.quoted? argument ++ " of " ++ function ++ ": " ++ reason
  | .divisionByZero operator function => s!"Cannot divide by zero in {operator} function {function}"
  | .missingInput path => s!"Missing input: {path}"
  | .malformedRecord path line content =>
    s!"Malformed record in {path} at line {line}: " ++ Text.quoted content
  | .invalidDocument path message => s!"Invalid configuration {path}: {message}"
  | .recordFormat => "CSV error"
  | .storage => "IO error"
  | .atOperation position operator function cause =>
    s!"Operation #{position} ({operator} {function}) failed: " ++ cause.message

/-- The parts of a failure by name. -/
def details : Failure → List (String × Json)
  | .unsupportedOperator operator => [("operator", .text operator)]
  | .unsupportedFunction operator function => [("operator", .text operator), ("function", .text function)]
  | .badArgument function argument _ => [("function", .text function), ("parameter", .text? argument)]
  | .divisionByZero operator function => [("operator", .text operator), ("function", .text function)]
  | .missingInput path => [("path", .text path)]
  | .malformedRecord path line _ => [("path", .text path), ("line", .count line)]
  | .invalidDocument path _ => [("path", .text path)]
  | .recordFormat => []
  | .storage => []
  | .atOperation position operator function cause =>
    [("position", .count position), ("operator", .text operator), ("function", .text function),
      ("cause", .object (("code", .text cause.code) :: ("message", .text cause.message) :: cause.details))]

/-- A failure as an object: its code, its message and its parts. -/
def toJson (failure : Failure) : Json :=
  .object (("code", .text failure.code) :: ("message", .text failure.message) :: failure.details)

/-- The messages of a failure and of the failures inside it, from the outermost inwards. -/
def chain : Failure → List String
  | .atOperation position operator function cause =>
    (atOperation position operator function cause).message :: cause.chain
  | failure => [failure.message]

end Failure

end KeyedFlow
