import KeyedFlow.Text.Blank
import KeyedFlow.Text.Numeral

/-!
# Calls

Operations name their function by a call: a bare name such as `SUM`, or a name with an argument such as `ADD(1)`.  A
text has an argument when it holds exactly one opening parenthesis and ends with a closing one; every other text is a
bare name, so no text is refused and none is changed by reading and writing it.
-/

namespace KeyedFlow

/-- A function name with at most one argument, which is kept as it was written. -/
structure Call where
  name : String
  argument : Option String
  deriving DecidableEq, Repr

namespace Call

/-- Splits a text at its only opening parenthesis into the name and the argument, if it is a name with an argument. -/
def split? (s : List Char) : Option (List Char × List Char) :=
  match s.dropWhile (· ≠ '(') with
  | [] => none
  | _ :: rest =>
    if rest.contains '(' then none
    else if rest.getLast? = some ')' then some (s.takeWhile (· ≠ '('), rest.dropLast)
    else none

/-- Reads a call. -/
def parse (text : String) : Call :=
  match split? text.toList with
  | some (name, argument) => ⟨String.ofList name, some (String.ofList argument)⟩
  | none => ⟨text, none⟩

/-- The text of a call. -/
def text (call : Call) : String :=
  match call.argument with
  | some argument => call.name ++ "(" ++ argument ++ ")"
  | none => call.name

end Call

/-- Why a call has no integer argument. -/
inductive ArgumentFault where
  | missing
  | numeral (fault : Text.Numeral.Fault)
  deriving DecidableEq, Repr

/-- The wording of an argument fault. -/
def ArgumentFault.message : ArgumentFault → String
  | .missing => "missing integer parameter"
  | .numeral fault => fault.message

/-- The argument as a signed 64-bit integer; blanks around it do not count. -/
def Call.integer (call : Call) : Except ArgumentFault Int64 :=
  match call.argument with
  | none => .error .missing
  | some argument => (Text.Numeral.readInt64 (Text.trim argument.toList)).mapError .numeral

end KeyedFlow
