import KeyedFlow.Json.Value
import KeyedFlow.Text.Quoted

/-!
# Writing JSON

A value is written in one line without blanks, or over several lines with an indentation of two spaces.  In texts only
the quote, the backslash and the control characters are escaped.  Every writing function puts its characters in front
of those that follow.
-/

namespace KeyedFlow.Json

/-- A character as it stands in a written text. -/
def escapedChar (c : Char) : List Char :=
  if c = '"' then ['\\', '"']
  else if c = '\\' then ['\\', '\\']
  else if c = '\n' then ['\\', 'n']
  else if c = '\r' then ['\\', 'r']
  else if c = '\t' then ['\\', 't']
  else if c = '\x08' then ['\\', 'b']
  else if c = '\x0c' then ['\\', 'f']
  else if c.toNat < 0x20 then '\\' :: 'u' :: Text.hexPadded 4 c.toNat
  else [c]

/-- Writes a text with its quotes. -/
def writeText (s : String) (rest : List Char) : List Char :=
  '"' :: (s.toList.flatMap escapedChar ++ '"' :: rest)

/-- Writes a value that is neither a list nor an object. -/
def writeScalar (v : Json) (rest : List Char) : List Char :=
  match v with
  | .null => "null".toList ++ rest
  | .bool true => "true".toList ++ rest
  | .bool false => "false".toList ++ rest
  | .integer n => (toString n).toList ++ rest
  | .decimal d => d.chars ++ rest
  | .text s => writeText s rest
  | .list _ => rest
  | .object _ => rest

mutual

/-- Writes a value in one line. -/
def write (v : Json) (rest : List Char) : List Char :=
  match v with
  | .list items => '[' :: writeItems items rest
  | .object members => '\x7b' :: writeMembers members rest
  | scalar => writeScalar scalar rest

/-- Writes the items of a list and its closing bracket. -/
def writeItems (items : List Json) (rest : List Char) : List Char :=
  match items with
  | [] => ']' :: rest
  | [v] => write v (']' :: rest)
  | v :: more => write v (',' :: writeItems more rest)

/-- Writes the members of an object and its closing brace. -/
def writeMembers (members : List (String × Json)) (rest : List Char) : List Char :=
  match members with
  | [] => '\x7d' :: rest
  | [(key, v)] => writeText key (':' :: write v ('\x7d' :: rest))
  | (key, v) :: more => writeText key (':' :: write v (',' :: writeMembers more rest))

end

/-- A line break and the indentation of a depth. -/
def newline (depth : Nat) (rest : List Char) : List Char :=
  '\n' :: (List.replicate (2 * depth) ' ' ++ rest)

mutual

/-- Writes a value over several lines, its own lines being indented by `depth`. -/
def writeIndented (depth : Nat) (v : Json) (rest : List Char) : List Char :=
  match v with
  | .list [] => '[' :: ']' :: rest
  | .list items => '[' :: writeIndentedItems depth items rest
  | .object [] => '\x7b' :: '\x7d' :: rest
  | .object members => '\x7b' :: writeIndentedMembers depth members rest
  | scalar => writeScalar scalar rest

/-- Writes the items of a list, each on lines of its own, and its closing bracket. -/
def writeIndentedItems (depth : Nat) (items : List Json) (rest : List Char) : List Char :=
  match items with
  | [] => newline depth (']' :: rest)
  | [v] => newline (depth + 1) (writeIndented (depth + 1) v (newline depth (']' :: rest)))
  | v :: more => newline (depth + 1) (writeIndented (depth + 1) v (',' :: writeIndentedItems depth more rest))

/-- Writes the members of an object, each on lines of its own, and its closing brace. -/
def writeIndentedMembers (depth : Nat) (members : List (String × Json)) (rest : List Char) : List Char :=
  match members with
  | [] => newline depth ('\x7d' :: rest)
  | [(key, v)] =>
    newline (depth + 1) (writeText key (':' :: ' ' :: writeIndented (depth + 1) v (newline depth ('\x7d' :: rest))))
  | (key, v) :: more =>
    newline (depth + 1)
      (writeText key (':' :: ' ' :: writeIndented (depth + 1) v (',' :: writeIndentedMembers depth more rest)))

end

/-- A value in one line. -/
def compact (v : Json) : String :=
  String.ofList (v.write [])

/-- A value over several lines. -/
def indented (v : Json) : String :=
  String.ofList (v.writeIndented 0 [])

end KeyedFlow.Json
