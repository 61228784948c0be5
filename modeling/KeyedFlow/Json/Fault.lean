import KeyedFlow.Text.Quoted

/-!
# Faults of JSON documents

A document is refused either because its text is no JSON from some place on, or because a value in it is not what its
reader asked for.  The faults carry what their wording needs and no place in the text.
-/

namespace KeyedFlow.Json

/-- What a reader found in place of what it asked for. -/
inductive Found where
  | null
  | bool (b : Bool)
  | integer (n : Int)
  | decimal
  | text (s : String)
  | list
  | object
  deriving DecidableEq, Repr

/-- The wording of what was found. -/
def Found.wording : Found → String
  | .null => "null"
  | .bool b => s!"boolean \x60{b}\x60"
  | .integer n => s!"integer \x60{n}\x60"
  | .decimal => "floating point"
  | .text s => "string " ++ Text.quoted s
  | .list => "sequence"
  | .object => "map"

/-- Why a document is refused. -/
inductive Fault where
  | endInValue
  | endInList
  | endInObject
  | endInText
  | noValue
  | badWord
  | badNumber
  | hugeNumber
  | badEscape
  | unpairedEscape
  | loneSurrogate
  | controlCharacter
  | noColon
  | noListEnd
  | noObjectEnd
  | noKey
  | trailingComma
  | trailingCharacters
  | wrongType (found : Found) (expected : String)
  | wrongValue (n : Int) (expected : String)
  | wrongLength (length : Nat) (expected : String)
  | missingField (field : String)
  | repeatedField (field : String)
  | unknownName (name : String) (known : List String)
  | unreadable (reason : String)
  deriving DecidableEq, Repr

/-- A name between grave accents. -/
def accented (name : String) : String :=
  "\x60" ++ name ++ "\x60"

/-- The names from which one was expected. -/
def oneOf : List String → String
  | [] => "there are no variants"
  | [a] => "expected " ++ accented a
  | [a, b] => "expected " ++ accented a ++ " or " ++ accented b
  | names => "expected one of " ++ String.intercalate ", " (names.map accented)

/-- The wording of a fault. -/
def Fault.message : Fault → String
  | .endInValue => "EOF while parsing a value"
  | .endInList => "EOF while parsing a list"
  | .endInObject => "EOF while parsing an object"
  | .endInText => "EOF while parsing a string"
  | .noValue => "expected value"
  | .badWord => "expected ident"
  | .badNumber => "invalid number"
  | .hugeNumber => "number out of range"
  | .badEscape => "invalid escape"
  | .unpairedEscape => "unexpected end of hex escape"
  | .loneSurrogate => "lone leading surrogate in hex escape"
  | .controlCharacter => "control character (\\u0000-\\u001F) found while parsing a string"
  | .noColon => "expected " ++ accented ":"
  | .noListEnd => "expected " ++ accented "," ++ " or " ++ accented "]"
  | .noObjectEnd => "expected " ++ accented "," ++ " or " ++ accented "\x7d"
  | .noKey => "key must be a string"
  | .trailingComma => "trailing comma"
  | .trailingCharacters => "trailing characters"
  | .wrongType found expected => "invalid type: " ++ found.wording ++ ", expected " ++ expected
  | .wrongValue n expected => "invalid value: " ++ (Found.integer n).wording ++ ", expected " ++ expected
  | .wrongLength length expected => s!"invalid length {length}, expected {expected}"
  | .missingField field => "missing field " ++ accented field
  | .repeatedField field => "duplicate field " ++ accented field
  | .unknownName name known => "unknown variant " ++ accented name ++ ", " ++ oneOf known
  | .unreadable reason => reason

end KeyedFlow.Json
