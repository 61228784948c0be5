import KeyedFlow.Text.Hexadecimal
import KeyedFlow.Text.Unprintable

/-!
# Quoted texts

A quoted text stands between double quotes and shows every character: the quote, the backslash and the characters
without a printed form are escaped, all others stand for themselves.
-/

namespace KeyedFlow.Text

/-- A character as it stands in a quoted text. -/
def quotedChar (c : Char) : List Char :=
  if c = '"' then ['\\', '"']
  else if c = '\\' then ['\\', '\\']
  else if c = '\n' then ['\\', 'n']
  else if c = '\r' then ['\\', 'r']
  else if c = '\t' then ['\\', 't']
  else if c = '\x00' then ['\\', '0']
  else if isUnprintable c then ['\\', 'u', '\x7b'] ++ hexDigits c.toNat ++ ['\x7d']
  else [c]

/-- A text in double quotes. -/
def quoted (s : String) : String :=
  String.ofList ('"' :: s.toList.flatMap quotedChar ++ ['"'])

/-- A text that may be absent, quoted. -/
def quoted? : Option String → String
  | none => "None"
  | some s => "Some(" ++ quoted s ++ ")"

end KeyedFlow.Text
