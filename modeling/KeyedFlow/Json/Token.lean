import KeyedFlow.IntegerRange
import KeyedFlow.Json.Decimal
import KeyedFlow.Json.Fault

/-!
# Tokens of JSON texts

A text is divided into the marks `[ ] { } , :`, quoted texts, and atoms, which are numbers and the words `null`, `true`
and `false`.  White space is the space, the tab, the line feed and the carriage return.

A text or an atom can be met by a reader that wants what it says and by one that only passes over it, and the second is
more lenient: it takes unpaired surrogate escapes and numbers of any size.  A token therefore carries two answers.
Where even passing over fails, nothing behind the token can be told apart, and the tokens end with it.
-/

namespace KeyedFlow.Json

/-- White space between tokens. -/
def isSpace (c : Char) : Bool :=
  c = ' ' || c = '\t' || c = '\n' || c = '\r'

/-- What an atom says: integers are those of 64 bits, signed or unsigned, and all other numbers are decimals. -/
inductive Atom where
  | null
  | bool (b : Bool)
  | integer (n : Int)
  | decimal (d : Decimal)
  deriving DecidableEq, Repr

/-- A token with content: what it says, and whether it can be passed over. -/
structure Lexeme (α : Type) where
  content : Except Fault α
  skipped : Except Fault Unit

/-- A token. -/
inductive Token where
  | mark (c : Char)
  | atom (lexeme : Lexeme Atom)
  | text (lexeme : Lexeme String)
  | other

/-! ### Words -/

/-- What follows the rest of a word. -/
def afterWord : List Char → List Char → Except Fault (List Char)
  | [], s => .ok s
  | _ :: _, [] => .error .endInValue
  | e :: es, c :: s => if e = c then afterWord es s else .error .badWord

/-! ### Numbers -/

/-- The parts of a number as written. -/
structure Figure where
  negative : Bool
  whole : List Char
  fraction : List Char
  exponent : Option (Bool × List Char)

/-- Why a text is no number: it ends too early, or has a wrong character. -/
inductive FigureFault where
  | cut
  | malformed

/-- At least one digit, and what follows the digits. -/
def digits1 (s : List Char) : Except FigureFault (List Char × List Char) :=
  match s.takeWhile Char.isDigit with
  | [] => .error (if s.isEmpty then .cut else .malformed)
  | d :: ds => .ok (d :: ds, s.dropWhile Char.isDigit)

/-- The digits before the point: a zero stands alone. -/
def wholePart (s : List Char) : Except FigureFault (List Char × List Char) := do
  let (ds, rest) ← digits1 s
  if ds.head? = some '0' ∧ 1 < ds.length then .error .malformed else .ok (ds, rest)

/-- The point and the digits behind it, which may both be absent. -/
def fractionPart : List Char → Except FigureFault (List Char × List Char)
  | '.' :: s => digits1 s
  | s => .ok ([], s)

/-- The sign of an exponent. -/
def exponentSign : List Char → Bool × List Char
  | '+' :: s => (false, s)
  | '-' :: s => (true, s)
  | s => (false, s)

/-- The letter, sign and digits of an exponent, which may be absent together. -/
def exponentPart : List Char → Except FigureFault (Option (Bool × List Char) × List Char)
  | c :: s =>
    if c = 'e' ∨ c = 'E' then do
      let (negative, s) := exponentSign s
      let (ds, rest) ← digits1 s
      .ok (some (negative, ds), rest)
    else .ok (none, c :: s)
  | [] => .ok (none, [])

/-- A number, whose sign has been read, and what follows it. -/
def figure (negative : Bool) (s : List Char) : Except FigureFault (Figure × List Char) := do
  let (whole, s) ← wholePart s
  let (fraction, s) ← fractionPart s
  let (exponent, s) ← exponentPart s
  .ok (⟨negative, whole, fraction, exponent⟩, s)

/-- The natural number of a row of decimal digits. -/
def digitsValue (ds : List Char) : Nat :=
  ds.foldl (fun n d => n * 10 + (d.toNat - '0'.toNat)) 0

/-- A number followed by those of some digits that keep it within 64 bits, and the digits that are left. -/
def appendDigits (n : Nat) : List Char → Nat × List Char
  | [] => (n, [])
  | d :: ds =>
    let next := n * 10 + (d.toNat - '0'.toNat)
    if IntegerRange.unsigned64.contains next then appendDigits next ds else (n, d :: ds)

/-- The power of ten that an exponent as written stands for. -/
def Figure.writtenExponent (f : Figure) : Int :=
  match f.exponent with
  | none => 0
  | some (negative, ds) => if negative then -(digitsValue ds : Int) else digitsValue ds

/-- The decimal fraction of a number, unless it is too large.  Digits that do not fit into 64 bits count as zeros. -/
def Figure.toDecimal (f : Figure) : Option Decimal :=
  let (n, left) := appendDigits 0 f.whole
  let (n, ignored) := appendDigits n f.fraction
  let exponent : Int := f.writtenExponent + left.length - (f.fraction.length - ignored.length : Nat)
  (BinaryFraction.ofScientific n exponent).map (Decimal.ofBinary f.negative)

/-- The integer before the point of a number. -/
def Figure.wholeValue (f : Figure) : Int :=
  if f.negative then -(digitsValue f.whole : Int) else digitsValue f.whole

/-- Whether a number counts as an integer: it has neither fraction nor exponent, is not minus zero, and is a 64-bit
integer with or without a sign. -/
def Figure.isInteger (f : Figure) : Bool :=
  f.fraction.isEmpty && f.exponent.isNone && !(f.negative && f.wholeValue == 0) &&
    (IntegerRange.signed64.contains f.wholeValue || IntegerRange.unsigned64.contains f.wholeValue)

/-- What a number says.  A number that does not count as an integer is a decimal, unless it is too large. -/
def Figure.atom (f : Figure) : Except Fault Atom :=
  if f.isInteger then .ok (.integer f.wholeValue)
  else
    match f.toDecimal with
    | some d => .ok (.decimal d)
    | none => .error .hugeNumber

/-! ### Texts -/

/-- The number of four hexadecimal digits. -/
def hexQuad? (a b c d : Char) : Option Nat := do
  return (((← Text.hexValue? a) * 16 + (← Text.hexValue? b)) * 16 + (← Text.hexValue? c)) * 16 + (← Text.hexValue? d)

/-- The fault of an escape by number whose four digits are not there.  Four digits are looked for in four bytes, so a
text that ends within the next four bytes is cut short. -/
def quadFault (s : List Char) : Fault :=
  if (s.take 4).foldl (fun n c => n + c.utf8Size) 0 < 4 then .endInText else .badEscape

/-- The character that an escape by letter stands for. -/
def escapeLetter? (c : Char) : Option Char :=
  if c = '"' ∨ c = '\\' ∨ c = '/' then some c
  else if c = 'b' then some '\x08'
  else if c = 'f' then some '\x0c'
  else if c = 'n' then some '\n'
  else if c = 'r' then some '\r'
  else if c = 't' then some '\t'
  else none

/-- The character of a pair of surrogates. -/
def surrogatePair (high low : Nat) : Char :=
  Char.ofNat (0x10000 + (high - 0xD800) * 0x400 + (low - 0xDC00))

/-- The content of a text up to its closing quote. -/
def textContent : List Char → Except Fault (List Char)
  | [] => .error .endInText
  | '"' :: _ => .ok []
  | ['\\'] => .error .endInText
  | '\\' :: 'u' :: a :: b :: c :: d :: s =>
    match hexQuad? a b c d with
    | none => .error .badEscape
    | some n =>
      if 0xDC00 ≤ n ∧ n ≤ 0xDFFF then .error .loneSurrogate
      else if 0xD800 ≤ n ∧ n ≤ 0xDBFF then
        match s with
        | [] => .error .endInText
        | ['\\'] => .error .endInText
        | '\\' :: 'u' :: a :: b :: c :: d :: s =>
          match hexQuad? a b c d with
          | none => .error .badEscape
          | some m =>
            if 0xDC00 ≤ m ∧ m ≤ 0xDFFF then (textContent s).map (surrogatePair n m :: ·)
            else .error .loneSurrogate
        | '\\' :: 'u' :: s => .error (quadFault s)
        | _ => .error .unpairedEscape
      else (textContent s).map (Char.ofNat n :: ·)
  | '\\' :: 'u' :: s => .error (quadFault s)
  | '\\' :: c :: s =>
    match escapeLetter? c with
    | some e => (textContent s).map (e :: ·)
    | none => .error .badEscape
  | c :: s => if c.toNat < 0x20 then .error .controlCharacter else (textContent s).map (c :: ·)

/-- What follows the closing quote of a text. -/
def afterText : List Char → Except Fault (List Char)
  | [] => .error .endInText
  | '"' :: s => .ok s
  | ['\\'] => .error .endInText
  | '\\' :: 'u' :: a :: b :: c :: d :: s => if (hexQuad? a b c d).isSome then afterText s else .error .badEscape
  | '\\' :: 'u' :: s => .error (quadFault s)
  | '\\' :: c :: s => if (escapeLetter? c).isSome then afterText s else .error .badEscape
  | c :: s => if c.toNat < 0x20 then .error .controlCharacter else afterText s

/-! ### Dividing a text -/

/-- An atom that is a word. -/
def wordToken (atom : Atom) (word s : List Char) : Token × Option (List Char) :=
  match afterWord word s with
  | .ok rest => (.atom ⟨.ok atom, .ok ()⟩, some rest)
  | .error fault => (.atom ⟨.error fault, .error fault⟩, none)

/-- An atom that is a number. -/
def numberToken (negative : Bool) (s : List Char) : Token × Option (List Char) :=
  match figure negative s with
  | .ok (f, rest) => (.atom ⟨f.atom, .ok ()⟩, some rest)
  | .error .cut => (.atom ⟨.error .endInValue, .error .badNumber⟩, none)
  | .error .malformed => (.atom ⟨.error .badNumber, .error .badNumber⟩, none)

/-- A text whose opening quote has been read. -/
def textToken (s : List Char) : Token × Option (List Char) :=
  let content := (textContent s).map String.ofList
  match afterText s with
  | .ok rest => (.text ⟨content, .ok ()⟩, some rest)
  | .error fault => (.text ⟨content, .error fault⟩, none)

/-- The token that begins with a character that is no white space, and what follows the token. -/
def token (c : Char) (s : List Char) : Token × Option (List Char) :=
  if c = '[' ∨ c = ']' ∨ c = '\x7b' ∨ c = '\x7d' ∨ c = ',' ∨ c = ':' then (.mark c, some s)
  else if c = '"' then textToken s
  else if c = 'n' then wordToken .null "ull".toList s
  else if c = 't' then wordToken (.bool true) "rue".toList s
  else if c = 'f' then wordToken (.bool false) "alse".toList s
  else if c = '-' then numberToken true s
  else if c.isDigit then numberToken false (c :: s)
  else (.other, none)

end KeyedFlow.Json
