import KeyedFlow.Text.Hexadecimal

/-!
# Run identifiers

A run has an identifier of 128 bits, written as 32 hexadecimal digits in lower case in groups of 8, 4, 4, 4 and 12.  It
is also read in upper case, without the hyphens, and with the hyphens between braces or behind `urn:uuid:`.  A text
that is no identifier has a fault: a wrong character before a wrong number of groups, and that before a wrong length of
a group.
-/

namespace KeyedFlow

/-- An identifier of 128 bits. -/
structure RunId where
  bits : BitVec 128
  deriving DecidableEq, Repr

namespace RunId

/-- Why a text is no identifier. -/
inductive Fault where
  | character (c : Char) (position : Nat)
  | length (found : Nat)
  | groupCount (found : Nat)
  | groupLength (group expected found : Nat)
  deriving DecidableEq, Repr

/-- The wording of a fault. -/
def Fault.message : Fault → String
  | .character c position => "invalid character: found \x60" ++ String.singleton c ++ "\x60 at " ++ toString position
  | .length found => "invalid length: found " ++ toString found
  | .groupCount found => "invalid group count: expected 5, found " ++ toString found
  | .groupLength group expected found =>
    "invalid group length in group " ++ toString group ++ ": expected " ++ toString expected ++ ", found " ++
      toString found

/-- The number of digits in each group. -/
def groupLengths : List Nat :=
  [8, 4, 4, 4, 12]

/-- The identifier of 32 digits. -/
def ofDigits? (ds : List Char) : Option RunId := do
  if ds.length ≠ 32 then none
  let values ← ds.mapM Text.hexValue?
  return ⟨BitVec.ofNat 128 (values.foldl (fun n d => n * 16 + d) 0)⟩

/-- The groups of a text divided by hyphens. -/
def groups (s : List Char) : List (List Char) :=
  s.splitOn '-'

/-- The identifier of five groups of digits. -/
def ofGroups? (s : List Char) : Option RunId :=
  if (groups s).map List.length = groupLengths then ofDigits? (groups s).flatten else none

/-- The number of bytes of a text. -/
def byteLength (s : List Char) : Nat :=
  s.foldl (fun n c => n + c.utf8Size) 0

/-- What may stand before the groups, in either case. -/
def wordBefore : List Char :=
  "urn:uuid:".toList

/-- A text without braces around it or `urn:uuid:` before it, if it has either, and how many characters stand before it
then. -/
def unwrap? (s : List Char) : Option (List Char × Nat) :=
  if s.head? = some '\x7b' ∧ s.getLast? = some '\x7d' ∧ 1 < s.length then some ((s.drop 1).dropLast, 1)
  else if (s.take wordBefore.length).map Char.toLower = wordBefore then
    some (s.drop wordBefore.length, wordBefore.length)
  else none

/-- The fault in the lengths of five groups; the last group counts to the end of a text of `length` bytes. -/
def lengthFault (length : Nat) (found : List Nat) : Fault :=
  match ((groupLengths.zip found).take 4).findIdx? fun p => p.1 ≠ p.2 with
  | some i => .groupLength i (groupLengths.getD i 0) (found.getD i 0)
  | none => .groupLength 4 12 (length - 24)

/-- The fault of groups that are no identifier and begin `before` bytes into a text of `length` bytes. -/
def groupsFault (s : List Char) (before length : Nat) : Fault :=
  let found := (groups s).map List.length
  match s.findIdx? fun c => c ≠ '-' ∧ Text.hexValue? c = none with
  | some i => .character (s.getD i ' ') (i + before)
  | none => if found.length ≠ 5 then .groupCount found.length else lengthFault length found

/-- The fault of 32 digits that are no identifier, in a text of `length` bytes. -/
def digitsFault (s : List Char) (length : Nat) : Fault :=
  if s.all fun c => (Text.hexValue? c).isSome then .length length else groupsFault s 0 length

/-- The fault of a text that is no identifier.  A text of the right length for groups is taken for groups without a
wrapping, be it the whole text or what is wrapped, and one that is longer than any identifier has no other fault than
its length. -/
def fault (s : List Char) : Fault :=
  let length := byteLength s
  if 45 < length then .length length
  else if length = 36 then groupsFault s 0 length
  else
    match unwrap? s with
    | some (inner, before) =>
      if byteLength inner = 36 then groupsFault inner 0 36 else groupsFault inner before length
    | none => digitsFault s length

/-- The identifier of a text: 32 digits without hyphens, or groups that may be wrapped. -/
def ofText? (s : List Char) : Option RunId :=
  if s.length = 32 then ofDigits? s
  else
    match unwrap? s with
    | some (inner, _) => ofGroups? inner
    | none => ofGroups? s

/-- Reads an identifier. -/
def parse (s : List Char) : Except Fault RunId :=
  match ofText? s with
  | some id => .ok id
  | none => .error (fault s)

/-- The 32 digits of an identifier. -/
def digits (id : RunId) : List Char :=
  Text.hexPadded 32 id.bits.toNat

/-- The text of an identifier. -/
def text (id : RunId) : String :=
  let ds := id.digits
  String.ofList (ds.take 8 ++ '-' :: (ds.drop 8).take 4 ++ '-' :: (ds.drop 12).take 4 ++ '-' :: (ds.drop 16).take 4 ++
    '-' :: ds.drop 20)

/-- The random identifier of 128 random bits, six of which mark it as random. -/
def random (bits : BitVec 128) : RunId :=
  ⟨(bits &&& ~~~(0xF000#128 <<< 64) ||| (0x4000#128 <<< 64)) &&& ~~~(0xC0#128 <<< 56) ||| (0x80#128 <<< 56)⟩

end RunId

end KeyedFlow
