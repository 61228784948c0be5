/-!
# Rows of record files

A record file is a sequence of bytes.  Commas divide a row into fields; a line feed or a carriage return ends it, and
line ends where a row would begin are passed over.  A quote at the very beginning of a field opens a quoted field, in
which commas and line ends are content and two quotes stand for one; what follows the closing quote belongs to the field
as it is.  The end of the file ends a row that has begun.

The rows are read by feeding the bytes one by one to a scanner.  A row has the number of the line on which it begins,
which is one more than the number of line feeds up to and including the byte that ended the row before it.
-/

namespace KeyedFlow.RecordFile

/-- The fields of a row and the line on which it begins. -/
structure Row where
  line : Nat
  fields : List (List UInt8)
  deriving DecidableEq, Repr

/-- Where in a row the next byte stands. -/
inductive Spot where
  | rowStart
  | fieldStart
  | plain
  | quoted
  /-- Behind a quote inside a quoted field, which closes the field unless another quote follows. -/
  | quote
  deriving DecidableEq, Repr

/-- What has been read of the row that is being read; fields and bytes are in reverse. -/
structure Scanner where
  spot : Spot
  /-- The line of the next byte. -/
  line : Nat
  /-- The line of the row that is being read. -/
  start : Nat
  fields : List (List UInt8)
  field : List UInt8
  deriving Repr

/-- The byte of a comma. -/
def comma : UInt8 := 0x2C

/-- The byte of a quote. -/
def quote : UInt8 := 0x22

/-- The byte of a line feed. -/
def lineFeed : UInt8 := 0x0A

/-- The byte of a carriage return. -/
def carriageReturn : UInt8 := 0x0D

/-- Whether a byte ends a row. -/
def isRowEnd (b : UInt8) : Bool :=
  b == lineFeed || b == carriageReturn

namespace Scanner

/-- The scanner before the first byte. -/
def initial : Scanner :=
  ⟨.rowStart, 1, 1, [], []⟩

/-- The line of the byte that follows `b`. -/
def nextLine (s : Scanner) (b : UInt8) : Nat :=
  if b = lineFeed then s.line + 1 else s.line

/-- The row that is being read, taken to end here. -/
def row (s : Scanner) : Row :=
  ⟨s.start, (s.field.reverse :: s.fields).reverse⟩

/-- Takes a byte into the field. -/
def push (s : Scanner) (spot : Spot) (b : UInt8) : Scanner :=
  { s with spot, line := s.nextLine b, field := b :: s.field }

/-- Takes a byte without content. -/
def pass (s : Scanner) (spot : Spot) (b : UInt8) : Scanner :=
  { s with spot, line := s.nextLine b }

/-- Ends the field at a comma. -/
def endField (s : Scanner) : Scanner :=
  { s with spot := .fieldStart, fields := s.field.reverse :: s.fields, field := [] }

/-- Ends the row at a line end. -/
def endRow (s : Scanner) (b : UInt8) : Scanner :=
  ⟨.rowStart, s.nextLine b, s.nextLine b, [], []⟩

/-- Takes a byte outside quotes, which may end the field or the row. -/
def takePlain (s : Scanner) (b : UInt8) : Scanner × Option Row :=
  if b = comma then (s.endField, none)
  else if isRowEnd b then (s.endRow b, some s.row)
  else (s.push .plain b, none)

/-- Takes a byte; a row that it ends is given out. -/
def feed (s : Scanner) (b : UInt8) : Scanner × Option Row :=
  match s.spot with
  | .rowStart =>
    if isRowEnd b then (s.pass .rowStart b, none)
    else if b = RecordFile.quote then (s.pass .quoted b, none)
    else s.takePlain b
  | .fieldStart => if b = RecordFile.quote then (s.pass .quoted b, none) else s.takePlain b
  | .plain => s.takePlain b
  | .quoted => if b = RecordFile.quote then (s.pass .quote b, none) else (s.push .quoted b, none)
  | .quote => if b = RecordFile.quote then (s.push .quoted b, none) else s.takePlain b

/-- The rows that the bytes end, and at the end of the bytes the row that has begun. -/
def rows (s : Scanner) : List UInt8 → List Row
  | [] => if s.spot = .rowStart then [] else [s.row]
  | b :: rest =>
    match s.feed b with
    | (next, some row) => row :: rows next rest
    | (next, none) => rows next rest

end Scanner

/-- The bytes behind a byte order mark at the beginning of a file. -/
def dropMark : List UInt8 → List UInt8
  | 0xEF :: 0xBB :: 0xBF :: rest => rest
  | bytes => bytes

/-- The rows of a file. -/
def rows (bytes : List UInt8) : List Row :=
  Scanner.initial.rows (dropMark bytes)

end KeyedFlow.RecordFile
