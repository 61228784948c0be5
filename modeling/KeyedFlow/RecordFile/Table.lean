import KeyedFlow.Failure
import KeyedFlow.Record
import KeyedFlow.RecordFile.Row
import KeyedFlow.Text.Blank
import KeyedFlow.Text.Numeral

/-!
# Tables in record files

A row is a record when it has two fields and both, trimmed, are signed 64-bit numerals.  A file may begin with a
header, which is a row without any numeral.  A table is written with one row for every record.
-/

namespace KeyedFlow

/-- Whether a record file may begin with a header. -/
inductive Header where
  | absent
  | optional
  deriving DecidableEq, Repr, Inhabited

namespace RecordFile

/-- The trimmed texts of the fields of a row, unless one of them is no text. -/
def Row.texts? (row : Row) : Option (List (List Char)) :=
  row.fields.mapM fun field => (String.fromUTF8? ⟨field.toArray⟩).map fun s => Text.trim s.toList

/-- The record of a row. -/
def record? : List (List Char) → Option Record
  | [key, value] =>
    match Text.Numeral.readInt64 key, Text.Numeral.readInt64 value with
    | .ok key, .ok value => some ⟨key, value⟩
    | _, _ => none
  | _ => none

/-- Whether a row can be a header: none of its fields is a numeral. -/
def isHeader (fields : List (List Char)) : Bool :=
  fields.all fun field => !Text.Numeral.isInt64 field

/-- The text of a row in failures. -/
def rowText (fields : List (List Char)) : String :=
  String.intercalate "," (fields.map String.ofList)

/-- The records of rows.  The first failure ends the reading; a header is passed over while `header` allows one. -/
def tableOfRows (path : String) (header : Header) : List Row → Except Failure Table
  | [] => .ok []
  | row :: rest =>
    match row.texts? with
    | none => .error .recordFormat
    | some fields =>
      match record? fields with
      | some record => (tableOfRows path .absent rest).map (record :: ·)
      | none =>
        if header = .optional ∧ isHeader fields then tableOfRows path .absent rest
        else .error (.malformedRecord path row.line (rowText fields))

/-- The table of the bytes of a file. -/
def decode (path : String) (header : Header) (bytes : ByteArray) : Except Failure Table :=
  tableOfRows path header (rows bytes.data.toList)

/-- A record as it is written. -/
def recordChars (r : Record) : List Char :=
  (toString r.key).toList ++ ',' :: (toString r.value).toList ++ ['\n']

/-- The text of a table. -/
def encode (t : Table) : String :=
  String.ofList (t.flatMap recordChars)

end RecordFile

end KeyedFlow
