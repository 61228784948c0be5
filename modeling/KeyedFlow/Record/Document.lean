import KeyedFlow.Json.Reader
import KeyedFlow.Json.Writer
import KeyedFlow.Record

/-!
# Tables as documents

In a JSON document a table is a list of records, and a record an object with a key and a value, or the list of the two.
-/

namespace KeyedFlow

namespace Record

/-- A record as a JSON object. -/
def toJson (r : Record) : Json :=
  .object [("key", .integer r.key.toInt), ("value", .integer r.value.toInt)]

/-- The fields of a record that have been read. -/
structure Draft where
  key : Option Int64
  value : Option Int64

/-- What a member of a record's object does. -/
def Draft.field (draft : Draft) (name : String) (t : Json.Tree) : Option (Except Json.Fault Draft) :=
  match name with
  | "key" => some ((Json.readOnce name draft.key Json.readInt64 t).map ({ draft with key := · }))
  | "value" => some ((Json.readOnce name draft.value Json.readInt64 t).map ({ draft with value := · }))
  | _ => none

/-- Reads a record. -/
def read : Json.Reader Record :=
  Json.readStructure "struct Record"
    (fun members => do
      let draft ← Json.readMembers Draft.field ⟨none, none⟩ members
      return ⟨← Json.required "key" draft.key, ← Json.required "value" draft.value⟩)
    (do
      let expected := "struct Record with 2 elements"
      return ⟨← Json.item 0 expected Json.readInt64, ← Json.item 1 expected Json.readInt64⟩)

end Record

namespace Table

/-- A table as a JSON list. -/
def toJson (t : Table) : Json :=
  .list (t.map Record.toJson)

/-- Reads a table. -/
def read : Json.Reader Table :=
  Json.readList Record.read

end Table

end KeyedFlow
