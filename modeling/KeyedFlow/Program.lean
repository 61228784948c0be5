import KeyedFlow.Failure
import KeyedFlow.Json.Reader
import KeyedFlow.Json.Writer

/-!
# Programs

A program is a list of operations, each an operator and a function as they were written, and may say how many partitions
it is meant for.  Programs are kept as JSON documents; an operation is resolved only when a pipeline is built from the
program.
-/

namespace KeyedFlow

/-- An operator and a function, as written. -/
structure Operation where
  operator : String
  function : String
  deriving DecidableEq, Repr, Inhabited

/-- Operations in the order in which they are applied, and the number of partitions they are meant for. -/
structure Program where
  partitions : Option UInt64
  operations : List Operation
  deriving DecidableEq, Repr, Inhabited

namespace Operation

/-- An operation as a JSON object. -/
def toJson (operation : Operation) : Json :=
  .object [("operator", .text operation.operator), ("function", .text operation.function)]

/-- The fields of an operation that have been read. -/
structure Draft where
  operator : Option String
  function : Option String

/-- What a member of an operation's object does. -/
def Draft.field (draft : Draft) (name : String) (t : Json.Tree) : Option (Except Json.Fault Draft) :=
  match name with
  | "operator" => some ((Json.readOnce name draft.operator Json.readText t).map ({ draft with operator := · }))
  | "function" => some ((Json.readOnce name draft.function Json.readText t).map ({ draft with function := · }))
  | _ => none

/-- Reads an operation. -/
def read : Json.Reader Operation :=
  Json.readStructure "struct OperationSpec"
    (fun members => do
      let draft ← Json.readMembers Draft.field ⟨none, none⟩ members
      return ⟨← Json.required "operator" draft.operator, ← Json.required "function" draft.function⟩)
    (do
      let expected := "struct OperationSpec with 2 elements"
      return ⟨← Json.item 0 expected Json.readText, ← Json.item 1 expected Json.readText⟩)

end Operation

namespace Program

/-- A program as a JSON object; an absent number of partitions is left out. -/
def toJson (program : Program) : Json :=
  let partitions := match program.partitions with
    | none => []
    | some n => [("partitions", Json.count n.toNat)]
  .object (partitions ++ [("operations", .list (program.operations.map Operation.toJson))])

/-- The fields of a program that have been read. -/
structure Draft where
  partitions : Option (Option UInt64)
  operations : Option (List Operation)

/-- What a member of a program's object does. -/
def Draft.field (draft : Draft) (name : String) (t : Json.Tree) : Option (Except Json.Fault Draft) :=
  match name with
  | "partitions" =>
    some ((Json.readOnce name draft.partitions (Json.readOption Json.readCount) t).map
      ({ draft with partitions := · }))
  | "operations" =>
    some ((Json.readOnce name draft.operations (Json.readList Operation.read) t).map ({ draft with operations := · }))
  | _ => none

/-- Reads a program. -/
def read : Json.Reader Program :=
  Json.readStructure "struct PipelineConfig"
    (fun members => do
      let draft ← Json.readMembers Draft.field ⟨none, none⟩ members
      return ⟨draft.partitions.join, ← Json.required "operations" draft.operations⟩)
    (do
      let partitions ← Json.itemOr none (Json.readOption Json.readCount)
      let operations ← Json.item 1 "struct PipelineConfig with 2 elements" (Json.readList Operation.read)
      return ⟨partitions, operations⟩)

/-- Reads the document of a program; `path` says in failures where the document comes from. -/
def parse (path text : String) : Except Failure Program :=
  (Json.ofText read text).mapError fun fault => .invalidDocument path fault.message

end Program

end KeyedFlow
