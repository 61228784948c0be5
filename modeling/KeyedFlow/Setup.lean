import KeyedFlow.Disk.Path
import KeyedFlow.Failure
import KeyedFlow.Json.Reader
import KeyedFlow.Partitions
import KeyedFlow.Rounding

/-!
# Setups

A setup says where the partitions, the program, the result and the expected result are, and how quotients are rounded.
It is kept as a JSON document, in which every field may be left out.
-/

namespace KeyedFlow

/-- Where the files of a run are, and its rounding. -/
structure Setup where
  partitionStem : String
  programPath : String
  resultPath : String
  expectedPath : String
  rounding : Rounding
  deriving DecidableEq, Repr

namespace Setup

/-- The usual setup. -/
def usual : Setup where
  partitionStem := "files/program3/key"
  programPath := "files/program3/program.json"
  resultPath := "files/program3/result.csv"
  expectedPath := "result-3.csv"
  rounding := .towardZero

/-- The setup with all files in one directory. -/
def inDirectory (directory : String) : Setup where
  partitionStem := Path.join directory "key"
  programPath := Path.join directory "program.json"
  resultPath := Path.join directory "result.csv"
  expectedPath := Path.join directory "expected.csv"
  rounding := .towardZero

/-- The partitions of a setup. -/
def partitions (setup : Setup) : Partitions :=
  ⟨setup.partitionStem⟩

/-- Paths that take the place of those of a setup. -/
structure Overrides where
  partitionStem : Option String
  programPath : Option String
  resultPath : Option String
  expectedPath : Option String
  deriving DecidableEq, Repr

/-- A setup with other paths. -/
def override (setup : Setup) (overrides : Overrides) : Setup where
  partitionStem := overrides.partitionStem.getD setup.partitionStem
  programPath := overrides.programPath.getD setup.programPath
  resultPath := overrides.resultPath.getD setup.resultPath
  expectedPath := overrides.expectedPath.getD setup.expectedPath
  rounding := setup.rounding

/-- The fields of a setup that have been read. -/
structure Draft where
  partitionStem : Option String
  programPath : Option String
  resultPath : Option String
  expectedPath : Option String
  rounding : Option Rounding

/-- What a member of a setup's object does. -/
def Draft.field (draft : Draft) (name : String) (t : Json.Tree) : Option (Except Json.Fault Draft) :=
  match name with
  | "partition_prefix" =>
    some ((Json.readOnce name draft.partitionStem Json.readPath t).map ({ draft with partitionStem := · }))
  | "program_path" =>
    some ((Json.readOnce name draft.programPath Json.readPath t).map ({ draft with programPath := · }))
  | "result_path" =>
    some ((Json.readOnce name draft.resultPath Json.readPath t).map ({ draft with resultPath := · }))
  | "expected_path" =>
    some ((Json.readOnce name draft.expectedPath Json.readPath t).map ({ draft with expectedPath := · }))
  | "truncation" =>
    some ((Json.readOnce name draft.rounding Rounding.read t).map ({ draft with rounding := · }))
  | _ => none

/-- Reads a setup; a field that is left out is as usual. -/
def read : Json.Reader Setup :=
  Json.readStructure "struct HarnessConfig"
    (fun members => do
      let draft ← Json.readMembers Draft.field ⟨none, none, none, none, none⟩ members
      return {
        partitionStem := draft.partitionStem.getD usual.partitionStem
        programPath := draft.programPath.getD usual.programPath
        resultPath := draft.resultPath.getD usual.resultPath
        expectedPath := draft.expectedPath.getD usual.expectedPath
        rounding := draft.rounding.getD usual.rounding })
    (do
      let partitionStem ← Json.itemOr usual.partitionStem Json.readPath
      let programPath ← Json.itemOr usual.programPath Json.readPath
      let resultPath ← Json.itemOr usual.resultPath Json.readPath
      let expectedPath ← Json.itemOr usual.expectedPath Json.readPath
      let rounding ← Json.itemOr usual.rounding Rounding.read
      return { partitionStem, programPath, resultPath, expectedPath, rounding })

/-- Reads the document of a setup. -/
def parse (path text : String) : Except Failure Setup :=
  (Json.ofText read text).mapError fun fault => .invalidDocument path fault.message

/-- The setup in the file at a path. -/
def load (path : String) : DiskAction (Except Failure Setup) :=
  loadDocument parse path

end Setup

end KeyedFlow
