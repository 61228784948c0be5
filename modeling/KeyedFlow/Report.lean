import KeyedFlow.Json.Reader
import KeyedFlow.Json.Writer
import KeyedFlow.Report.Moment
import KeyedFlow.Report.RunId

/-!
# Run reports

The summary of a run says what was run on what and with which result; it is the same for equal runs.  A report adds what
differs from run to run: an identifier, the time of the start, and how long the run took.
-/

namespace KeyedFlow

/-- What was run, and with which result. -/
structure RunSummary where
  pipeline : String
  partitions : Nat
  operations : Nat
  inputRows : Nat
  outputRows : Nat
  digest : String
  deriving DecidableEq, Repr

/-- What differs between equal runs. -/
structure RunStamp where
  id : RunId
  startedAt : Moment
  milliseconds : Decimal
  deriving DecidableEq, Repr

/-- A stamped summary. -/
structure Report where
  stamp : RunStamp
  summary : RunSummary
  deriving DecidableEq, Repr

namespace RunSummary

/-- The summary of a run that starts. -/
def start (pipeline : String) (partitions operations : Nat) : RunSummary :=
  ⟨pipeline, partitions, operations, 0, 0, ""⟩

/-- The summary with the numbers of rows. -/
def withRows (summary : RunSummary) (inputRows outputRows : Nat) : RunSummary :=
  { summary with inputRows, outputRows }

/-- The summary with the digest of the result. -/
def withDigest (summary : RunSummary) (digest : String) : RunSummary :=
  { summary with digest }

/-- A summary as a JSON object. -/
def toJson (summary : RunSummary) : Json :=
  .object [("pipeline", .text summary.pipeline), ("partitions", .count summary.partitions),
    ("operations", .count summary.operations), ("input_rows", .count summary.inputRows),
    ("output_rows", .count summary.outputRows), ("digest", .text summary.digest)]

end RunSummary

namespace Report

/-- A report as a JSON object. -/
def toJson (report : Report) : Json :=
  let stamp := report.stamp
  let summary := report.summary
  .object [("run_id", .text stamp.id.text), ("started_at", .text stamp.startedAt.text),
    ("pipeline", .text summary.pipeline), ("partitions", .count summary.partitions),
    ("operations", .count summary.operations), ("input_rows", .count summary.inputRows),
    ("output_rows", .count summary.outputRows), ("duration_ms", .decimal stamp.milliseconds),
    ("digest", .text summary.digest)]

/-- Reads a run identifier. -/
def readId : Json.Reader RunId := fun t => do
  let text ← Json.readTextAs "a formatted UUID string" t
  (RunId.parse text.toList).mapError fun fault => .unreadable ("UUID parsing failed: " ++ fault.message)

/-- Reads a moment. -/
def readMoment : Json.Reader Moment := fun t => do
  let text ← Json.readTextAs "an RFC 3339 formatted date and time string" t
  (Moment.parse text.toList).mapError fun fault => .unreadable fault.message

/-- Reads a number of partitions, operations or rows. -/
def readNat : Json.Reader Nat := fun t =>
  (Json.readCount t).map UInt64.toNat

/-- The fields of a report that have been read. -/
structure Draft where
  id : Option RunId := none
  startedAt : Option Moment := none
  pipeline : Option String := none
  partitions : Option Nat := none
  operations : Option Nat := none
  inputRows : Option Nat := none
  outputRows : Option Nat := none
  milliseconds : Option Decimal := none
  digest : Option String := none

/-- What a member of a report's object does. -/
def Draft.field (draft : Draft) (name : String) (t : Json.Tree) : Option (Except Json.Fault Draft) :=
  match name with
  | "run_id" => some ((Json.readOnce name draft.id readId t).map ({ draft with id := · }))
  | "started_at" => some ((Json.readOnce name draft.startedAt readMoment t).map ({ draft with startedAt := · }))
  | "pipeline" => some ((Json.readOnce name draft.pipeline Json.readText t).map ({ draft with pipeline := · }))
  | "partitions" => some ((Json.readOnce name draft.partitions readNat t).map ({ draft with partitions := · }))
  | "operations" => some ((Json.readOnce name draft.operations readNat t).map ({ draft with operations := · }))
  | "input_rows" => some ((Json.readOnce name draft.inputRows readNat t).map ({ draft with inputRows := · }))
  | "output_rows" => some ((Json.readOnce name draft.outputRows readNat t).map ({ draft with outputRows := · }))
  | "duration_ms" =>
    some ((Json.readOnce name draft.milliseconds Json.readDecimal t).map ({ draft with milliseconds := · }))
  | "digest" => some ((Json.readOnce name draft.digest Json.readText t).map ({ draft with digest := · }))
  | _ => none

/-- The report of a draft, all of whose fields have to be there. -/
def ofDraft (draft : Draft) : Except Json.Fault Report := do
  let id ← Json.required "run_id" draft.id
  let startedAt ← Json.required "started_at" draft.startedAt
  let pipeline ← Json.required "pipeline" draft.pipeline
  let partitions ← Json.required "partitions" draft.partitions
  let operations ← Json.required "operations" draft.operations
  let inputRows ← Json.required "input_rows" draft.inputRows
  let outputRows ← Json.required "output_rows" draft.outputRows
  let milliseconds ← Json.required "duration_ms" draft.milliseconds
  let digest ← Json.required "digest" draft.digest
  return ⟨⟨id, startedAt, milliseconds⟩, ⟨pipeline, partitions, operations, inputRows, outputRows, digest⟩⟩

/-- Reads a report. -/
def read : Json.Reader Report :=
  Json.readStructure "struct RunReport"
    (fun members => do ofDraft (← Json.readMembers Draft.field {} members))
    (do
      let expected := "struct RunReport with 9 elements"
      let id ← Json.item 0 expected readId
      let startedAt ← Json.item 1 expected readMoment
      let pipeline ← Json.item 2 expected Json.readText
      let partitions ← Json.item 3 expected readNat
      let operations ← Json.item 4 expected readNat
      let inputRows ← Json.item 5 expected readNat
      let outputRows ← Json.item 6 expected readNat
      let milliseconds ← Json.item 7 expected Json.readDecimal
      let digest ← Json.item 8 expected Json.readText
      return ⟨⟨id, startedAt, milliseconds⟩, ⟨pipeline, partitions, operations, inputRows, outputRows, digest⟩⟩)

end Report

end KeyedFlow
