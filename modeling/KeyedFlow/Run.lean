import KeyedFlow.Digest
import KeyedFlow.Disk.Load
import KeyedFlow.Pipeline
import KeyedFlow.Report
import KeyedFlow.Setup

/-!
# Running a program on partitions

A run loads the program of a setup, builds its pipeline, loads the partitions, and writes the result.  The number of
partitions is the one asked for, else the one of the program, else zero; with zero there is nothing to process.  Each
stage begins only when the one before it has succeeded, so no result is written unless all else has gone well.
-/

namespace KeyedFlow

/-- How a run without a failure ends. -/
inductive Outcome where
  | completed (summary : RunSummary)
  | nothingToProcess
  deriving DecidableEq, Repr

/-- The events of a run, and how it ends. -/
structure Run where
  events : List Event
  result : Except Failure Outcome

namespace Run

/-- The run that has nothing to process. -/
def skipped : Run :=
  ⟨[.pipelineSkipped], .ok .nothingToProcess⟩

/-- The run that fails before its pipeline has started. -/
def failed (failure : Failure) : Run :=
  ⟨[], .error failure⟩

/-- Runs a pipeline on the first `count` partitions and writes the result. -/
def ofPipeline (setup : Setup) (count : UInt64) (pipeline : Pipeline) : DiskAction Run := do
  match ← setup.partitions.load count.toNat with
  | .error failure => return failed failure
  | .ok input =>
    let output := pipeline.run input
    let events := pipeline.events input
    match ← Table.save setup.resultPath output with
    | .error failure => return ⟨events, .error failure⟩
    | .ok _ =>
      let summary := RunSummary.start pipeline.name count.toNat pipeline.steps.length
      return ⟨events, .ok (.completed ((summary.withRows input.length output.length).withDigest output.digest))⟩

/-- The blueprint of a program in a setup. -/
def blueprint (setup : Setup) (program : Program) : Blueprint :=
  ⟨setup.programPath, program.operations, setup.rounding⟩

/-- Runs a program on the first `count` partitions. -/
def ofProgram (setup : Setup) (count : UInt64) (program : Program) : DiskAction Run :=
  match (blueprint setup program).build with
  | .error rejection => return ⟨[rejection.event setup.programPath], .error rejection.failure⟩
  | .ok pipeline => ofPipeline setup count pipeline

/-- The number of partitions that a run reads. -/
def partitionCount (asked : Option UInt64) (program : Program) : UInt64 :=
  (asked.or program.partitions).getD 0

/-- Runs the program of a setup on the number of partitions asked for. -/
def perform (setup : Setup) (asked : Option UInt64) : DiskAction Run := do
  if asked = some 0 then return skipped
  match ← loadDocument Program.parse setup.programPath with
  | .error failure => return failed failure
  | .ok program =>
    let count := partitionCount asked program
    if count = 0 then return skipped
    ofProgram setup count program

end Run

end KeyedFlow
