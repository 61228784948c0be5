import KeyedFlow.Proofs.DiskEffects
import KeyedFlow.Run

/-!
# Stages of a run

A run reads its program, resolves it, reads the partitions and writes the result, and may end at each of these stages.
The ends of a run are listed by `Run.Ends`, each with what has succeeded before it, the events, the result and the store
that is left; every run has one of them (`Run.ends_perform`).  Up to the point where all has been read that a run needs
(`Run.Ready`) the store is not touched, and afterwards only the result is written.
-/

namespace KeyedFlow

private theorem Partitions.readsOnly_loadFrom (partitions : Partitions) (index count : Nat) :
    (partitions.loadFrom index count).ReadsOnly := by
  induction count generalizing index with
  | zero => exact .pure _
  | succ count ih =>
    refine (Table.readsOnly_load _ _).bind fun loaded => ?_
    cases loaded with
    | error failure => exact .pure _
    | ok t =>
      refine (ih (index + 1)).bind fun loaded => ?_
      cases loaded <;> exact .pure _

/-- Loading partitions only reads. -/
theorem Partitions.readsOnly_load (partitions : Partitions) (count : Nat) : (partitions.load count).ReadsOnly :=
  partitions.readsOnly_loadFrom 1 count

namespace Run

/-- All that a run needs before it writes its result: a program, for at least one partition, the pipeline of the
program, and the table of the partitions. -/
structure Ready (setup : Setup) (asked : Option UInt64) (store : FileStore) (program : Program) (pipeline : Pipeline)
    (input : Table) : Prop where
  program_eq : ((loadDocument Program.parse setup.programPath).run store).1 = .ok program
  count_ne_zero : partitionCount asked program ≠ 0
  pipeline_eq : (blueprint setup program).build = .ok pipeline
  input_eq : ((setup.partitions.load (partitionCount asked program).toNat).run store).1 = .ok input

/-- The summary of a pipeline's run on the table of `count` partitions. -/
def summary (pipeline : Pipeline) (count : UInt64) (input : Table) : RunSummary :=
  let output := pipeline.run input
  ((RunSummary.start pipeline.name count.toNat pipeline.steps.length).withRows input.length output.length).withDigest
    output.digest

/-- The ends of a run: what it has come to, and the store that it leaves. -/
inductive Ends (setup : Setup) (asked : Option UInt64) (store : FileStore) : Run → FileStore → Prop where
  | nothingAsked (hasked : asked = some 0) : Ends setup asked store skipped store
  | noProgram {failure : Failure} (hasked : asked ≠ some 0)
      (hprogram : ((loadDocument Program.parse setup.programPath).run store).1 = .error failure) :
      Ends setup asked store (failed failure) store
  | noPartitions {program : Program} (hasked : asked ≠ some 0)
      (hprogram : ((loadDocument Program.parse setup.programPath).run store).1 = .ok program)
      (hcount : partitionCount asked program = 0) :
      Ends setup asked store skipped store
  | rejected {program : Program} {rejection : Rejection}
      (hprogram : ((loadDocument Program.parse setup.programPath).run store).1 = .ok program)
      (hcount : partitionCount asked program ≠ 0)
      (hbuild : (blueprint setup program).build = .error rejection) :
      Ends setup asked store ⟨[rejection.event setup.programPath], .error rejection.failure⟩ store
  | noInput {program : Program} {pipeline : Pipeline} {failure : Failure}
      (hprogram : ((loadDocument Program.parse setup.programPath).run store).1 = .ok program)
      (hcount : partitionCount asked program ≠ 0)
      (hbuild : (blueprint setup program).build = .ok pipeline)
      (hinput : ((setup.partitions.load (partitionCount asked program).toNat).run store).1 = .error failure) :
      Ends setup asked store (failed failure) store
  | unwritten {program : Program} {pipeline : Pipeline} {input : Table} {after : FileStore}
      (ready : Ready setup asked store program pipeline input)
      (hsave : (Table.save setup.resultPath (pipeline.run input)).run store = (.error .storage, after))
      (hafter : store.AddsDirectories after (FileStore.parentLocations setup.resultPath)) :
      Ends setup asked store ⟨pipeline.events input, .error .storage⟩ after
  | written {program : Program} {pipeline : Pipeline} {input : Table} {after : FileStore} {location : Location}
      (ready : Ready setup asked store program pipeline input)
      (hafter : store.PutsFile after setup.resultPath (RecordFile.encode (pipeline.run input)).toUTF8 location) :
      Ends setup asked store
        ⟨pipeline.events input, .ok (.completed (summary pipeline (partitionCount asked program) input))⟩ after

variable {setup : Setup} {asked : Option UInt64} {store : FileStore}

/-- What a run needs is determined by the store. -/
theorem Ready.unique {program program' : Program} {pipeline pipeline' : Pipeline} {input input' : Table}
    (h : Ready setup asked store program pipeline input) (h' : Ready setup asked store program' pipeline' input') :
    program = program' ∧ pipeline = pipeline' ∧ input = input' := by
  obtain rfl : program = program' := Except.ok.inj (h.program_eq.symm.trans h'.program_eq)
  have hpipeline : pipeline = pipeline' := Except.ok.inj (h.pipeline_eq.symm.trans h'.pipeline_eq)
  have hinput : input = input' := Except.ok.inj (h.input_eq.symm.trans h'.input_eq)
  exact ⟨rfl, hpipeline, hinput⟩

/-- A pipeline whose input can be read is run, and its result is saved. -/
private theorem run_ofPipeline {count : UInt64} {pipeline : Pipeline} {input : Table}
    (hinput : ((setup.partitions.load count.toNat).run store).1 = .ok input) :
    (ofPipeline setup count pipeline).run store =
      let saved := (Table.save setup.resultPath (pipeline.run input)).run store
      (⟨pipeline.events input, saved.1.map fun _ => .completed (summary pipeline count input)⟩, saved.2) := by
  unfold ofPipeline
  rw [DiskAction.run_bind, (setup.partitions.readsOnly_load _).run_eq store, hinput]
  dsimp only
  rw [DiskAction.run_bind]
  cases ((Table.save setup.resultPath (pipeline.run input)).run store).1 <;> rfl

/-- A run with all that it needs saves the result of its pipeline. -/
theorem Ready.run_perform {program : Program} {pipeline : Pipeline} {input : Table}
    (ready : Ready setup asked store program pipeline input) :
    (perform setup asked).run store =
      let saved := (Table.save setup.resultPath (pipeline.run input)).run store
      (⟨pipeline.events input,
        saved.1.map fun _ => .completed (summary pipeline (partitionCount asked program) input)⟩, saved.2) := by
  have hasked : asked ≠ some 0 := by
    rintro rfl
    exact ready.count_ne_zero rfl
  unfold perform
  rw [if_neg hasked, DiskAction.run_bind, (readsOnly_loadDocument _ _).run_eq store, ready.program_eq]
  dsimp only
  rw [if_neg ready.count_ne_zero, ofProgram, ready.pipeline_eq]
  exact run_ofPipeline ready.input_eq

private theorem Ready.ends_perform {program : Program} {pipeline : Pipeline} {input : Table}
    (ready : Ready setup asked store program pipeline input) :
    Ends setup asked store ((perform setup asked).run store).1 ((perform setup asked).run store).2 := by
  rw [ready.run_perform]
  rcases Table.run_save setup.resultPath (pipeline.run input) store with
    ⟨after, hrun, hafter⟩ | ⟨after, location, hrun, hafter⟩
  · rw [hrun]
    exact .unwritten ready hrun hafter
  · rw [hrun]
    exact .written ready hafter

/-- Every run ends at one of its stages. -/
theorem ends_perform (setup : Setup) (asked : Option UInt64) (store : FileStore) :
    Ends setup asked store ((perform setup asked).run store).1 ((perform setup asked).run store).2 := by
  -- a run that has all it needs has been followed to its end; any other ends where something is missing
  by_cases hready : ∃ program pipeline input, Ready setup asked store program pipeline input
  · obtain ⟨program, pipeline, input, ready⟩ := hready
    exact ready.ends_perform
  unfold perform
  split
  · rename_i hasked
    exact .nothingAsked hasked
  rename_i hasked
  rw [DiskAction.run_bind, (readsOnly_loadDocument _ _).run_eq store]
  cases hprogram : ((loadDocument Program.parse setup.programPath).run store).1 with
  | error failure => exact .noProgram hasked hprogram
  | ok program =>
    dsimp only
    split
    · rename_i hcount
      exact .noPartitions hasked hprogram hcount
    rename_i hcount
    unfold ofProgram
    cases hbuild : (blueprint setup program).build with
    | error rejection => exact .rejected hprogram hcount hbuild
    | ok pipeline =>
      dsimp only
      unfold ofPipeline
      rw [DiskAction.run_bind, (setup.partitions.readsOnly_load _).run_eq store]
      cases hinput : ((setup.partitions.load (partitionCount asked program).toNat).run store).1 with
      | error failure => exact .noInput hprogram hcount hbuild hinput
      | ok input => exact absurd ⟨program, pipeline, input, hprogram, hcount, hbuild, hinput⟩ hready

end Run

end KeyedFlow
