import KeyedFlow.Proofs.RunStages
import KeyedFlow.Proofs.StandingFiles
import Mathlib

/-!
# The files that a run leaves

Only a run that completes changes a file, and then only that of its result (`Run.perform_content?`).  A run that has
nothing to process, or fails before it writes, leaves the store as it is, and one that fails when it writes has at most
made directories for its result.
-/

namespace KeyedFlow

namespace Run

variable {setup : Setup} {asked : Option UInt64} {store after : FileStore} {run : Run}

namespace Ends

/-- A run that does not get to its result does not touch the store. -/
private theorem store_eq_of_not_ready (h : Ends setup asked store run after)
    (hready : ¬∃ program pipeline input, Ready setup asked store program pipeline input) : after = store := by
  cases h with
  | nothingAsked | noProgram | noPartitions | rejected | noInput => rfl
  | unwritten ready | written ready => exact absurd ⟨_, _, _, ready⟩ hready

private theorem store_eq_of_nothingToProcess (h : Ends setup asked store run after)
    (hresult : run.result = .ok .nothingToProcess) : after = store := by
  cases h with
  | nothingAsked | noPartitions => rfl
  | noProgram | rejected | noInput | unwritten | written => cases hresult

/-- A run that fails makes nothing but directories. -/
private theorem addsDirectories_of_error {failure : Failure} (h : Ends setup asked store run after)
    (hresult : run.result = .error failure) :
    store.AddsDirectories after (FileStore.parentLocations setup.resultPath) := by
  cases h with
  | noProgram | rejected | noInput => exact .refl store _
  | unwritten _ _ hafter => exact hafter
  | nothingAsked | noPartitions | written => cases hresult

/-- A run that completes has put its result where it belongs. -/
theorem putsFile_of_completed {summary : RunSummary} (h : Ends setup asked store run after)
    (hresult : run.result = .ok (.completed summary)) :
    ∃ program pipeline input location, Ready setup asked store program pipeline input ∧
      summary = Run.summary pipeline (partitionCount asked program) input ∧
      store.PutsFile after setup.resultPath (RecordFile.encode (pipeline.run input)).toUTF8 location := by
  cases h with
  | written ready hafter =>
    cases hresult
    exact ⟨_, _, _, _, ready, rfl, hafter⟩
  | nothingAsked | noProgram | noPartitions | rejected | noInput | unwritten => cases hresult

end Ends

/-- A run leaves a file alone that is not in the place of its result. -/
theorem resolve_perform {path : String} {location : Location} {content : ByteArray}
    (h : store.resolve path = .file location content) (hmeet : ¬Path.Meet setup.resultPath path) :
    ((perform setup asked).run store).2.resolve path = .file location content := by
  by_cases hready : ∃ program pipeline input, Ready setup asked store program pipeline input
  · obtain ⟨program, pipeline, input, ready⟩ := hready
    rw [ready.run_perform]
    exact Table.resolve_of_save h hmeet
  · rwa [(ends_perform setup asked store).store_eq_of_not_ready hready]

end Run

/-- A run without anything to process, or with a failure before the result is written, leaves the store as it is.  With
a failure in writing the result, every file keeps its content, and at most directories are made on the way to the
result.  A run that completes has put the table of its pipeline on the partitions it was asked for in the place of the
result, and every other file keeps its content. -/
theorem Run.perform_content? (setup : Setup) (asked : Option UInt64) (store : FileStore) :
    let run := ((perform setup asked).run store).1
    let after := ((perform setup asked).run store).2
    (run.result = .ok .nothingToProcess → after = store) ∧
    (∀ failure, run.result = .error failure →
      ((¬∃ program pipeline input, Ready setup asked store program pipeline input) → after = store) ∧
      (∀ location, after.content? location = store.content? location) ∧
      store.AddsDirectories after (FileStore.parentLocations setup.resultPath)) ∧
    ∀ summary, run.result = .ok (.completed summary) →
      ∃ program pipeline input location, Ready setup asked store program pipeline input ∧
        summary.partitions = (partitionCount asked program).toNat ∧
        after.resolve setup.resultPath = .file location (RecordFile.encode (pipeline.run input)).toUTF8 ∧
        ∀ other, other ≠ location → after.content? other = store.content? other := by
  intro run after
  have hends : Ends setup asked store run after := ends_perform setup asked store
  refine ⟨hends.store_eq_of_nothingToProcess, fun failure hresult => ?_, fun summary hresult => ?_⟩
  · have hadds := hends.addsDirectories_of_error hresult
    exact ⟨hends.store_eq_of_not_ready, fun location => (hadds location).content?_eq, hadds⟩
  · obtain ⟨program, pipeline, input, location, ready, rfl, hafter⟩ := hends.putsFile_of_completed hresult
    exact ⟨program, pipeline, input, location, ready, rfl, hafter.resolve_eq,
      fun other hother => (hafter.others other hother).content?_eq⟩

/-- The result of a run that sums up two rows, in a directory that has to be made. -/
theorem Run.perform_content?_sum :
    let program := "\x7b\"operations\": [\x7b\"operator\": \"REDUCE\", \"function\": \"SUM\"\x7d]\x7d"
    let setup : Setup := ⟨"key", "program.json", "out/result.csv", "expected.csv", .towardZero⟩
    let store : FileStore := ⟨fun location =>
      if location = ["home"] then some .directory
      else if location = ["home", "program.json"] then some (.file program.toUTF8)
      else if location = ["home", "key1.csv"] then some (.file "1,2\n1,3\n".toUTF8) else none⟩
    let run := ((perform setup (some 1)).run store).1
    let after := ((perform setup (some 1)).run store).2
    (∃ summary, run.result = .ok (.completed summary)) ∧
      ∃ location, after.resolve setup.resultPath = .file location "1,5\n".toUTF8 ∧
        ∀ other, other ≠ location → after.content? other = store.content? other := by
  intro program setup store run after
  let pipeline : Pipeline := ⟨"program.json", [⟨1, ⟨"REDUCE", "SUM"⟩, .reduce .sum⟩]⟩
  have ready : Ready setup (some 1) store ⟨none, [⟨"REDUCE", "SUM"⟩]⟩ pipeline [⟨1, 2⟩, ⟨1, 3⟩] := by
    have hprogram : store.openFile "program.json" = .file program.toUTF8 := by rfl
    have hkey : store.openFile "key1.csv" = .file "1,2\n1,3\n".toUTF8 := by rfl
    have hpath : setup.partitions.path 1 = "key1.csv" := by rfl
    refine ⟨?_, by decide, by rfl, ?_⟩
    · rw [run_loadDocument _ hprogram]
      show Program.parse "program.json" program = _
      cbv
    · show ((setup.partitions.loadFrom 1 1).run store).1 = _
      unfold Partitions.loadFrom Partitions.read
      rw [DiskAction.run_bind, hpath, Table.run_load hkey]
      rfl
  have hrun : pipeline.run [⟨1, 2⟩, ⟨1, 3⟩] = [⟨1, 5⟩] := by
    unfold pipeline
    cbv
  have hencode : RecordFile.encode [⟨1, 5⟩] = "1,5\n" := by rfl
  have hsaved : ((Table.save setup.resultPath [⟨1, 5⟩]).run store).1 = .ok () :=
    show ((Table.save "out/result.csv" [⟨1, 5⟩]).run store).1 = .ok () by rfl
  have hresult : run.result = .ok (.completed (summary pipeline 1 [⟨1, 2⟩, ⟨1, 3⟩])) := by
    unfold run
    rw [ready.run_perform, hrun]
    dsimp only
    rw [hsaved]
    rfl
  obtain ⟨-, -, hcompleted⟩ := perform_content? setup (some 1) store
  obtain ⟨_, _, _, location, ready', -, hresolve, hothers⟩ := hcompleted _ hresult
  obtain ⟨rfl, rfl, rfl⟩ := ready.unique ready'
  rw [hrun, hencode] at hresolve
  exact ⟨⟨_, hresult⟩, location, hresolve, hothers⟩

end KeyedFlow
