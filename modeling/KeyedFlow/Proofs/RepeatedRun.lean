import KeyedFlow.Proofs.PartitionReads
import KeyedFlow.Proofs.RecordRoundTrip
import KeyedFlow.Proofs.ResultFile
import KeyedFlow.Proofs.RowWise

/-!
# Running again

The summary of a run describes the file that the run leaves.  When the result is not written over something that the run
reads, the next run meets the same program and the same partitions (`Run.Ready.of_perform`), and the file that it writes
is there already; so it comes to the same end and leaves the store as it is (`Run.perform_again`).
-/

namespace KeyedFlow

private theorem Pipeline.length_run_le (pipeline : Pipeline) (t : Table) : (pipeline.run t).length ≤ t.length := by
  rw [Pipeline.run_eq_applyAll]
  exact Stage.length_applyAll_le pipeline.stages t

namespace Run

variable {setup : Setup} {asked : Option UInt64} {store other : FileStore} {program : Program} {pipeline : Pipeline}
  {input : Table}

/-- Where the same program and partitions are found, a run has all that it needs. -/
private theorem Ready.of_openFile (ready : Ready setup asked store program pipeline input)
    (hprogram : other.openFile setup.programPath = store.openFile setup.programPath)
    (hpartitions : ∀ i, 1 ≤ i → i ≤ (partitionCount asked program).toNat →
      other.openFile (setup.partitions.path i) = store.openFile (setup.partitions.path i)) :
    Ready setup asked other program pipeline input where
  program_eq := (loadDocument_congr Program.parse hprogram).trans ready.program_eq
  count_ne_zero := ready.count_ne_zero
  pipeline_eq := ready.pipeline_eq
  input_eq := by
    obtain ⟨tables, rfl, htables⟩ := Partitions.load_eq_ok_iff.1 ready.input_eq
    refine Partitions.load_eq_ok_iff.2 ⟨tables, rfl, fun i hlo hhi => ?_⟩
    rw [Partitions.read_congr (hpartitions i hlo hhi)]
    exact htables i hlo hhi

/-- A run that does not write over its program or partitions leaves all that it needs. -/
theorem Ready.of_perform (ready : Ready setup asked store program pipeline input)
    (hprogram : ¬Path.Meet setup.resultPath setup.programPath)
    (hpartitions : ∀ i, 1 ≤ i → i ≤ (partitionCount asked program).toNat →
      ¬Path.Meet setup.resultPath (setup.partitions.path i)) :
    Ready setup asked ((perform setup asked).run store).2 program pipeline input := by
  have hkept : ∀ {path location content}, store.resolve path = .file location content →
      ¬Path.Meet setup.resultPath path →
      ((perform setup asked).run store).2.openFile path = store.openFile path := by
    intro path location content hresolve hmeet
    rw [FileStore.openFile_of_resolve hresolve]
    exact FileStore.openFile_of_resolve (resolve_perform hresolve hmeet)
  obtain ⟨tables, -, htables⟩ := Partitions.load_eq_ok_iff.1 ready.input_eq
  refine ready.of_openFile ?_ fun i hlo hhi => ?_
  · obtain ⟨location, content, hresolve⟩ := exists_resolve_of_loadDocument ready.program_eq
    exact hkept hresolve hprogram
  · obtain ⟨location, content, hresolve⟩ := Table.exists_resolve_of_load (htables i hlo hhi)
    exact hkept hresolve (hpartitions i hlo hhi)

/-- Let a run complete whose result is in the place neither of the program nor of a partition that is read.  Then the
file of the result is loaded as a table with the number of rows and the digest of the summary; the summary counts the
rows of the partitions as the input, and the output has no more rows.  Running again comes to the same end, summary and
events included, and leaves the store as it is. -/
theorem perform_again (setup : Setup) (asked : Option UInt64) (store : FileStore) (summary : RunSummary)
    (hresult : ((perform setup asked).run store).1.result = .ok (.completed summary))
    (hprogram : ¬Path.Meet setup.resultPath setup.programPath)
    (hpartitions : ∀ i, 1 ≤ i → i ≤ summary.partitions → ¬Path.Meet setup.resultPath (setup.partitions.path i)) :
    let after := ((perform setup asked).run store).2
    (∃ t, (∀ header, (Table.load setup.resultPath header).run after = (.ok t, after)) ∧
      t.length = summary.outputRows ∧ t.digest = summary.digest) ∧
    (∃ tables : Nat → Table,
      (∀ i, 1 ≤ i → i ≤ summary.partitions → ((setup.partitions.read i).run store).1 = .ok (tables i)) ∧
      summary.inputRows = ((List.range' 1 summary.partitions).map fun i => (tables i).length).sum) ∧
    summary.outputRows ≤ summary.inputRows ∧
    (perform setup asked).run after = (((perform setup asked).run store).1, after) := by
  intro after
  obtain ⟨program, pipeline, input, location, ready, rfl, hafter⟩ :=
    (ends_perform setup asked store).putsFile_of_completed hresult
  have hload : ∀ header, (Table.load setup.resultPath header).run after = (.ok (pipeline.run input), after) := by
    intro header
    rw [Table.run_load (FileStore.openFile_of_resolve hafter.resolve_eq), RecordFile.decode_encode]
  have hinput : ∃ tables : Nat → Table,
      (∀ i, 1 ≤ i → i ≤ (partitionCount asked program).toNat →
        ((setup.partitions.read i).run store).1 = .ok (tables i)) ∧
      input.length = ((List.range' 1 (partitionCount asked program).toNat).map fun i => (tables i).length).sum := by
    obtain ⟨tables, rfl, htables⟩ := Partitions.load_eq_ok_iff.1 ready.input_eq
    exact ⟨tables, htables, List.length_flatMap⟩
  have hagain : (perform setup asked).run after = (((perform setup asked).run store).1, after) := by
    have ready' : Ready setup asked after program pipeline input := ready.of_perform hprogram hpartitions
    have hsame : (Table.save setup.resultPath (pipeline.run input)).run after = (.ok (), after) :=
      Table.run_save_of_resolve hafter.resolve_eq
    have hfirst : ((perform setup asked).run store).1 =
        ⟨pipeline.events input, .ok (.completed (summary pipeline (partitionCount asked program) input))⟩ := by
      rw [← hresult, ready.run_perform]
    rw [ready'.run_perform, hsame, hfirst]
    rfl
  exact ⟨⟨pipeline.run input, hload, rfl, rfl⟩, hinput, pipeline.length_run_le input, hagain⟩

/-- A run that keeps one of two rows and is made again over its own result. -/
theorem perform_again_filter :
    let program := "\x7b\"operations\": [\x7b\"operator\": \"FILTER\", \"function\": \"IS_EVEN\"\x7d]\x7d"
    let setup : Setup := ⟨"key", "program.json", "result.csv", "expected.csv", .towardZero⟩
    let store : FileStore := ⟨fun location =>
      if location = ["home"] then some .directory
      else if location = ["home", "program.json"] then some (.file program.toUTF8)
      else if location = ["home", "key1.csv"] then some (.file "1,4\n1,7\n".toUTF8)
      else if location = ["home", "result.csv"] then some (.file "an older result".toUTF8) else none⟩
    let after := ((perform setup (some 1)).run store).2
    ∃ summary, ((perform setup (some 1)).run store).1.result = .ok (.completed summary) ∧
      ¬Path.Meet setup.resultPath setup.programPath ∧
      (∀ i, 1 ≤ i → i ≤ summary.partitions → ¬Path.Meet setup.resultPath (setup.partitions.path i)) ∧
      summary.inputRows = 2 ∧ summary.outputRows = 1 ∧
      (perform setup (some 1)).run after = (((perform setup (some 1)).run store).1, after) := by
  intro program setup store after
  let pipeline : Pipeline := ⟨"program.json", [⟨1, ⟨"FILTER", "IS_EVEN"⟩, .filter .isEven⟩]⟩
  have ready : Ready setup (some 1) store ⟨none, [⟨"FILTER", "IS_EVEN"⟩]⟩ pipeline [⟨1, 4⟩, ⟨1, 7⟩] := by
    have hprogram : store.openFile "program.json" = .file program.toUTF8 := by rfl
    have hkey : store.openFile "key1.csv" = .file "1,4\n1,7\n".toUTF8 := by rfl
    have hpath : setup.partitions.path 1 = "key1.csv" := by rfl
    refine ⟨?_, by decide, by rfl, Partitions.load_eq_ok_iff.2 ⟨fun _ => [⟨1, 4⟩, ⟨1, 7⟩], rfl, fun i hlo hhi => ?_⟩⟩
    · rw [run_loadDocument _ hprogram]
      show Program.parse "program.json" program = _
      cbv
    · obtain rfl : i = 1 := Nat.le_antisymm hhi hlo
      unfold Partitions.read
      rw [hpath, Table.run_load hkey]
      rfl
  have hresult : ((perform setup (some 1)).run store).1.result =
      .ok (.completed (summary pipeline 1 [⟨1, 4⟩, ⟨1, 7⟩])) := by
    have hsaved : ((Table.save setup.resultPath [⟨1, 4⟩]).run store).1 = .ok () :=
      show ((Table.save "result.csv" [⟨1, 4⟩]).run store).1 = .ok () by rfl
    rw [ready.run_perform, show pipeline.run [⟨1, 4⟩, ⟨1, 7⟩] = [⟨1, 4⟩] by rfl]
    dsimp only
    rw [hsaved]
    rfl
  have hprogram : ¬Path.Meet setup.resultPath setup.programPath := Path.not_meet_of_location_ne (by decide +kernel)
  have hpartitions : ∀ i, 1 ≤ i → i ≤ 1 → ¬Path.Meet setup.resultPath (setup.partitions.path i) := by
    intro i hlo hhi
    obtain rfl : i = 1 := Nat.le_antisymm hhi hlo
    exact Path.not_meet_of_location_ne (by decide +kernel)
  obtain ⟨-, -, -, hagain⟩ := perform_again setup (some 1) store _ hresult hprogram hpartitions
  exact ⟨_, hresult, hprogram, hpartitions, rfl, rfl, hagain⟩

end Run

end KeyedFlow
