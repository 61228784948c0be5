import KeyedFlow.Proofs.HeaderLine
import KeyedFlow.Proofs.KeyCounts
import KeyedFlow.Proofs.Resolution
import KeyedFlow.Proofs.SessionInvariant
import KeyedFlow.Proofs.ValidationInputs

/-!
# From generation to validation

What a session generates is what the next run reads, and what the run writes is what validation reads.  With a program
that counts, the run finds all it needs (`Generation.ready_of_perform`), its result is known beforehand, and validation
confirms every expected file that has these rows (`Workspace.apply_validate_generated`).
-/

namespace KeyedFlow

/-- The program that counts the rows of every key. -/
def Program.counting (partitions : Option UInt64) : Program :=
  ⟨partitions, [⟨"REDUCE", "COUNT"⟩]⟩

/-- Behind a generation, a program that counts has all that it needs, unless it was in the place of a partition. -/
theorem Generation.ready_of_perform {generation : Generation} {draws : Draws} {setup : Setup} {store : FileStore}
    {partitions : Option UInt64} (hkeys : 1 ≤ generation.keys) (hrows : 1 ≤ generation.rowsPerKey)
    (hprogram : ((loadDocument Program.parse setup.programPath).run store).1 = .ok (.counting partitions))
    (hmeet : ∀ index, 1 ≤ index → index ≤ generation.keys.toNat →
      ¬Path.Meet setup.programPath (setup.partitions.path index)) {count : UInt64}
    (hperform : ((generation.perform draws setup.partitions).run store).1 = .ok count) :
    ∃ pipeline input, Run.Ready setup (some generation.keys) ((generation.perform draws setup.partitions).run store).2
        (.counting partitions) pipeline input ∧
      input.length = generation.keys.toNat * generation.rowsPerKey.toNat ∧ pipeline.run input = generation.counts := by
  have hwrites := writes_of_perform hperform
  obtain ⟨location, content, hresolve⟩ := exists_resolve_of_loadDocument hprogram
  have hafter : ((generation.perform draws setup.partitions).run store).2.resolve setup.programPath =
      .file location content := resolve_perform hresolve hmeet
  have hsame : ((generation.perform draws setup.partitions).run store).2.openFile setup.programPath =
      store.openFile setup.programPath :=
    (FileStore.openFile_of_resolve hafter).trans (FileStore.openFile_of_resolve hresolve).symm
  have hstages : Operation.Resolve setup.rounding (Program.counting partitions).operations [.reduce .count] :=
    .cons rfl .nil
  obtain ⟨pipeline, hbuild, hpipeline⟩ := Blueprint.exists_build_of_resolve hstages setup.programPath
  refine ⟨pipeline, (List.range' 1 generation.keys.toNat).flatMap (generation.table draws),
    ⟨?_, ?_, hbuild, ?_⟩, ?_, ?_⟩
  · rw [loadDocument_congr Program.parse hsame, hprogram]
  · intro hzero
    have hzero : generation.keys = 0 := hzero
    rw [hzero] at hkeys
    exact absurd hkeys (by decide)
  · exact congrArg Prod.fst hwrites.run_load
  · rw [length_flatMap_table, List.length_range']
  · rw [Pipeline.run_eq_applyAll, hpipeline]
    exact apply_count draws hrows

namespace Workspace

private theorem apply_of_ready {w : Workspace} {partitions : Option UInt64} {program : Program} {pipeline : Pipeline}
    {input : Table}
    (ready : Run.Ready w.session.setup (w.session.partitionsAsked partitions) w.store program pipeline input)
    (hsave : ((Table.save w.session.setup.resultPath (pipeline.run input)).run w.store).1 = .ok ()) :
    (w.answer (.apply partitions)).reply = .ok (.applied (.completed
      (Run.summary pipeline (Run.partitionCount (w.session.partitionsAsked partitions) program) input))) ∧
    ∃ location, (w.take (.apply partitions)).store.resolve w.session.setup.resultPath =
      .file location (RecordFile.encode (pipeline.run input)).toUTF8 := by
  constructor
  · rw [answer_apply, ready.run_perform]
    dsimp only
    rw [hsave]
    rfl
  · rw [store_take_apply, ready.run_perform]
    dsimp only
    rcases Table.run_save w.session.setup.resultPath (pipeline.run input) w.store with
      ⟨after, hrun, -⟩ | ⟨after, location, hrun, hafter⟩
    · rw [hrun] at hsave
      cases hsave
    · rw [hrun]
      exact ⟨location, hafter.resolve_eq⟩

private theorem perform_of_answer_generate {w : Workspace} {generation : Generation} {draws : Draws}
    (h : (w.answer (.generate generation draws)).reply.isOk) :
    ∃ count, ((generation.perform draws w.session.setup.partitions).run w.store).1 = .ok count := by
  rw [answer_generate] at h
  cases hperform : ((generation.perform draws w.session.setup.partitions).run w.store).1 with
  | error failure =>
    rw [hperform] at h
    cases h
  | ok count => exact ⟨count, rfl⟩

/-- Behind a generation, a run without a number asked for is on the partitions generated. -/
private theorem partitionsAsked_take_generate {w : Workspace} {generation : Generation} {draws : Draws}
    (h : (w.answer (.generate generation draws)).reply.isOk) :
    (w.take (.generate generation draws)).session.partitionsAsked none = some generation.keys := by
  show (w.take (.generate generation draws)).session.lastGenerated = _
  rw [lastGenerated_take]
  unfold generatedCount
  dsimp only
  rw [if_pos h]
  rfl

private theorem validate_of_openFile {w : Workspace} {generated expected : Table} {text : List Char}
    (hresult : w.store.openFile w.session.setup.resultPath = .file (RecordFile.encode generated).toUTF8)
    (hexpected : w.store.openFile w.session.setup.expectedPath = .file (String.ofList text).toUTF8)
    (htext : RecordFile.HeadedText expected text) (hperm : expected.Perm generated) :
    (w.answer .validate).reply = .ok (.validated .correct) := by
  have hgenerated : ((Table.load w.session.setup.resultPath .optional).run w.store).1 = .ok generated := by
    rw [Table.run_load hresult, RecordFile.decode_encode]
  have hloaded : ((Table.load w.session.setup.expectedPath .optional).run w.store).1 = .ok expected := by
    rw [Table.run_load hexpected, RecordFile.decode_of_headedText htext]
  rw [answer_validate, Validation.run_perform hgenerated hloaded, Validation.compare_eq_correct_iff.2 hperm.symm]
  rfl

/-- Let partitions be generated and then counted by a run, whose program is not in the place of one of them and whose
result can be written.  The run reads all generated rows and writes for every key, in order, the number of its rows; up
to the largest key this is the number of rows asked for.  From then on, validation is correct as long as the result is
there and the expected file has these rows, in any order and with or without a line of names before them. -/
theorem apply_validate_generated (w : Workspace) (generation : Generation) (draws : Draws) (partitions : Option UInt64)
    (hkeys : 1 ≤ generation.keys) (hrows : 1 ≤ generation.rowsPerKey) (hlarge : generation.rowsPerKey.toNat < 2 ^ 63)
    (hprogram : ((loadDocument Program.parse w.session.setup.programPath).run w.store).1 = .ok (.counting partitions))
    (hmeet : ∀ index, 1 ≤ index → index ≤ generation.keys.toNat →
      ¬Path.Meet w.session.setup.programPath (w.session.setup.partitions.path index))
    (hgenerate : (w.answer (.generate generation draws)).reply.isOk)
    (hsave : ((Table.save w.session.setup.resultPath generation.counts).run
      (w.take (.generate generation draws)).store).1 = .ok ()) :
    let generated := w.take (.generate generation draws)
    let applied := generated.take (.apply none)
    (∃ summary, (generated.answer (.apply none)).reply = .ok (.applied (.completed summary)) ∧
      summary.partitions = generation.keys.toNat ∧
      summary.inputRows = generation.keys.toNat * generation.rowsPerKey.toNat ∧
      summary.outputRows = min generation.keys.toNat 0x7FFFFFFFFFFFFFFF) ∧
    (∃ location, applied.store.resolve w.session.setup.resultPath =
      .file location (RecordFile.encode generation.counts).toUTF8) ∧
    (generation.keys.toNat < 2 ^ 63 →
      generation.counts = (List.range' 1 generation.keys.toNat).map fun index =>
        ⟨Int64.ofNat index, Int64.ofNat generation.rowsPerKey.toNat⟩) ∧
    ∀ (later : Workspace) (t : Table) (text : List Char), later.session = applied.session →
      later.store.openFile w.session.setup.resultPath = applied.store.openFile w.session.setup.resultPath →
      later.store.openFile w.session.setup.expectedPath = .file (String.ofList text).toUTF8 →
      RecordFile.HeadedText t text → t.Perm generation.counts →
      (later.answer .validate).reply = .ok (.validated .correct) := by
  intro generated applied
  obtain ⟨count, hperform⟩ := perform_of_answer_generate hgenerate
  have hsetup : generated.session.setup = w.session.setup := w.setup_take _
  have hasked : generated.session.partitionsAsked none = some generation.keys := partitionsAsked_take_generate hgenerate
  obtain ⟨pipeline, input, ready, hinput, houtput⟩ :=
    generation.ready_of_perform hkeys hrows hprogram hmeet hperform
  rw [← store_take_generate] at ready
  have ready : Run.Ready generated.session.setup (generated.session.partitionsAsked none) generated.store
      (.counting partitions) pipeline input := by
    rwa [hsetup, hasked]
  obtain ⟨hreply, location, hresolve⟩ := apply_of_ready ready (by rwa [hsetup, houtput])
  rw [hsetup, houtput] at hresolve
  rw [hasked] at hreply
  have hlength : (pipeline.run input).length = min generation.keys.toNat 0x7FFFFFFFFFFFFFFF := by
    rw [houtput, Generation.length_counts]
  refine ⟨⟨_, hreply, rfl, hinput, hlength⟩, ⟨location, hresolve⟩, fun hkeys => Generation.counts_eq hkeys hlarge,
    fun later t text hsession hresult hexpected htext hperm => ?_⟩
  have hlater : later.session.setup = w.session.setup := by
    rw [hsession]
    exact (generated.setup_take _).trans hsetup
  rw [FileStore.openFile_of_resolve hresolve] at hresult
  rw [← hlater] at hresult hexpected
  exact validate_of_openFile hresult hexpected htext hperm

/-- Two partitions of three rows each, a program that asks for seven, and an expected table in another order. -/
theorem apply_validate_generated_two :
    let setup : Setup := ⟨"key", "program.json", "result.csv", "expected.csv", .towardZero⟩
    let store : FileStore := ⟨fun location =>
      if location = ["home"] then some .directory
      else if location = ["home", "program.json"] then some (.file "[7, [[\"REDUCE\", \"COUNT\"]]]".toUTF8)
      else if location = ["home", "expected.csv"] then some (.file "key,value\n2,3\n1,3\n".toUTF8) else none⟩
    let generation : Generation := ⟨2, 3, 5⟩
    let draws : Draws := fun n => UInt64.ofNat n
    let w : Workspace := ⟨.start setup, store, []⟩
    let generated := w.take (.generate generation draws)
    let applied := generated.take (.apply none)
    (∃ summary, (generated.answer (.apply none)).reply = .ok (.applied (.completed summary)) ∧
      summary.partitions = 2 ∧ summary.inputRows = 6 ∧ summary.outputRows = 2) ∧
    (∃ location, applied.store.resolve "result.csv" = .file location "1,3\n2,3\n".toUTF8) ∧
    (applied.answer .validate).reply = .ok (.validated .correct) := by
  intro setup store generation draws w generated applied
  let text := RecordFile.headerLine ++ ['\n'] ++ List.flatMap RecordFile.recordChars [⟨2, 3⟩, ⟨1, 3⟩]
  have hcounts : generation.counts = [⟨1, 3⟩, ⟨2, 3⟩] := by
    rw [Generation.counts_eq (by decide) (by decide)]
    rfl
  have hprogram : ((loadDocument Program.parse setup.programPath).run store).1 = .ok (.counting (some 7)) := by
    have hopen : store.openFile "program.json" = .file "[7, [[\"REDUCE\", \"COUNT\"]]]".toUTF8 := by rfl
    rw [run_loadDocument _ hopen]
    show Program.parse "program.json" "[7, [[\"REDUCE\", \"COUNT\"]]]" = _
    decide +kernel
  have hmeet : ∀ path, path = "program.json" ∨ path = "expected.csv" →
      ∀ index, 1 ≤ index → index ≤ generation.keys.toNat → ¬Path.Meet path (setup.partitions.path index) := by
    rintro path hpath index hlo hhi
    have hhi : index ≤ 2 := hhi
    obtain rfl | rfl : index = 1 ∨ index = 2 := by omega
    all_goals
      apply Path.not_meet_of_location_ne
      rcases hpath with rfl | rfl <;> decide +kernel
  have hsave : ((Table.save setup.resultPath generation.counts).run generated.store).1 = .ok () := by
    rw [hcounts]
    decide +kernel
  obtain ⟨hsummary, hresult, -, hvalidate⟩ :=
    apply_validate_generated w generation draws (some 7) (by decide) (by decide) (by decide) hprogram
      (hmeet _ (Or.inl rfl)) (by decide +kernel) hsave
  rw [hcounts] at hresult hvalidate
  rw [show RecordFile.encode [⟨1, 3⟩, ⟨2, 3⟩] = "1,3\n2,3\n" by rfl] at hresult
  refine ⟨hsummary, hresult, ?_⟩
  have hexpected : applied.store.openFile "expected.csv" = .file (String.ofList text).toUTF8 := by
    -- the expected file is there from the beginning, and nothing is written over it
    have hresolve : store.resolve "expected.csv" = .file ["home", "expected.csv"] (String.ofList text).toUTF8 := by rfl
    have hgenerated : generated.store.resolve "expected.csv" =
        .file ["home", "expected.csv"] (String.ofList text).toUTF8 := by
      rw [store_take_generate]
      exact Generation.resolve_perform hresolve (hmeet _ (Or.inr rfl))
    have happlied : applied.store.resolve "expected.csv" =
        .file ["home", "expected.csv"] (String.ofList text).toUTF8 := by
      rw [store_take_apply]
      exact Run.resolve_perform hgenerated (Path.not_meet_of_location_ne (by decide +kernel))
    exact FileStore.openFile_of_resolve happlied
  exact hvalidate applied [⟨2, 3⟩, ⟨1, 3⟩] text rfl rfl hexpected
    (.headed .lineFeed (RecordFile.rowsText_recordChars _)) (.swap _ _ _)

end Workspace

end KeyedFlow
