import KeyedFlow.Proofs.PartitionReads
import KeyedFlow.Proofs.RunStages
import KeyedFlow.Proofs.Resolution

/-!
# The first fault decides

Where a run stops before it writes is listed by `Run.Stop`, together with the paths that have been opened by then.  What
is at other paths makes no difference: the run stops there in the same way on every store that agrees at these paths
(`Run.Stop.of_openFile`).  A run that does not stop has all that it needs to write its result, and only then can writing
it be what fails (`Run.perform_stop`).
-/

namespace KeyedFlow

/-- The first operation that cannot be resolved is rejected, with its position. -/
private theorem Blueprint.resolve_eq_error {rounding : Rounding} {position : Nat} {before rest : List Operation}
    {operation : Operation} {cause : Failure} (hbefore : ∀ o ∈ before, ∃ stage, o.compile rounding = .ok stage)
    (hcause : operation.compile rounding = .error cause) :
    resolve rounding position (before ++ operation :: rest) =
      .error ⟨position + before.length, operation, cause⟩ := by
  induction before generalizing position with
  | nil =>
    rw [List.nil_append, resolve, hcause]
    rfl
  | cons first before ih =>
    obtain ⟨stage, hstage⟩ := hbefore first List.mem_cons_self
    rw [List.cons_append, resolve, hstage, ih fun o ho => hbefore o (List.mem_cons_of_mem first ho)]
    have hposition : position + 1 + before.length = position + (first :: before).length := by
      rw [List.length_cons]
      omega
    rw [hposition]
    rfl

private theorem Operation.resolve_or_first (rounding : Rounding) (operations : List Operation) :
    (∀ o ∈ operations, ∃ stage, o.compile rounding = .ok stage) ∨
    ∃ before operation rest cause, operations = before ++ operation :: rest ∧
      (∀ o ∈ before, ∃ stage, o.compile rounding = .ok stage) ∧ operation.compile rounding = .error cause := by
  induction operations with
  | nil =>
    left
    simp
  | cons first operations ih =>
    cases hfirst : first.compile rounding with
    | error cause =>
      right
      exact ⟨[], first, operations, cause, rfl, by simp, hfirst⟩
    | ok stage =>
      rcases ih with hall | ⟨before, operation, rest, cause, rfl, hbefore, hcause⟩
      · left
        intro o ho
        rcases List.mem_cons.1 ho with rfl | ho
        · exact ⟨stage, hfirst⟩
        · exact hall o ho
      · right
        refine ⟨first :: before, operation, rest, cause, rfl, fun o ho => ?_, hcause⟩
        rcases List.mem_cons.1 ho with rfl | ho
        · exact ⟨stage, hfirst⟩
        · exact hbefore o ho

private theorem Blueprint.exists_build {blueprint : Blueprint}
    (h : ∀ o ∈ blueprint.operations, ∃ stage, o.compile blueprint.rounding = .ok stage) :
    ∃ pipeline, blueprint.build = .ok pipeline := by
  have hresolve : ∃ stages, Operation.Resolve blueprint.rounding blueprint.operations stages := by
    generalize blueprint.operations = operations at h
    induction operations with
    | nil => exact ⟨[], .nil⟩
    | cons first operations ih =>
      obtain ⟨stage, hstage⟩ := h first List.mem_cons_self
      obtain ⟨stages, hstages⟩ := ih fun o ho => h o (List.mem_cons_of_mem first ho)
      exact ⟨stage :: stages, .cons hstage hstages⟩
  obtain ⟨stages, hstages⟩ := hresolve
  obtain ⟨pipeline, hbuild, -⟩ := Blueprint.exists_build_of_resolve hstages blueprint.name
  exact ⟨pipeline, hbuild⟩

namespace Run

/-- Where a run stops before it writes: the paths that it has opened, and its result. -/
inductive Stop (setup : Setup) (asked : Option UInt64) (store : FileStore) :
    List String → Except Failure Outcome → Prop where
  | nothingAsked (hasked : asked = some 0) : Stop setup asked store [] (.ok .nothingToProcess)
  | program {failure : Failure} (hasked : asked ≠ some 0)
      (hprogram : ((loadDocument Program.parse setup.programPath).run store).1 = .error failure) :
      Stop setup asked store [setup.programPath] (.error failure)
  | noPartitions {program : Program} (hasked : asked ≠ some 0)
      (hprogram : ((loadDocument Program.parse setup.programPath).run store).1 = .ok program)
      (hcount : partitionCount asked program = 0) :
      Stop setup asked store [setup.programPath] (.ok .nothingToProcess)
  /-- All operations before one that cannot be resolved can be. -/
  | operation {program : Program} {before rest : List Operation} {operation : Operation} {cause : Failure}
      (hprogram : ((loadDocument Program.parse setup.programPath).run store).1 = .ok program)
      (hcount : partitionCount asked program ≠ 0) (hoperations : program.operations = before ++ operation :: rest)
      (hbefore : ∀ o ∈ before, ∃ stage, o.compile setup.rounding = .ok stage)
      (hcause : operation.compile setup.rounding = .error cause) :
      Stop setup asked store [setup.programPath]
        (.error (.atOperation (before.length + 1) operation.operator operation.function cause))
  /-- All partitions before one that cannot be read can be. -/
  | partition {program : Program} {j : Nat} {failure : Failure}
      (hprogram : ((loadDocument Program.parse setup.programPath).run store).1 = .ok program)
      (hoperations : ∀ o ∈ program.operations, ∃ stage, o.compile setup.rounding = .ok stage)
      (hlo : 1 ≤ j) (hhi : j ≤ (partitionCount asked program).toNat)
      (hbefore : ∀ i, 1 ≤ i → i < j → ∃ t, ((setup.partitions.read i).run store).1 = .ok t)
      (hfailure : ((setup.partitions.read j).run store).1 = .error failure) :
      Stop setup asked store (setup.programPath :: (List.range' 1 j).map setup.partitions.path) (.error failure)

variable {setup : Setup} {asked : Option UInt64} {store : FileStore} {opened : List String}
  {result : Except Failure Outcome}

/-- Where a run stops is decided by the files at the paths that it has opened. -/
theorem Stop.of_openFile (h : Stop setup asked store opened result) {other : FileStore}
    (hopened : ∀ path ∈ opened, other.openFile path = store.openFile path) :
    Stop setup asked other opened result := by
  have hload : setup.programPath ∈ opened →
      ((loadDocument Program.parse setup.programPath).run other).1 =
        ((loadDocument Program.parse setup.programPath).run store).1 :=
    fun hmem => loadDocument_congr Program.parse (hopened _ hmem)
  cases h with
  | nothingAsked hasked => exact .nothingAsked hasked
  | program hasked hprogram => exact .program hasked ((hload List.mem_cons_self).trans hprogram)
  | noPartitions hasked hprogram hcount =>
    exact .noPartitions hasked ((hload List.mem_cons_self).trans hprogram) hcount
  | operation hprogram hcount hoperations hbefore hcause =>
    exact .operation ((hload List.mem_cons_self).trans hprogram) hcount hoperations hbefore hcause
  | @partition program j failure hprogram hoperations hlo hhi hbefore hfailure =>
    have hread : ∀ i, 1 ≤ i → i ≤ j →
        ((setup.partitions.read i).run other).1 = ((setup.partitions.read i).run store).1 := by
      intro i hi hij
      have hmem : i ∈ List.range' 1 j := List.mem_range'_1.2 ⟨hi, by omega⟩
      exact Partitions.read_congr (hopened _ (List.mem_cons_of_mem _ (List.mem_map_of_mem hmem)))
    refine .partition ((hload List.mem_cons_self).trans hprogram) hoperations hlo hhi (fun i hi hij => ?_) ?_
    · obtain ⟨t, ht⟩ := hbefore i hi hij
      exact ⟨t, (hread i hi (by omega)).trans ht⟩
    · exact (hread j hlo (Nat.le_refl j)).trans hfailure

private theorem run_perform_of_program {program : Program} (hasked : asked ≠ some 0)
    (hprogram : ((loadDocument Program.parse setup.programPath).run store).1 = .ok program) :
    (perform setup asked).run store =
      if partitionCount asked program = 0 then (skipped, store)
      else (ofProgram setup (partitionCount asked program) program).run store := by
  unfold perform
  rw [if_neg hasked, DiskAction.run_bind, (readsOnly_loadDocument _ _).run_eq store, hprogram]
  dsimp only
  split <;> rfl

private theorem asked_ne_of_count {program : Program} (hcount : partitionCount asked program ≠ 0) :
    asked ≠ some 0 := by
  rintro rfl
  exact hcount rfl

private theorem build_eq_error {program : Program} {before rest : List Operation} {operation : Operation}
    {cause : Failure} (hoperations : program.operations = before ++ operation :: rest)
    (hbefore : ∀ o ∈ before, ∃ stage, o.compile setup.rounding = .ok stage)
    (hcause : operation.compile setup.rounding = .error cause) :
    (blueprint setup program).build = .error ⟨before.length + 1, operation, cause⟩ := by
  unfold Blueprint.build blueprint
  rw [hoperations, Blueprint.resolve_eq_error hbefore hcause, Nat.add_comm 1 before.length]
  rfl

/-- A run that stops has not written anything. -/
private theorem Stop.run_perform (h : Stop setup asked store opened result) :
    ∃ events, (perform setup asked).run store = (⟨events, result⟩, store) := by
  cases h with
  | nothingAsked hasked =>
    refine ⟨[.pipelineSkipped], ?_⟩
    unfold perform
    rw [if_pos hasked]
    rfl
  | program hasked hprogram =>
    refine ⟨[], ?_⟩
    unfold perform
    rw [if_neg hasked, DiskAction.run_bind, (readsOnly_loadDocument _ _).run_eq store, hprogram]
    rfl
  | noPartitions hasked hprogram hcount =>
    refine ⟨[.pipelineSkipped], ?_⟩
    rw [run_perform_of_program hasked hprogram, if_pos hcount]
    rfl
  | @operation program before rest operation cause hprogram hcount hoperations hbefore hcause =>
    rw [run_perform_of_program (asked_ne_of_count hcount) hprogram, if_neg hcount, ofProgram,
      build_eq_error hoperations hbefore hcause]
    exact ⟨_, rfl⟩
  | @partition program j failure hprogram hoperations hlo hhi hbefore hfailure =>
    have hcount : partitionCount asked program ≠ 0 := by
      intro hzero
      rw [hzero, UInt64.toNat_zero] at hhi
      omega
    have hpipeline : ∃ pipeline, (blueprint setup program).build = .ok pipeline :=
      Blueprint.exists_build hoperations
    obtain ⟨pipeline, hbuild⟩ := hpipeline
    have hload : ((setup.partitions.load (partitionCount asked program).toNat).run store).1 = .error failure :=
      Partitions.load_eq_error_iff.2 ⟨j, hlo, hhi, hfailure, hbefore⟩
    refine ⟨[], ?_⟩
    rw [run_perform_of_program (asked_ne_of_count hcount) hprogram, if_neg hcount, ofProgram, hbuild]
    dsimp only
    unfold ofPipeline
    rw [DiskAction.run_bind, (setup.partitions.readsOnly_load _).run_eq store, hload]
    rfl

/-- A run stops unless it has all that it needs to write its result. -/
private theorem exists_stop_or_ready (setup : Setup) (asked : Option UInt64) (store : FileStore) :
    (∃ opened result, Stop setup asked store opened result) ∨
      ∃ program pipeline input, Ready setup asked store program pipeline input := by
  by_cases hasked : asked = some 0
  · left
    exact ⟨_, _, .nothingAsked hasked⟩
  cases hprogram : ((loadDocument Program.parse setup.programPath).run store).1 with
  | error failure =>
    left
    exact ⟨_, _, .program hasked hprogram⟩
  | ok program =>
    by_cases hcount : partitionCount asked program = 0
    · left
      exact ⟨_, _, .noPartitions hasked hprogram hcount⟩
    rcases Operation.resolve_or_first setup.rounding program.operations with
      hall | ⟨before, operation, rest, cause, hoperations, hbefore, hcause⟩
    · cases hload : ((setup.partitions.load (partitionCount asked program).toNat).run store).1 with
      | error failure =>
        left
        obtain ⟨j, hlo, hhi, hfailure, hbefore⟩ := Partitions.load_eq_error_iff.1 hload
        exact ⟨_, _, .partition hprogram hall hlo hhi hbefore hfailure⟩
      | ok input =>
        right
        have hbuild : ∃ pipeline, (blueprint setup program).build = .ok pipeline := Blueprint.exists_build hall
        obtain ⟨pipeline, hpipeline⟩ := hbuild
        exact ⟨program, pipeline, input, hprogram, hcount, hpipeline, hload⟩
    · left
      exact ⟨_, _, .operation hprogram hcount hoperations hbefore hcause⟩

private theorem Ready.not_stop {program : Program} {pipeline : Pipeline} {input : Table}
    (ready : Ready setup asked store program pipeline input) : ¬Stop setup asked store opened result := by
  have hsame : ∀ {other : Program},
      ((loadDocument Program.parse setup.programPath).run store).1 = .ok other → program = other :=
    fun hother => Except.ok.inj (ready.program_eq.symm.trans hother)
  intro stop
  cases stop with
  | nothingAsked hasked =>
    subst hasked
    exact ready.count_ne_zero rfl
  | program _ hprogram =>
    rw [ready.program_eq] at hprogram
    cases hprogram
  | noPartitions _ hprogram hcount =>
    obtain rfl := hsame hprogram
    exact ready.count_ne_zero hcount
  | operation hprogram _ hoperations hbefore hcause =>
    obtain rfl := hsame hprogram
    have hbuild := ready.pipeline_eq
    rw [build_eq_error hoperations hbefore hcause] at hbuild
    cases hbuild
  | partition hprogram _ hlo hhi hbefore hfailure =>
    obtain rfl := hsame hprogram
    have hload := Partitions.load_eq_error_iff.2 ⟨_, hlo, hhi, hfailure, hbefore⟩
    rw [ready.input_eq] at hload
    cases hload

/-- A run that stops has the same result, and leaves the store as it is, wherever the paths that it has opened by then
are as they are here.  A run does not stop exactly when it has all that it needs; then its result is that of writing. -/
theorem perform_stop (setup : Setup) (asked : Option UInt64) (store : FileStore) :
    (∀ opened result, Stop setup asked store opened result → ∀ other : FileStore,
      (∀ path ∈ opened, other.openFile path = store.openFile path) →
      ∃ events, (perform setup asked).run other = (⟨events, result⟩, other)) ∧
    ((¬∃ opened result, Stop setup asked store opened result) ↔
      ∃ program pipeline input, Ready setup asked store program pipeline input) ∧
    ∀ program pipeline input, Ready setup asked store program pipeline input →
      ((perform setup asked).run store).1.result =
        ((Table.save setup.resultPath (pipeline.run input)).run store).1.map fun _ =>
          .completed (summary pipeline (partitionCount asked program) input) := by
  refine ⟨fun opened result stop other hopened => ?_, ⟨fun hnone => ?_, ?_⟩, fun program pipeline input ready => ?_⟩
  · exact (stop.of_openFile hopened).run_perform
  · exact (exists_stop_or_ready setup asked store).resolve_left hnone
  · rintro ⟨program, pipeline, input, ready⟩ ⟨opened, result, stop⟩
    exact ready.not_stop stop
  · rw [ready.run_perform]

/-- Of an unknown operator, a division by zero, absent partitions and a result that cannot be written, the operator is
reported, and also where only the program is as it is here. -/
theorem perform_stop_unsupported :
    let program := "[null, [[\"FILTER\", \"IS_EVEN\"], [\"SORT\", \"UP\"], [\"MAP\", \"DIVIDE(0)\"]]]"
    let setup : Setup := ⟨"key", "program.json", "program.json/result.csv", "expected.csv", .towardZero⟩
    let store : FileStore := ⟨fun location =>
      if location = ["home"] then some .directory
      else if location = ["home", "program.json"] then some (.file program.toUTF8) else none⟩
    let failure : Failure := .atOperation 2 "SORT" "UP" (.unsupportedOperator "SORT")
    Stop setup (some 2) store ["program.json"] (.error failure) ∧
      ∀ other : FileStore, other.openFile "program.json" = store.openFile "program.json" →
        ∃ events, (perform setup (some 2)).run other = (⟨events, .error failure⟩, other) := by
  intro program setup store failure
  have stop : Stop setup (some 2) store ["program.json"] (.error failure) := by
    have hopen : store.openFile "program.json" = .file program.toUTF8 := by rfl
    have hprogram : ((loadDocument Program.parse setup.programPath).run store).1 =
        .ok ⟨none, [⟨"FILTER", "IS_EVEN"⟩, ⟨"SORT", "UP"⟩, ⟨"MAP", "DIVIDE(0)"⟩]⟩ := by
      rw [run_loadDocument _ hopen]
      show Program.parse "program.json" program = _
      decide +kernel
    have hbefore : ∀ o ∈ [(⟨"FILTER", "IS_EVEN"⟩ : Operation)], ∃ stage, o.compile setup.rounding = .ok stage := by
      intro o ho
      obtain rfl := List.mem_singleton.1 ho
      exact ⟨.filter .isEven, rfl⟩
    have hcause : Operation.compile setup.rounding ⟨"SORT", "UP"⟩ = .error (.unsupportedOperator "SORT") := by rfl
    exact .operation hprogram (by decide) rfl hbefore hcause
  refine ⟨stop, fun other hopen => ?_⟩
  obtain ⟨hstop, -⟩ := perform_stop setup (some 2) store
  refine hstop _ _ stop other fun path hpath => ?_
  obtain rfl := List.mem_singleton.1 hpath
  exact hopen

end Run

end KeyedFlow
