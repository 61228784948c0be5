import KeyedFlow.Proofs.RunStages
import KeyedFlow.Proofs.Resolution

/-!
# The log of a run

The events of a run are nothing at all, one event that says why there is no run, or a complete block: the start of the
pipeline, a pair of events for each operation, and the end of the pipeline (`Event.runBlock`).  Which of them it is can
be read off the result of the run, and the log and the result agree on what they both tell (`Run.Ends.accord`).
-/

namespace KeyedFlow

namespace Event

/-- The pairs of events of operations, the first of which has the given position and gets `rows` rows.  Each operation
is given with the number of rows that it leaves. -/
def ofOperations : Nat → Nat → List (Operation × Nat) → List Event
  | _, _, [] => []
  | position, rows, (operation, left) :: rest =>
    .operationStarted position operation.operator operation.function ::
      .operationCompleted position operation.operator operation.function rows left ::
      ofOperations (position + 1) left rest

/-- The number of rows that operations leave of `rows` rows. -/
def rowsLeft (rows : Nat) (operations : List (Operation × Nat)) : Nat :=
  (operations.map Prod.snd).getLastD rows

@[simp] theorem rowsLeft_cons (rows left : Nat) (operation : Operation) (rest : List (Operation × Nat)) :
    rowsLeft rows ((operation, left) :: rest) = rowsLeft left rest := by
  unfold rowsLeft
  rw [List.map_cons, List.getLastD_cons]

/-- The complete block of a pipeline that is run on `rows` rows. -/
def runBlock (pipeline : String) (rows : Nat) (operations : List (Operation × Nat)) : List Event :=
  .pipelineStarted pipeline operations.length rows ::
    (ofOperations 1 rows operations ++ [.pipelineCompleted pipeline (rowsLeft rows operations)])

/-- Different events have different entries. -/
@[simp] theorem entry_inj {a b : Event} : a.entry = b.entry ↔ a = b := by
  constructor
  · intro h
    cases a <;> cases b <;> simp_all [entry, type, data]
  · exact congrArg entry

end Event

/-- Whether a log is the complete block of a pipeline of operations that turns `rowsIn` rows into `rowsOut`. -/
def EventLog.IsRunOf (log : EventLog) (pipeline : String) (operations : List Operation) (rowsIn rowsOut : Nat) : Prop :=
  ∃ counts : List (Operation × Nat), counts.map Prod.fst = operations ∧ Event.rowsLeft rowsIn counts = rowsOut ∧
    log = (Event.runBlock pipeline rowsIn counts).map Event.entry

private theorem EventLog.IsRunOf.ne_singleton {log : EventLog} {pipeline : String} {operations : List Operation}
    {rowsIn rowsOut : Nat} (h : log.IsRunOf pipeline operations rowsIn rowsOut) (entry : LogEntry) : log ≠ [entry] := by
  -- the start and the end of the pipeline are two entries already
  obtain ⟨counts, -, -, rfl⟩ := h
  simp [Event.runBlock]

namespace Step

/-- The operations of steps, each with the number of rows that it leaves. -/
def counts : List Step → Table → List (Operation × Nat)
  | [], _ => []
  | step :: rest, t => (step.operation, (step.stage.apply t).length) :: counts rest (step.stage.apply t)

private theorem map_fst_counts (steps : List Step) (t : Table) :
    (counts steps t).map Prod.fst = steps.map operation := by
  induction steps generalizing t with
  | nil => rfl
  | cons step rest ih => simp [counts, ih]

private theorem length_counts (steps : List Step) (t : Table) : (counts steps t).length = steps.length := by
  rw [← List.length_map Prod.fst, map_fst_counts, List.length_map]

private theorem rowsLeft_counts (steps : List Step) (t : Table) :
    Event.rowsLeft t.length (counts steps t) = (runAll steps t).length := by
  induction steps generalizing t with
  | nil => rfl
  | cons step rest ih =>
    rw [counts, Event.rowsLeft_cons, ih]
    rfl

end Step

namespace Blueprint

/-- The steps that are resolved have the operations they are resolved from. -/
theorem map_operation_of_resolve {rounding : Rounding} {position : Nat} {operations : List Operation}
    {steps : List Step} (h : resolve rounding position operations = .ok steps) :
    steps.map Step.operation = operations := by
  induction operations generalizing position steps with
  | nil => cases h; rfl
  | cons operation rest ih =>
    obtain ⟨stage, more, -, hmore, rfl⟩ := resolve_cons_eq_ok_iff.1 h
    rw [List.map_cons, ih hmore]

/-- The positions of resolved operations are counted on from the first, so their events are the pairs of a block. -/
private theorem eventsAll_of_resolve {rounding : Rounding} {position : Nat} {operations : List Operation}
    {steps : List Step} (h : resolve rounding position operations = .ok steps) (t : Table) :
    Step.eventsAll steps t = Event.ofOperations position t.length (Step.counts steps t) := by
  induction operations generalizing position steps t with
  | nil => cases h; rfl
  | cons operation rest ih =>
    obtain ⟨stage, more, -, hmore, rfl⟩ := resolve_cons_eq_ok_iff.1 h
    -- the rows that this operation leaves are the rows that the next one gets
    have hrest := ih hmore (stage.apply t)
    simp only [Step.eventsAll, Step.events, Step.counts, Event.ofOperations, hrest, List.cons_append, List.nil_append]

/-- A pipeline that has been built leaves a complete block. -/
private theorem events_of_build {blueprint : Blueprint} {pipeline : Pipeline} (h : blueprint.build = .ok pipeline)
    (t : Table) :
    pipeline.events t = Event.runBlock blueprint.name t.length (Step.counts pipeline.steps t) ∧
    pipeline.steps.map Step.operation = blueprint.operations ∧ pipeline.name = blueprint.name := by
  obtain ⟨steps, hsteps, rfl⟩ := map_eq_ok_iff.1 h
  refine ⟨?_, map_operation_of_resolve hsteps, rfl⟩
  unfold Pipeline.events Event.runBlock
  rw [eventsAll_of_resolve hsteps, Step.length_counts, Step.rowsLeft_counts]
  rfl

end Blueprint

/-- Whether a failure is that of an operation. -/
def Failure.isOfOperation : Failure → Bool
  | .atOperation .. => true
  | _ => false

/-! Reading a program or a partition does not fail for an operation. -/

namespace RecordFile

private theorem isOfOperation_tableOfRows {path : String} {header : Header} {rows : List Row} {failure : Failure}
    (h : tableOfRows path header rows = .error failure) : failure.isOfOperation = false := by
  induction rows generalizing header with
  | nil => cases h
  | cons row rest ih =>
    unfold tableOfRows at h
    split at h
    · cases h; rfl
    split at h
    · exact ih (map_eq_error_iff.1 h)
    split at h
    · exact ih h
    · cases h; rfl

end RecordFile

private theorem isOfOperation_parse {path text : String} {failure : Failure}
    (h : Program.parse path text = .error failure) : failure.isOfOperation = false := by
  unfold Program.parse at h
  cases hread : Json.ofText Program.read text with
  | ok program => rw [hread] at h; cases h
  | error fault => rw [hread] at h; cases h; rfl

variable {store : FileStore} {failure : Failure}

private theorem isOfOperation_loadTable {path : String} {header : Header}
    (h : ((Table.load path header).run store).1 = .error failure) : failure.isOfOperation = false := by
  unfold Table.load at h
  rw [DiskAction.run_bind, DiskAction.run_openFile] at h
  cases hopened : store.openFile path with
  | file content =>
    rw [hopened] at h
    exact RecordFile.isOfOperation_tableOfRows h
  | directory | absent | blocked => rw [hopened] at h; cases h; rfl

private theorem isOfOperation_loadText {path : String} (h : ((loadText path).run store).1 = .error failure) :
    failure.isOfOperation = false := by
  unfold loadText at h
  rw [DiskAction.run_bind, DiskAction.run_openFile] at h
  cases hopened : store.openFile path with
  | file content =>
    rw [hopened] at h
    dsimp only at h
    split at h <;> cases h
    rfl
  | directory | absent | blocked => rw [hopened] at h; cases h; rfl

private theorem isOfOperation_loadProgram {path : String}
    (h : ((loadDocument Program.parse path).run store).1 = .error failure) : failure.isOfOperation = false := by
  unfold loadDocument at h
  rw [DiskAction.run_bind] at h
  cases hloaded : ((loadText path).run store).1 with
  | error cause =>
    rw [hloaded] at h
    cases h
    exact isOfOperation_loadText hloaded
  | ok text =>
    rw [hloaded] at h
    exact isOfOperation_parse h

private theorem Partitions.isOfOperation_loadFrom {partitions : Partitions} {index count : Nat}
    (h : ((partitions.loadFrom index count).run store).1 = .error failure) : failure.isOfOperation = false := by
  induction count generalizing index store with
  | zero => cases h
  | succ count ih =>
    unfold loadFrom at h
    rw [DiskAction.run_bind] at h
    cases hread : ((partitions.read index).run store).1 with
    | error cause =>
      rw [hread] at h
      cases h
      exact isOfOperation_loadTable hread
    | ok t =>
      rw [hread] at h
      dsimp only at h
      rw [DiskAction.run_bind] at h
      cases hrest : ((partitions.loadFrom (index + 1) count).run ((partitions.read index).run store).2).1 with
      | error cause =>
        rw [hrest] at h
        cases h
        exact ih hrest
      | ok rest => rw [hrest] at h; cases h

namespace Run

/-- What the entries of the events of a run and its result tell of each other. -/
structure Accord (setup : Setup) (asked : Option UInt64) (store : FileStore) (log : EventLog)
    (result : Except Failure Outcome) : Prop where
  /-- Skipping is logged exactly when there has been nothing to process. -/
  skipped_iff : log = [Event.entry .pipelineSkipped] ↔ result = .ok .nothingToProcess
  /-- The failure of an operation is logged exactly when it is the result. -/
  rejected_iff : ∀ pipeline position operator function error,
    log = [Event.entry (.operationFailed pipeline position operator function error)] ↔
      pipeline = setup.programPath ∧
        ∃ cause, result = .error (.atOperation position operator function cause) ∧ cause.message = error
  /-- A summary counts what the complete block of the program has. -/
  completed : ∀ summary, result = .ok (.completed summary) →
    ∃ program pipeline input, Ready setup asked store program pipeline input ∧
      summary.pipeline = setup.programPath ∧ summary.operations = program.operations.length ∧
      log.IsRunOf setup.programPath program.operations summary.inputRows summary.outputRows
  /-- With every other failure nothing has been run, or all has been run and the result could not be saved. -/
  failed : ∀ failure, result = .error failure → failure.isOfOperation = false →
    (log = [] ∧ ¬ ∃ program pipeline input, Ready setup asked store program pipeline input) ∨
    ∃ program pipeline input, Ready setup asked store program pipeline input ∧
      ((Table.save setup.resultPath (pipeline.run input)).run store).1 = .error failure ∧
      log.IsRunOf setup.programPath program.operations input.length (pipeline.run input).length

variable {setup : Setup} {asked : Option UInt64} {log : EventLog} {result : Except Failure Outcome}

private theorem accord_skipped :
    Accord setup asked store [Event.entry .pipelineSkipped] (.ok .nothingToProcess) where
  skipped_iff := ⟨fun _ => rfl, fun _ => rfl⟩
  rejected_iff := by simp
  completed := by simp
  failed := by simp

private theorem accord_rejected {rejection : Rejection} :
    Accord setup asked store [Event.entry (rejection.event setup.programPath)] (.error rejection.failure) where
  skipped_iff := by simp [Rejection.event]
  rejected_iff := by
    intro pipeline position operator function error
    rw [List.singleton_inj, Event.entry_inj]
    constructor
    · intro h
      cases h
      exact ⟨rfl, _, rfl, rfl⟩
    · rintro ⟨rfl, cause, hcause, rfl⟩
      cases hcause
      rfl
  completed := by simp
  failed := by
    intro failure hfailure hof
    cases hfailure
    cases hof

/-- A run that fails before its pipeline has started logs nothing. -/
private theorem accord_failed (hof : failure.isOfOperation = false)
    (hready : ¬ ∃ program pipeline input, Ready setup asked store program pipeline input) :
    Accord setup asked store [] (.error failure) where
  skipped_iff := by simp
  rejected_iff := by
    intro pipeline position operator function error
    constructor
    · intro h
      cases h
    · rintro ⟨-, cause, hcause, -⟩
      cases hcause
      cases hof
  completed := by simp
  failed := by
    rintro failure hfailure -
    exact Or.inl ⟨rfl, hready⟩

private theorem Ready.isRunOf {program : Program} {pipeline : Pipeline} {input : Table}
    (ready : Ready setup asked store program pipeline input) :
    EventLog.IsRunOf ((pipeline.events input).map Event.entry) setup.programPath program.operations input.length
      (pipeline.run input).length := by
  obtain ⟨hevents, hoperations, -⟩ := Blueprint.events_of_build ready.pipeline_eq input
  refine ⟨Step.counts pipeline.steps input, ?_, Step.rowsLeft_counts pipeline.steps input, ?_⟩
  · rw [Step.map_fst_counts, hoperations]
    rfl
  · rw [hevents]
    rfl

/-- A pipeline that is run is logged in full, whether its result can be saved or not. -/
private theorem Ready.accord {program : Program} {pipeline : Pipeline} {input : Table}
    (ready : Ready setup asked store program pipeline input)
    (hresult : result = .ok (.completed (summary pipeline (partitionCount asked program) input)) ∨
      result = .error .storage ∧ ((Table.save setup.resultPath (pipeline.run input)).run store).1 = .error .storage) :
    Accord setup asked store ((pipeline.events input).map Event.entry) result where
  skipped_iff := by
    refine iff_of_false (ready.isRunOf.ne_singleton _) ?_
    rintro rfl
    rcases hresult with hresult | ⟨hresult, -⟩ <;> cases hresult
  rejected_iff := by
    intro pipeline position operator function error
    refine iff_of_false (ready.isRunOf.ne_singleton _) ?_
    rintro ⟨-, cause, rfl, -⟩
    rcases hresult with hresult | ⟨hresult, -⟩ <;> cases hresult
  completed := by
    rintro summary rfl
    obtain ⟨hoperations, hname⟩ := (Blueprint.events_of_build ready.pipeline_eq input).2
    rcases hresult with hresult | ⟨hresult, -⟩
    · cases hresult
      refine ⟨program, pipeline, input, ready, hname, ?_, ready.isRunOf⟩
      exact (List.length_map _).symm.trans (congrArg List.length hoperations)
    · cases hresult
  failed := by
    rintro failure rfl -
    rcases hresult with hresult | ⟨hresult, hsave⟩
    · cases hresult
    · cases hresult
      exact Or.inr ⟨program, pipeline, input, ready, hsave, ready.isRunOf⟩

/-- The log and the result of every run are in accord. -/
theorem Ends.accord {run : Run} {after : FileStore} (h : Ends setup asked store run after) :
    Accord setup asked store (run.events.map Event.entry) run.result := by
  cases h with
  | nothingAsked | noPartitions => exact accord_skipped
  | noProgram hasked hprogram =>
    refine accord_failed (isOfOperation_loadProgram hprogram) ?_
    rintro ⟨program, pipeline, input, ready⟩
    cases hprogram.symm.trans ready.program_eq
  | rejected => exact accord_rejected
  | noInput hprogram hcount hbuild hinput =>
    refine accord_failed (Partitions.isOfOperation_loadFrom hinput) ?_
    rintro ⟨program, pipeline, input, ready⟩
    cases hprogram.symm.trans ready.program_eq
    cases hinput.symm.trans ready.input_eq
  | unwritten ready hsave => exact ready.accord (Or.inr ⟨rfl, congrArg Prod.fst hsave⟩)
  | written ready => exact ready.accord (Or.inl rfl)

end Run

end KeyedFlow
