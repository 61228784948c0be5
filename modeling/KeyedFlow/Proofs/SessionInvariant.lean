import KeyedFlow.Proofs.GeneratedPartitions
import KeyedFlow.Proofs.ResultFile
import KeyedFlow.Proofs.Workspace

/-!
# What a session remembers

A session remembers the number of partitions of the last generation that has succeeded
(`Workspace.lastGenerated_takeAll`).  As long as the result is not written over a partition, these partitions are there
and as they have been generated, whatever has been asked of the session since (`Workspace.holdsLastGenerated_takeAll`).
So a run on the usual number of partitions does not fail because of its input (`Run.Obstacle`).
-/

namespace KeyedFlow

open DiskAction in
/-- Validation only reads. -/
theorem Validation.readsOnly_perform (generatedPath expectedPath : String) :
    (Validation.perform generatedPath expectedPath).ReadsOnly := by
  refine (Table.readsOnly_load _ _).bind fun loaded => ?_
  cases loaded with
  | error failure => exact ReadsOnly.pure _
  | ok generated =>
    refine (Table.readsOnly_load _ _).bind fun loaded => ?_
    cases loaded <;> exact ReadsOnly.pure _

namespace Run

variable {setup : Setup} {asked : Option UInt64} {store : FileStore}

/-- A run leaves a partition generated unless its result is written there. -/
private theorem holdsGenerated_perform {partitions : Partitions} {index : Nat}
    (hresult : ¬Path.Meet setup.resultPath (partitions.path index)) (h : partitions.HoldsGenerated store index) :
    partitions.HoldsGenerated ((perform setup asked).run store).2 index := by
  obtain ⟨location, t, hresolve, ht⟩ := h
  exact ⟨location, t, resolve_perform hresolve hresult, ht⟩

/-- Why a run may fail whose partitions can be read: its program cannot be loaded, one of its operations cannot be
resolved, or its result cannot be written. -/
inductive Obstacle (setup : Setup) (asked : Option UInt64) (store : FileStore) : Failure → Prop where
  | program {failure : Failure}
      (hprogram : ((loadDocument Program.parse setup.programPath).run store).1 = .error failure) :
      Obstacle setup asked store failure
  | operation {program : Program} {rejection : Rejection}
      (hprogram : ((loadDocument Program.parse setup.programPath).run store).1 = .ok program)
      (hbuild : (blueprint setup program).build = .error rejection) :
      Obstacle setup asked store rejection.failure
  | result {program : Program} {pipeline : Pipeline} {input : Table} {failure : Failure}
      (ready : Ready setup asked store program pipeline input)
      (hsave : ((Table.save setup.resultPath (pipeline.run input)).run store).1 = .error failure) :
      Obstacle setup asked store failure

private theorem Ends.obstacle {count : UInt64} {run : Run} {after : FileStore} {failure : Failure}
    (h : Ends setup (some count) store run after) (hresult : run.result = .error failure) {input : Table}
    (hinput : ((setup.partitions.load count.toNat).run store).1 = .ok input) :
    Obstacle setup (some count) store failure := by
  cases h with
  | noProgram _ hprogram =>
    cases hresult
    exact .program hprogram
  | rejected hprogram _ hbuild =>
    cases hresult
    exact .operation hprogram hbuild
  | noInput _ _ _ hfailure =>
    -- the partitions that are read are those asked for
    have hload : ((setup.partitions.load count.toNat).run store).1 = .error _ := hfailure
    rw [hinput] at hload
    cases hload
  | unwritten ready hsave =>
    cases hresult
    exact .result ready (congrArg Prod.fst hsave)
  | nothingAsked | noPartitions | written => cases hresult

end Run

/-- Whether the result of a setup is at no place of a partition. -/
def Setup.KeepsPartitions (setup : Setup) : Prop :=
  ∀ index : UInt64, index ≠ 0 → ¬Path.Meet setup.resultPath (setup.partitions.path index.toNat)

namespace Workspace

/-- The number of partitions that a call has generated, if it is a generation that has succeeded. -/
def generatedCount (call : Workspace × Request) : Option UInt64 :=
  match call.2 with
  | .generate generation _ => if (call.1.answer call.2).reply.isOk then some generation.keys else none
  | .apply _ => none
  | .validate => none

/-- A request for partitions does in the store what the generation does. -/
theorem store_take_generate (w : Workspace) (generation : Generation) (draws : Draws) :
    (w.take (.generate generation draws)).store =
      ((generation.perform draws w.session.setup.partitions).run w.store).2 := by
  unfold take Session.perform Session.generate
  dsimp only
  rw [DiskAction.run_bind]
  cases ((generation.perform draws w.session.setup.partitions).run w.store).1 <;> rfl

/-- A request for a run does in the store what the run does. -/
theorem store_take_apply (w : Workspace) (partitions : Option UInt64) :
    (w.take (.apply partitions)).store =
      ((Run.perform w.session.setup (w.session.partitionsAsked partitions)).run w.store).2 := by
  unfold take Session.perform Session.apply
  dsimp only
  rw [DiskAction.run_bind]
  rfl

/-- A request for a validation leaves the store as it is. -/
theorem store_take_validate (w : Workspace) : (w.take .validate).store = w.store := by
  unfold take Session.perform Session.validate
  dsimp only
  rw [DiskAction.run_bind, (Validation.readsOnly_perform _ _).run_eq w.store]
  rfl

/-- A session remembers the number of partitions that a request has generated, if it has generated any. -/
theorem lastGenerated_take (w : Workspace) (request : Request) :
    (w.take request).session.lastGenerated = (generatedCount (w, request)).or w.session.lastGenerated := by
  show (w.answer request).session.lastGenerated = _
  cases request with
  | generate generation draws =>
    have hcount := (generation.holdsGenerated_perform draws w.session.setup.partitions w.store).2
    unfold generatedCount
    dsimp only
    rw [answer_generate]
    cases hresult : ((generation.perform draws w.session.setup.partitions).run w.store).1 with
    | error failure => rfl
    | ok count => rw [(hcount count hresult).1]; rfl
  | apply partitions => rw [answer_apply]; rfl
  | validate => rw [answer_validate]; rfl

/-- A session remembers the number of partitions of the last generation that has succeeded. -/
theorem lastGenerated_takeAll (w : Workspace) (requests : List Request) :
    (w.takeAll requests).session.lastGenerated =
      ((w.calls requests).filterMap generatedCount).getLast?.or w.session.lastGenerated := by
  induction requests generalizing w with
  | nil => rfl
  | cons request rest ih =>
    rw [takeAll_cons, ih, lastGenerated_take, calls, List.filterMap_cons, ← Option.or_assoc]
    cases generatedCount (w, request) with
    | none => rw [Option.or_none]
    | some count =>
      dsimp only
      rw [List.getLast?_cons]
      cases ((w.take request).calls rest |>.filterMap generatedCount).getLast? <;> rfl

/-- Whether the partitions of the last generation are there and as they have been generated. -/
def HoldsLastGenerated (w : Workspace) : Prop :=
  ∀ count, w.session.lastGenerated = some count →
    ∀ index, 1 ≤ index → index ≤ count.toNat → w.session.setup.partitions.HoldsGenerated w.store index

private theorem HoldsLastGenerated.take {w : Workspace} (h : w.HoldsLastGenerated)
    (hresult : w.session.setup.KeepsPartitions) (request : Request) : (w.take request).HoldsLastGenerated := by
  intro count hcount index hlo hhi
  rw [setup_take]
  rw [lastGenerated_take] at hcount
  cases request with
  | generate generation draws =>
    obtain ⟨hkeep, hnew⟩ := generation.holdsGenerated_perform draws w.session.setup.partitions w.store
    rw [store_take_generate]
    unfold generatedCount at hcount
    dsimp only at hcount
    rw [answer_generate] at hcount
    cases hperform : ((generation.perform draws w.session.setup.partitions).run w.store).1 with
    | error failure =>
      rw [hperform] at hcount
      exact hkeep index (h count hcount index hlo hhi)
    | ok written =>
      rw [hperform] at hcount
      obtain ⟨rfl, hall⟩ := hnew written hperform
      cases hcount
      exact hall index hlo hhi
  | apply partitions =>
    rw [store_take_apply]
    refine Run.holdsGenerated_perform ?_ (h count hcount index hlo hhi)
    have hlt : index < 2 ^ 64 := lt_of_le_of_lt hhi count.toNat_lt
    have hmeet := hresult (UInt64.ofNat index) (by
      intro hzero
      have := congrArg UInt64.toNat hzero
      rw [UInt64.toNat_ofNat_of_lt' hlt] at this
      simp at this
      omega)
    rwa [UInt64.toNat_ofNat_of_lt' hlt] at hmeet
  | validate =>
    rw [store_take_validate]
    exact h count hcount index hlo hhi

private theorem HoldsLastGenerated.takeAll {w : Workspace} (h : w.HoldsLastGenerated)
    (hresult : w.session.setup.KeepsPartitions) (requests : List Request) :
    (w.takeAll requests).HoldsLastGenerated := by
  induction requests generalizing w with
  | nil => exact h
  | cons request rest ih =>
    refine ih (h.take hresult request) ?_
    rwa [setup_take]

private theorem setup_takeAll (w : Workspace) (requests : List Request) :
    (w.takeAll requests).session.setup = w.session.setup := by
  induction requests generalizing w with
  | nil => rfl
  | cons request rest ih => rw [takeAll_cons, ih, setup_take]

/-- A run on the usual number of partitions does not fail because of them, if they can be read. -/
private theorem obstacle_of_answer_apply {w : Workspace} {count : UInt64} (hlast : w.session.lastGenerated = some count)
    {input : Table} (hinput : ((w.session.setup.partitions.load count.toNat).run w.store).1 = .ok input)
    {failure : Failure} (hfailure : (w.answer (.apply none)).reply = .error failure) :
    Run.Obstacle w.session.setup (some count) w.store failure := by
  have hasked : w.session.partitionsAsked none = some count := hlast
  rw [answer_apply, hasked] at hfailure
  dsimp only at hfailure
  have hends := Run.ends_perform w.session.setup (some count) w.store
  cases hresult : ((Run.perform w.session.setup (some count)).run w.store).1.result with
  | ok outcome =>
    rw [hresult] at hfailure
    cases hfailure
  | error failure' =>
    rw [hresult] at hfailure
    cases hfailure
    exact hends.obstacle hresult hinput

end Workspace

/-- In every state that a session comes to, it remembers the number of partitions of the last generation that has
succeeded, and these partitions are there: they are loaded, and each is read as rows with its number as the key (the
largest key, for numbers beyond it) and positive values.  So a run without a number asked for fails, if it does, because
of its program, its operations or the place of its result. -/
theorem Workspace.load_takeAll_lastGenerated (setup : Setup) (hresult : setup.KeepsPartitions) (store : FileStore)
    (log : EventLog) (requests : List Request) :
    let w : Workspace := ⟨.start setup, store, log⟩
    let after := w.takeAll requests
    after.session.lastGenerated = ((w.calls requests).filterMap generatedCount).getLast? ∧
    ∀ count, after.session.lastGenerated = some count →
      (∃ tables : Nat → Table,
        (setup.partitions.load count.toNat).run after.store =
          (.ok ((List.range' 1 count.toNat).flatMap tables), after.store) ∧
        ∀ index, 1 ≤ index → index ≤ count.toNat →
          (setup.partitions.read index).run after.store = (.ok (tables index), after.store) ∧
          ∀ r ∈ tables index, r.key.toInt = min (index : Int) 0x7FFFFFFFFFFFFFFF ∧ 1 ≤ r.value) ∧
      ∀ failure, (after.answer (.apply none)).reply = .error failure →
        Run.Obstacle setup (some count) after.store failure := by
  intro w after
  have hsetup : after.session.setup = setup := w.setup_takeAll requests
  have hlast : after.session.lastGenerated = ((w.calls requests).filterMap generatedCount).getLast? := by
    rw [w.lastGenerated_takeAll requests]
    exact Option.or_none
  have hstart : w.HoldsLastGenerated := by
    intro count hcount
    cases hcount
  have hholds : after.HoldsLastGenerated := hstart.takeAll hresult requests
  refine ⟨hlast, fun count hcount => ?_⟩
  have hpartitions := hholds count hcount
  rw [hsetup] at hpartitions
  obtain ⟨tables, hload, htables⟩ := Partitions.run_load_of_holdsGenerated hpartitions
  refine ⟨⟨tables, hload, fun index hlo hhi => ⟨(htables index hlo hhi).1, fun r hr => ?_⟩⟩, fun failure hfailure => ?_⟩
  · obtain ⟨hkey, hvalue⟩ := (htables index hlo hhi).2 r hr
    rw [hkey]
    exact ⟨toInt_clamped index, hvalue⟩
  · have hobstacle := obstacle_of_answer_apply hcount (by rw [hsetup, hload]) hfailure
    rwa [hsetup] at hobstacle

/-- Two partitions stay the last ones generated, over a run that fails and a generation that is rejected. -/
theorem Workspace.load_takeAll_lastGenerated_two :
    let setup : Setup := ⟨"data/key", "program.json", "data/result.csv", "expected.csv", .towardZero⟩
    let requests : List Request :=
      [.generate ⟨2, 1, 5⟩ fun n => UInt64.ofNat n, .apply none, .generate ⟨1, 1, 0⟩ fun _ => 0]
    let after := (Workspace.mk (.start setup) .empty []).takeAll requests
    setup.KeepsPartitions ∧ after.session.lastGenerated = some 2 ∧
      ∃ tables : Nat → Table,
        (setup.partitions.load 2).run after.store = (.ok (tables 1 ++ (tables 2 ++ [])), after.store) ∧
          ∀ r ∈ tables 2, r.key.toInt = 2 ∧ 1 ≤ r.value := by
  intro setup requests after
  have hresult : setup.KeepsPartitions := by
    intro index _
    have hdirectory : setup.partitions.directory = ["home", "data"] := by decide +kernel
    have hsegment : (Path.segments setup.partitions.stem.toList).getLastD [] = ['k', 'e', 'y'] := by decide +kernel
    have hlocation : Path.location setup.resultPath = ["home", "data", "result.csv"] := by decide +kernel
    apply Path.not_meet_of_location_ne
    rw [Partitions.location_path, hdirectory, hlocation, Partitions.fileName, hsegment]
    intro heq
    have hname := congrArg String.toList (List.cons.inj (List.cons.inj (List.cons.inj heq).2).2).1
    rw [String.toList_ofList] at hname
    simp at hname
  have hlast : after.session.lastGenerated = some 2 := by decide +kernel
  obtain ⟨-, hloads⟩ := load_takeAll_lastGenerated setup hresult .empty [] requests
  obtain ⟨⟨tables, hload, htables⟩, -⟩ := hloads 2 hlast
  exact ⟨hresult, hlast, tables, hload, (htables 2 (by decide) (by decide)).2⟩

end KeyedFlow
