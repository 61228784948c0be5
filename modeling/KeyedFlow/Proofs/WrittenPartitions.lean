import KeyedFlow.Generation
import KeyedFlow.Proofs.PartitionReads
import KeyedFlow.Proofs.RecordRoundTrip

/-!
# Written partitions

Partitions are written one after the other, up to the first that cannot be written.  The ones before it hold their
tables then, and every other file keeps its content (`Partitions.Writes`, `Partitions.run_writeFrom`).  Of partitions
that have been written, any number of first ones is loaded (`Partitions.Writes.run_load_take`).  Generation writes its
tables in just this way (`Generation.writeFrom_eq`, `Generation.run_perform`).
-/

namespace KeyedFlow

namespace Partitions

/-- Whether a partition is there as a table is written. -/
def Holds (partitions : Partitions) (store : FileStore) (index : Nat) (t : Table) : Prop :=
  ∃ location, store.resolve (partitions.path index) = .file location (RecordFile.encode t).toUTF8

/-- Whether a store comes from another by writing tables to the partitions from `index` on. -/
structure Writes (partitions : Partitions) (store after : FileStore) (index : Nat) (tables : List Table) : Prop where
  holds : ∀ i (hi : i < tables.length), partitions.Holds after (index + i) tables[i]
  others : ∀ location, (∀ i < tables.length, location ≠ Path.location (partitions.path (index + i))) →
    after.content? location = store.content? location
  directories : ∀ location, store.entry location = some .directory → after.entry location = some .directory

variable {partitions : Partitions} {store between after : FileStore} {index : Nat} {t : Table} {tables : List Table}

/-- A partition is read as the table that it holds. -/
theorem Holds.run_read (h : partitions.Holds store index t) : (partitions.read index).run store = (.ok t, store) := by
  obtain ⟨location, hresolve⟩ := h
  unfold read
  rw [Table.run_load (FileStore.openFile_of_resolve hresolve), RecordFile.decode_encode]

/-- No two partitions are in the same file. -/
theorem not_meet_path {i j : Nat} (h : i ≠ j) : ¬Path.Meet (partitions.path i) (partitions.path j) :=
  Path.not_meet_of_location_ne fun heq => h (partitions.location_injective heq)

namespace Writes

/-- Writing no tables may still make directories. -/
private theorem nil {places : List Location} (h : store.AddsDirectories after places) :
    partitions.Writes store after index [] where
  holds _ hi := absurd hi (Nat.not_lt_zero _)
  others location _ := (h location).content?_eq
  directories location hdirectory := by
    rcases h location with hkept | ⟨-, hnone, -⟩
    · rw [hkept, hdirectory]
    · rw [hdirectory] at hnone
      cases hnone

/-- A path that leads to none of the partitions leads to its file as before. -/
theorem resolve_eq (h : partitions.Writes store after index tables) {path : String} {location : Location}
    {content : ByteArray} (hresolve : store.resolve path = .file location content)
    (hmeet : ∀ i < tables.length, ¬Path.Meet path (partitions.path (index + i))) :
    after.resolve path = .file location content := by
  have hcontent : after.content? location = store.content? location := by
    refine h.others location fun i hi heq => hmeet i hi ?_
    -- at the location of a partition the path would lead to what has been written there
    obtain ⟨place, hholds⟩ := h.holds i hi
    have hplace : place = location := (FileStore.location_of_resolve hholds).trans heq.symm
    rw [hplace] at hholds
    have hpath := FileStore.resolve_of_kept h.directories hresolve (FileStore.content?_of_resolve hholds)
    exact ⟨after, location, _, hpath, hholds⟩
  exact FileStore.resolve_of_kept h.directories hresolve (hcontent.trans (FileStore.content?_of_resolve hresolve))

private theorem cons {location : Location}
    (hput : store.PutsFile between (partitions.path index) (RecordFile.encode t).toUTF8 location)
    (hdirectories : ∀ other, store.entry other = some .directory → between.entry other = some .directory)
    (h : partitions.Writes between after (index + 1) tables) : partitions.Writes store after index (t :: tables) where
  holds i hi := by
    cases i with
    | zero => exact ⟨location, h.resolve_eq hput.resolve_eq fun i _ => not_meet_path (by omega)⟩
    | succ i =>
      have hholds := h.holds i (Nat.lt_of_succ_lt_succ hi)
      rw [Nat.add_right_comm] at hholds
      exact hholds
  others other hother := by
    have hne : other ≠ location := by
      rw [FileStore.location_of_resolve hput.resolve_eq]
      exact hother 0 (Nat.zero_lt_succ _)
    have hrest : after.content? other = between.content? other := by
      refine h.others other fun i hi => ?_
      have := hother (i + 1) (Nat.succ_lt_succ hi)
      rwa [show index + (i + 1) = index + 1 + i by omega] at this
    exact hrest.trans (hput.others other hne).content?_eq
  directories other hother := h.directories other (hdirectories other hother)

end Writes

private theorem run_writeFrom_cons (h : (partitions.write index t).run store = (.ok (), between)) :
    (partitions.writeFrom index (t :: tables)).run store = (partitions.writeFrom (index + 1) tables).run between := by
  rw [writeFrom, DiskAction.run_bind, h]

/-- Writing partitions succeeds with all tables written, or fails at one that cannot be, behind the tables before it. -/
theorem run_writeFrom (partitions : Partitions) (index : Nat) (tables : List Table) (store : FileStore) :
    (∃ after, (partitions.writeFrom index tables).run store = (.ok (), after) ∧
      partitions.Writes store after index tables) ∨
    ∃ written t rest after, tables = written ++ t :: rest ∧
      (partitions.writeFrom index tables).run store = (.error .storage, after) ∧
      partitions.Writes store after index written ∧
      ∃ between, (partitions.writeFrom index written).run store = (.ok (), between) ∧
        (partitions.write (index + written.length) t).run between = (.error .storage, after) := by
  induction tables generalizing index store with
  | nil => exact Or.inl ⟨store, rfl, .nil (.refl store [])⟩
  | cons t tables ih =>
    have hdirectories : ∀ other, store.entry other = some .directory →
        ((partitions.write index t).run store).2.entry other = some .directory :=
      fun _ => DiskAction.directory_run (partitions.write index t) store
    rcases Table.run_save (partitions.path index) t store with ⟨after, hrun, hafter⟩ | ⟨between, location, hrun, hput⟩
    · right
      refine ⟨[], t, tables, after, rfl, ?_, .nil hafter, store, rfl, hrun⟩
      rw [writeFrom, DiskAction.run_bind, show (partitions.write index t).run store = _ from hrun]
      rfl
    · have hrun : (partitions.write index t).run store = (.ok (), between) := hrun
      rw [hrun] at hdirectories
      rw [run_writeFrom_cons hrun]
      rcases ih (index + 1) between with
        ⟨after, hrest, h⟩ | ⟨written, u, rest, after, rfl, hrest, h, reached, hreached, hfails⟩
      · left
        exact ⟨after, hrest, h.cons hput hdirectories⟩
      · right
        rw [Nat.add_right_comm] at hfails
        exact ⟨t :: written, u, rest, after, rfl, hrest, h.cons hput hdirectories, reached,
          (run_writeFrom_cons hrun).trans hreached, hfails⟩

/-- Writing partitions that succeeds has written all its tables. -/
theorem writes_of_writeFrom (h : (partitions.writeFrom index tables).run store = (.ok (), after)) :
    partitions.Writes store after index tables := by
  rcases partitions.run_writeFrom index tables store with ⟨_, hrun, hwrites⟩ | ⟨_, _, _, _, -, hrun, -⟩
  · rw [hrun] at h
    cases h
    exact hwrites
  · rw [hrun] at h
    cases h

/-- A partition that has been written is read as its table. -/
theorem Writes.read_eq (h : partitions.Writes store after 1 tables) {i : Nat} (hlo : 1 ≤ i) (hhi : i ≤ tables.length) :
    ((partitions.read i).run after).1 = .ok (tables.getD (i - 1) []) := by
  have hi : i - 1 < tables.length := by omega
  have hholds := h.holds (i - 1) hi
  rw [Nat.add_sub_cancel' hlo] at hholds
  rw [hholds.run_read, List.getD_eq_getElem _ _ hi]

/-- Any number of first partitions that have been written are loaded as their tables. -/
theorem Writes.run_load_take (h : partitions.Writes store after 1 tables) {count : Nat}
    (hcount : count ≤ tables.length) :
    (partitions.load count).run after = (.ok (tables.take count).flatten, after) := by
  have htables : (List.range' 1 count).map (fun i => tables.getD (i - 1) []) = tables.take count := by
    apply List.ext_getElem
    · simp [hcount]
    · intro i hi hi'
      rw [List.length_map, List.length_range'] at hi
      simp [Nat.lt_of_lt_of_le hi hcount]
  rw [← htables, ← List.flatMap_def]
  exact run_load_of_read fun i hlo hhi => h.read_eq hlo (Nat.le_trans hhi hcount)

/-- All partitions that have been written are loaded as their tables. -/
theorem Writes.run_load {count : Nat} {f : Nat → Table}
    (h : partitions.Writes store after 1 ((List.range' 1 count).map f)) :
    (partitions.load count).run after = (.ok ((List.range' 1 count).flatMap f), after) := by
  have hlength : ((List.range' 1 count).map f).length = count := by rw [List.length_map, List.length_range']
  have hload := h.run_load_take (Nat.le_of_eq hlength.symm)
  rwa [List.take_of_length_le (Nat.le_of_eq hlength), ← List.flatMap_def] at hload

end Partitions

namespace Generation

variable {generation : Generation} {draws : Draws} {partitions : Partitions} {store : FileStore}

/-- A generation writes its partitions as tables are written. -/
theorem writeFrom_eq (generation : Generation) (draws : Draws) (partitions : Partitions) (index count : Nat) :
    generation.writeFrom draws partitions index count =
      partitions.writeFrom index ((List.range' index count).map (generation.table draws)) := by
  induction count generalizing index with
  | zero => rfl
  | succ count ih =>
    rw [writeFrom, List.range'_succ, List.map_cons, Partitions.writeFrom]
    congr 1
    funext result
    cases result with
    | error failure => rfl
    | ok written => exact ih (index + 1)

/-- The tables of all partitions that are generated. -/
def tables (generation : Generation) (draws : Draws) : List Table :=
  (List.range' 1 generation.keys.toNat).map (generation.table draws)

theorem length_tables (generation : Generation) (draws : Draws) :
    (generation.tables draws).length = generation.keys.toNat := by
  unfold tables
  rw [List.length_map, List.length_range']

/-- The partitions before one of those generated, and that one itself. -/
private theorem tables_eq_append {written rest : List Table} {t : Table}
    (h : generation.tables draws = written ++ t :: rest) :
    written.length < generation.keys.toNat ∧ written = (List.range' 1 written.length).map (generation.table draws) ∧
      t = generation.table draws (1 + written.length) := by
  unfold tables at h
  obtain ⟨before, behind, hsplit, rfl, hbehind⟩ := List.map_eq_append_iff.1 h
  obtain ⟨count, hcount, rfl, rfl⟩ := List.range'_eq_append_iff.1 hsplit
  rw [List.length_map, List.length_range']
  cases hrest : generation.keys.toNat - count with
  | zero =>
    rw [hrest] at hbehind
    cases hbehind
  | succ rest =>
    rw [hrest, List.range'_succ, List.map_cons] at hbehind
    injection hbehind with ht
    rw [Nat.mul_one] at ht
    exact ⟨by omega, rfl, ht.symm⟩

/-- A generation without a value to draw leaves the store as it is.  Any other writes all its tables, or fails at one
that cannot be written, behind the tables before it. -/
theorem run_perform (generation : Generation) (draws : Draws) (partitions : Partitions) (store : FileStore) :
    (generation.maxValue < 1 ∧ (generation.perform draws partitions).run store =
      (.error (.invalidDocument partitions.stem
        ("max value must be at least 1, got " ++ toString generation.maxValue)), store)) ∨
    (1 ≤ generation.maxValue ∧ ∃ after, (generation.perform draws partitions).run store = (.ok generation.keys, after) ∧
      partitions.Writes store after 1 (generation.tables draws)) ∨
    1 ≤ generation.maxValue ∧ ∃ count after, count < generation.keys.toNat ∧
      (generation.perform draws partitions).run store = (.error .storage, after) ∧
      partitions.Writes store after 1 ((List.range' 1 count).map (generation.table draws)) ∧
      ∃ between, (generation.writeFrom draws partitions 1 count).run store = (.ok (), between) ∧
        (partitions.write (count + 1) (generation.table draws (count + 1))).run between = (.error .storage, after) := by
  unfold perform
  split
  · rename_i hmax
    left
    exact ⟨hmax, rfl⟩
  · rename_i hmax
    right
    have hmax : 1 ≤ generation.maxValue := Int64.not_lt.1 hmax
    have hwriteFrom : generation.writeFrom draws partitions 1 generation.keys.toNat =
        partitions.writeFrom 1 (generation.tables draws) := generation.writeFrom_eq draws partitions 1 _
    rw [DiskAction.run_bind, hwriteFrom]
    rcases partitions.run_writeFrom 1 (generation.tables draws) store with
      ⟨after, hrun, hwrites⟩ | ⟨written, t, rest, after, htables, hrun, hwrites, between, hbetween, hwrite⟩
    · left
      rw [hrun]
      exact ⟨hmax, after, rfl, hwrites⟩
    · right
      obtain ⟨hlt, hwritten, rfl⟩ := tables_eq_append htables
      rw [hwritten] at hwrites hbetween
      rw [← writeFrom_eq] at hbetween
      rw [Nat.add_comm] at hwrite
      rw [hrun]
      exact ⟨hmax, written.length, after, hlt, rfl, hwrites, between, hbetween, hwrite⟩

/-- A generation that succeeds has written all its tables. -/
theorem writes_of_perform {count : UInt64}
    (h : ((generation.perform draws partitions).run store).1 = .ok count) :
    partitions.Writes store ((generation.perform draws partitions).run store).2 1 (generation.tables draws) := by
  rcases generation.run_perform draws partitions store with
    ⟨-, hrun⟩ | ⟨-, after, hrun, hwrites⟩ | ⟨-, _, _, -, hrun, -⟩
  · rw [hrun] at h
    cases h
  · rwa [hrun]
  · rw [hrun] at h
    cases h

/-- A generation, successful or not, leaves a file alone that is in the place of none of its partitions. -/
theorem resolve_perform {path : String} {location : Location} {content : ByteArray}
    (h : store.resolve path = .file location content)
    (hmeet : ∀ index, 1 ≤ index → index ≤ generation.keys.toNat → ¬Path.Meet path (partitions.path index)) :
    ((generation.perform draws partitions).run store).2.resolve path = .file location content := by
  have hwritten : ∀ {after : FileStore} {count : Nat}, count ≤ generation.keys.toNat →
      partitions.Writes store after 1 ((List.range' 1 count).map (generation.table draws)) →
      after.resolve path = .file location content := by
    intro after count hcount hwrites
    refine hwrites.resolve_eq h fun i hi => hmeet (1 + i) (Nat.le_add_right 1 i) ?_
    rw [List.length_map, List.length_range'] at hi
    omega
  rcases generation.run_perform draws partitions store with
    ⟨-, hrun⟩ | ⟨-, after, hrun, hwrites⟩ | ⟨-, count, after, hlt, hrun, hwrites, -⟩
  · rwa [hrun]
  · rw [hrun]
    exact hwritten (Nat.le_refl _) hwrites
  · rw [hrun]
    exact hwritten (Nat.le_of_lt hlt) hwrites

end Generation

end KeyedFlow
