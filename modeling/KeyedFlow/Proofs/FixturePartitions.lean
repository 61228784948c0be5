import KeyedFlow.Fixture
import KeyedFlow.Proofs.WrittenPartitions

/-!
# Partitions of a fixture

The partitions that a fixture has been saved to are loaded as its tables, whatever was there before
(`Partitions.load_of_save`).  A partition that has been written shows that the directory of the partitions is there, so
one that has not, and of which there is no file, is missing (`Partitions.openFile_of_entry_none`).
-/

namespace KeyedFlow

namespace FileStore

variable {store : FileStore} {location : Location} {content : ByteArray}

/-- Two paths that differ in their last part only go through the same directory, if one of them leads to a file. -/
private theorem follow_of_follow_name {start : Location} {parts : List PathPart} {first second : String}
    (h : store.follow start (parts ++ [.name first]) = .file location content) :
    store.follow start (parts ++ [.name second]) = store.follow (Path.destination start parts) [.name second] := by
  induction parts generalizing start with
  | nil => rfl
  | cons part rest ih =>
    cases part with
    | stay => exact ih h
    | up => exact ih h
    | name name =>
      have hrest : ¬(rest ++ [PathPart.name first]).isEmpty = true := by simp
      rw [List.cons_append, follow] at h
      rw [List.cons_append, follow]
      cases hentry : store.entry (start ++ [name]) with
      | none =>
        rw [hentry] at h
        dsimp only at h
        rw [if_neg hrest] at h
        cases h
      | some entry =>
        rw [hentry] at h
        cases entry with
        | file other =>
          dsimp only at h
          rw [if_neg hrest] at h
          cases h
        | directory => exact ih h

end FileStore

namespace Partitions

variable {partitions : Partitions} {store after : FileStore}

private theorem isImpossible_path (partitions : Partitions) (index : Nat) :
    Path.isImpossible (partitions.path index) = partitions.stem.toList.contains '\x00' := by
  have hdigits : '\x00' ∉ Nat.toDigits 10 index := fun h =>
    absurd (Nat.isDigit_of_mem_toDigits (by decide) (by decide) h) (by decide)
  unfold Path.isImpossible
  rw [toList_path]
  simp [hdigits]

private theorem path_ne_empty (partitions : Partitions) (index : Nat) : (partitions.path index).isEmpty = false := by
  have hlist : (partitions.path index).toList ≠ [] := by simp [toList_path]
  simpa using fun h : partitions.path index = "" => hlist (by rw [h]; rfl)

/-- Next to a partition that is there, one is absent if there is nothing in its place. -/
theorem openFile_of_entry_none {i j : Nat} {location : Location} {content : ByteArray}
    (h : store.resolve (partitions.path i) = .file location content)
    (hnone : store.entry (Path.location (partitions.path j)) = none) :
    store.openFile (partitions.path j) = .absent := by
  obtain ⟨hpossible, -, hfollow⟩ := FileStore.follow_of_resolve h
  rw [isImpossible_path] at hpossible
  rw [origin_path, parts_path] at hfollow
  have hname : store.entry (Path.destination (FileStore.origin partitions.stem)
      ((Path.segments partitions.stem.toList).dropLast.map Path.part) ++ [partitions.fileName j]) = none := by
    rwa [location_path] at hnone
  have hresolve : store.resolve (partitions.path j) = .free (Path.location (partitions.path j)) := by
    unfold FileStore.resolve
    rw [isImpossible_path, hpossible, path_ne_empty, origin_path, parts_path, location_path]
    simp only [Bool.false_eq_true, if_false]
    rw [FileStore.follow_of_follow_name hfollow, FileStore.follow, hname]
    rfl
  unfold FileStore.openFile
  rw [hresolve]

/-- Behind partitions that can be read, one without a file is missing. -/
private theorem run_load_of_absent {count : Nat} {tables : Nat → Table}
    (hread : ∀ i, 1 ≤ i → i ≤ count → ((partitions.read i).run store).1 = .ok (tables i))
    (habsent : store.openFile (partitions.path (count + 1)) = .absent) :
    (partitions.load (count + 1)).run store = (.error (.missingInput (partitions.path (count + 1))), store) := by
  have hmissing : ((partitions.read (count + 1)).run store).1 = .error (.missingInput (partitions.path (count + 1))) :=
    congrArg Prod.fst (Table.run_load_of_absent habsent .absent)
  rw [(partitions.readsOnly_load (count + 1)).run_eq store,
    load_eq_error_iff.2 ⟨count + 1, by omega, le_refl _, hmissing, fun i hlo hi => ⟨_, hread i hlo (by omega)⟩⟩]

end Partitions

namespace PartitionFixture

/-- Partitions are in different files.  A fixture that has been saved is loaded as its tables, as many of them as are
asked for, and no other file has changed; one more partition is missing if there is none.  Whatever the files are, the
first partition that cannot be read decides why partitions are not loaded, and there is no other reason. -/
theorem load_of_save (partitions : Partitions) :
    (∀ i j, i ≠ j → partitions.path i ≠ partitions.path j ∧ ¬Path.Meet (partitions.path i) (partitions.path j)) ∧
    (∀ (fixture : PartitionFixture) (store after : FileStore), (fixture.save partitions).run store = (.ok (), after) →
      let next := partitions.path (fixture.tables.length + 1)
      (∀ count ≤ fixture.tables.length,
        (partitions.load count).run after = (.ok (fixture.tables.take count).flatten, after)) ∧
      (partitions.load fixture.tables.length).run after = (.ok fixture.merged, after) ∧
      (∀ location, (∀ i content, 1 ≤ i → i ≤ fixture.tables.length →
          after.resolve (partitions.path i) ≠ .file location content) →
        after.content? location = store.content? location) ∧
      (after.openFile next = .absent →
        (partitions.load (fixture.tables.length + 1)).run after = (.error (.missingInput next), after)) ∧
      (fixture.tables ≠ [] → after.entry (Path.location next) = none → after.openFile next = .absent)) ∧
    ∀ (store : FileStore) (count : Nat),
      ((∃ failure, ((partitions.load count).run store).1 = .error failure) ↔
        ∃ i failure, 1 ≤ i ∧ i ≤ count ∧ ((partitions.read i).run store).1 = .error failure) ∧
      ∀ i failure, 1 ≤ i → i ≤ count → ((partitions.read i).run store).1 = .error failure →
        (∀ j, 1 ≤ j → j < i → ∃ t, ((partitions.read j).run store).1 = .ok t) →
        (partitions.load count).run store = (.error failure, store) := by
  refine ⟨fun i j h => ?_, ?_, fun store count => ⟨Partitions.exists_load_eq_error_iff, ?_⟩⟩
  · exact ⟨fun hpath => h (partitions.location_injective (congrArg Path.location hpath)), Partitions.not_meet_path h⟩
  · intro fixture store after hsave next
    have hwrites : partitions.Writes store after 1 fixture.tables := Partitions.writes_of_writeFrom hsave
    refine ⟨fun count hcount => hwrites.run_load_take hcount, ?_, fun location hlocation => ?_, fun habsent => ?_,
      fun hne hnone => ?_⟩
    · have hload := hwrites.run_load_take (Nat.le_refl fixture.tables.length)
      rwa [List.take_length] at hload
    · refine hwrites.others location fun i hi heq => ?_
      obtain ⟨place, hresolve⟩ := hwrites.holds i hi
      rw [FileStore.location_of_resolve hresolve, ← heq] at hresolve
      exact hlocation (1 + i) _ (Nat.le_add_right 1 i) (by omega) hresolve
    · exact Partitions.run_load_of_absent (fun i hlo hhi => hwrites.read_eq hlo hhi) habsent
    · obtain ⟨place, hresolve⟩ := hwrites.holds 0 (List.length_pos_of_ne_nil hne)
      exact Partitions.openFile_of_entry_none hresolve hnone
  · intro i failure hlo hhi hread hbelow
    rw [(partitions.readsOnly_load count).run_eq store,
      Partitions.load_eq_error_iff.2 ⟨i, hlo, hhi, hread, hbelow⟩]

/-- Two tables are saved over a longer file and beside another one; a third partition is missing. -/
theorem load_of_save_two :
    let fixture : PartitionFixture := ⟨[[⟨1, 4⟩, ⟨1, 7⟩], [⟨2, 10⟩]]⟩
    let partitions : Partitions := ⟨"in/key1"⟩
    let store : FileStore := ⟨fun location =>
      if location = ["home"] ∨ location = ["home", "in"] then some .directory
      else if location = ["home", "in", "key11.csv"] then some (.file "9,9\n9,9\n9,9\n".toUTF8)
      else if location = ["home", "in", "key1.csv"] then some (.file "keep".toUTF8) else none⟩
    ∃ after, (fixture.save partitions).run store = (.ok (), after) ∧
      (partitions.load 1).run after = (.ok [⟨1, 4⟩, ⟨1, 7⟩], after) ∧
      (partitions.load 2).run after = (.ok [⟨1, 4⟩, ⟨1, 7⟩, ⟨2, 10⟩], after) ∧
      (partitions.load 3).run after = (.error (.missingInput (partitions.path 3)), after) ∧
      after.content? ["home", "in", "key1.csv"] = some "keep".toUTF8 := by
  intro fixture partitions store
  have hsave : ((fixture.save partitions).run store).1 = .ok () := by decide +kernel
  have hnone : (((fixture.save partitions).run store).2.entry (Path.location (partitions.path 3))).isNone := by
    decide +kernel
  have hkeep : store.content? ["home", "in", "key1.csv"] = some "keep".toUTF8 := rfl
  have hone : Path.location (partitions.path 1) ≠ ["home", "in", "key1.csv"] := by decide +kernel
  have htwo : Path.location (partitions.path 2) ≠ ["home", "in", "key1.csv"] := by decide +kernel
  obtain ⟨after, hafter⟩ : ∃ after, after = ((fixture.save partitions).run store).2 := ⟨_, rfl⟩
  have hrun : (fixture.save partitions).run store = (.ok (), after) := Prod.ext hsave hafter.symm
  rw [← hafter] at hnone
  obtain ⟨-, hsaved, -⟩ := load_of_save partitions
  obtain ⟨hload, hmerged, hothers, hmissing, habsent⟩ := hsaved fixture store after hrun
  refine ⟨after, hrun, hload 1 (by decide), hmerged,
    hmissing (habsent (by decide) (Option.isNone_iff_eq_none.1 hnone)), ?_⟩
  rw [hothers ["home", "in", "key1.csv"], hkeep]
  intro i content hlo hhi hresolve
  obtain rfl | rfl : i = 1 ∨ i = 2 := by
    have : i ≤ 2 := hhi
    omega
  · exact hone (FileStore.location_of_resolve hresolve).symm
  · exact htwo (FileStore.location_of_resolve hresolve).symm

end PartitionFixture

end KeyedFlow
