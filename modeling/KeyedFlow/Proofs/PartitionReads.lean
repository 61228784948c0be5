import KeyedFlow.Proofs.RunStages
import KeyedFlow.Proofs.StandingFiles
import Mathlib.Data.List.Basic

/-!
# What loading partitions reads

Partitions are read one after the other.  They are loaded, as one table, when each of them can be read
(`Partitions.load_eq_ok_iff`), and otherwise the first that cannot be read decides the failure
(`Partitions.load_eq_error_iff`), whatever the partitions behind it hold.
-/

namespace KeyedFlow

namespace Partitions

variable {partitions : Partitions} {store other : FileStore}

/-- A partition is read alike from stores that have the same file at its path. -/
theorem read_congr {index : Nat} (h : other.openFile (partitions.path index) = store.openFile (partitions.path index)) :
    ((partitions.read index).run other).1 = ((partitions.read index).run store).1 :=
  Table.load_congr h .absent

private theorem readsOnly_read (partitions : Partitions) (index : Nat) : (partitions.read index).ReadsOnly :=
  Table.readsOnly_load _ _

private theorem result_loadFrom_succ (index count : Nat) :
    ((partitions.loadFrom index (count + 1)).run store).1 =
      match ((partitions.read index).run store).1 with
      | .error failure => .error failure
      | .ok t => (((partitions.loadFrom (index + 1) count).run store).1).map (t ++ ·) := by
  rw [loadFrom, DiskAction.run_bind, (partitions.readsOnly_read index).run_eq store]
  cases ((partitions.read index).run store).1 with
  | error failure => rfl
  | ok t =>
    dsimp only
    rw [DiskAction.run_bind]
    cases ((partitions.loadFrom (index + 1) count).run store).1 <;> rfl

private theorem loadFrom_eq_ok_iff {index count : Nat} {t : Table} :
    ((partitions.loadFrom index count).run store).1 = .ok t ↔
      ∃ tables : Nat → Table, t = (List.range' index count).flatMap tables ∧
        ∀ i, index ≤ i → i < index + count → ((partitions.read i).run store).1 = .ok (tables i) := by
  induction count generalizing index t with
  | zero =>
    constructor
    · intro h
      cases h
      exact ⟨fun _ => [], rfl, fun i hlo hhi => absurd hhi (by omega)⟩
    · rintro ⟨tables, rfl, -⟩
      rfl
  | succ count ih =>
    rw [result_loadFrom_succ]
    constructor
    · intro h
      cases hread : ((partitions.read index).run store).1 with
      | error failure =>
        rw [hread] at h
        cases h
      | ok first =>
        rw [hread] at h
        dsimp only at h
        cases hrest : ((partitions.loadFrom (index + 1) count).run store).1 with
        | error failure =>
          rw [hrest] at h
          cases h
        | ok rest =>
          rw [hrest] at h
          cases h
          obtain ⟨tables, rfl, htables⟩ := ih.1 hrest
          -- the tables behind the first are those of the rest
          refine ⟨fun i => if i = index then first else tables i, ?_, fun i hlo hhi => ?_⟩
          · rw [List.range'_succ, List.flatMap_cons, if_pos rfl]
            congr 1
            apply List.flatMap_congr
            intro i hi
            have hlo := (List.mem_range'_1.1 hi).1
            rw [if_neg (by omega)]
          · dsimp only
            by_cases hi : i = index
            · rw [if_pos hi, hi, hread]
            · rw [if_neg hi]
              exact htables i (by omega) (by omega)
    · rintro ⟨tables, rfl, htables⟩
      have hrest : ((partitions.loadFrom (index + 1) count).run store).1 =
          .ok ((List.range' (index + 1) count).flatMap tables) :=
        ih.2 ⟨tables, rfl, fun i hlo hhi => htables i (by omega) (by omega)⟩
      rw [htables index (Nat.le_refl index) (by omega)]
      dsimp only
      rw [hrest]
      rfl

/-- The first partition that cannot be read decides why partitions are not loaded. -/
private theorem loadFrom_eq_error_iff {index count : Nat} {failure : Failure} :
    ((partitions.loadFrom index count).run store).1 = .error failure ↔
      ∃ j, index ≤ j ∧ j < index + count ∧ ((partitions.read j).run store).1 = .error failure ∧
        ∀ i, index ≤ i → i < j → ∃ t, ((partitions.read i).run store).1 = .ok t := by
  induction count generalizing index with
  | zero =>
    constructor
    · intro h
      cases h
    · rintro ⟨j, hlo, hhi, -⟩
      omega
  | succ count ih =>
    rw [result_loadFrom_succ]
    cases hread : ((partitions.read index).run store).1 with
    | error first =>
      constructor
      · intro h
        cases h
        exact ⟨index, Nat.le_refl index, by omega, hread, fun i hlo hhi => absurd hhi (by omega)⟩
      · rintro ⟨j, hlo, -, hfail, hbelow⟩
        rcases Nat.eq_or_lt_of_le hlo with rfl | hlt
        · rw [hread] at hfail
          rw [Except.error.inj hfail]
        · obtain ⟨t, ht⟩ := hbelow index (Nat.le_refl index) hlt
          rw [hread] at ht
          cases ht
    | ok first =>
      dsimp only
      have hmap : (((partitions.loadFrom (index + 1) count).run store).1).map (first ++ ·) = .error failure ↔
          ((partitions.loadFrom (index + 1) count).run store).1 = .error failure := by
        cases ((partitions.loadFrom (index + 1) count).run store).1 <;> simp [Except.map]
      rw [hmap, ih]
      constructor
      · rintro ⟨j, hlo, hhi, hfail, hbelow⟩
        refine ⟨j, by omega, by omega, hfail, fun i hi hij => ?_⟩
        by_cases hindex : i = index
        · exact ⟨first, hindex ▸ hread⟩
        · exact hbelow i (by omega) hij
      · rintro ⟨j, hlo, hhi, hfail, hbelow⟩
        have hne : j ≠ index := by
          rintro rfl
          rw [hread] at hfail
          cases hfail
        exact ⟨j, by omega, by omega, hfail, fun i hi hij => hbelow i (by omega) hij⟩

/-- Partitions are loaded exactly when each of them can be read, as the tables of all of them, joined in order. -/
theorem load_eq_ok_iff {count : Nat} {t : Table} :
    ((partitions.load count).run store).1 = .ok t ↔
      ∃ tables : Nat → Table, t = (List.range' 1 count).flatMap tables ∧
        ∀ i, 1 ≤ i → i ≤ count → ((partitions.read i).run store).1 = .ok (tables i) := by
  have hrange : ∀ i, i < 1 + count ↔ i ≤ count := fun i => by omega
  unfold load
  simp only [loadFrom_eq_ok_iff, hrange]

/-- Partitions fail to be loaded with the failure of the first that cannot be read. -/
theorem load_eq_error_iff {count : Nat} {failure : Failure} :
    ((partitions.load count).run store).1 = .error failure ↔
      ∃ j, 1 ≤ j ∧ j ≤ count ∧ ((partitions.read j).run store).1 = .error failure ∧
        ∀ i, 1 ≤ i → i < j → ∃ t, ((partitions.read i).run store).1 = .ok t := by
  have hrange : ∀ i, i < 1 + count ↔ i ≤ count := fun i => by omega
  unfold load
  simp only [loadFrom_eq_error_iff, hrange]

/-- Partitions are loaded, or one of them cannot be read. -/
theorem exists_load_eq_error_iff {count : Nat} :
    (∃ failure, ((partitions.load count).run store).1 = .error failure) ↔
      ∃ i failure, 1 ≤ i ∧ i ≤ count ∧ ((partitions.read i).run store).1 = .error failure := by
  constructor
  · rintro ⟨failure, h⟩
    obtain ⟨j, hlo, hhi, hj, -⟩ := load_eq_error_iff.1 h
    exact ⟨j, failure, hlo, hhi, hj⟩
  · rintro ⟨i, failure, hlo, hhi, hi⟩
    cases hload : ((partitions.load count).run store).1 with
    | error first => exact ⟨first, rfl⟩
    | ok t =>
      obtain ⟨tables, -, htables⟩ := load_eq_ok_iff.1 hload
      rw [htables i hlo hhi] at hi
      cases hi

/-- Partitions that can be read are loaded, and the store is left as it is. -/
theorem run_load_of_read {count : Nat} {tables : Nat → Table}
    (h : ∀ i, 1 ≤ i → i ≤ count → ((partitions.read i).run store).1 = .ok (tables i)) :
    (partitions.load count).run store = (.ok ((List.range' 1 count).flatMap tables), store) := by
  rw [(partitions.readsOnly_load count).run_eq store, load_eq_ok_iff.2 ⟨tables, rfl, h⟩]

end Partitions

end KeyedFlow
