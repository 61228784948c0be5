import KeyedFlow.Proofs.WrittenPartitions

/-!
# Generated partitions

A generated partition has its number as the key of all its rows, and positive values only.  Once it has been generated,
a partition stays so when partitions are generated again (`Generation.holdsGenerated_perform`): even a generation that
fails on its way leaves every generated partition generated.  Generated partitions can be loaded
(`Partitions.run_load_of_holdsGenerated`).
-/

namespace KeyedFlow

/-- Whether a table can be that of a generated partition. -/
def Table.IsGenerated (index : Nat) (t : Table) : Prop :=
  ∀ r ∈ t, r.key = clamped index ∧ 1 ≤ r.value

/-- Whether a partition is there and holds a table that can be generated. -/
def Partitions.HoldsGenerated (partitions : Partitions) (store : FileStore) (index : Nat) : Prop :=
  ∃ location t, store.resolve (partitions.path index) = .file location (RecordFile.encode t).toUTF8 ∧
    t.IsGenerated index

namespace Generation

/-- A generated value is the remainder of a drawn word, counted from one. -/
theorem toInt_value {generation : Generation} (h : 1 ≤ generation.maxValue) (word : UInt64) :
    (generation.value word).toInt = ↑(word.toNat % generation.maxValue.toInt.toNat + 1) := by
  have hmax : 1 ≤ generation.maxValue.toInt := Int64.le_iff_toInt_le.1 h
  have hlt := generation.maxValue.toInt_lt
  have hmod := Nat.mod_lt word.toNat (show 0 < generation.maxValue.toInt.toNat by omega)
  exact Int64.toInt_ofNat_of_lt (by omega)

/-- Generated values lie between one and the maximum. -/
theorem value_mem {generation : Generation} (h : 1 ≤ generation.maxValue) (word : UInt64) :
    1 ≤ generation.value word ∧ generation.value word ≤ generation.maxValue := by
  have hmax : 1 ≤ generation.maxValue.toInt := Int64.le_iff_toInt_le.1 h
  have hmod := Nat.mod_lt word.toNat (show 0 < generation.maxValue.toInt.toNat by omega)
  rw [Int64.le_iff_toInt_le, Int64.le_iff_toInt_le, toInt_value h]
  show (1 : Int) ≤ _ ∧ _
  omega

private theorem isGenerated_table {generation : Generation} (h : 1 ≤ generation.maxValue) (draws : Draws)
    (index : Nat) : (generation.table draws index).IsGenerated index := by
  intro r hr
  unfold table at hr
  obtain ⟨row, -, rfl⟩ := List.mem_map.1 hr
  exact ⟨rfl, (value_mem h _).1⟩

private theorem isGenerated_tables {generation : Generation} (h : 1 ≤ generation.maxValue) (draws : Draws)
    (count i : Nat) (hi : i < ((List.range' 1 count).map (generation.table draws)).length) :
    ((List.range' 1 count).map (generation.table draws))[i].IsGenerated (1 + i) := by
  rw [List.getElem_map, List.getElem_range', Nat.one_mul]
  exact isGenerated_table h draws (1 + i)

end Generation

namespace Partitions

variable {partitions : Partitions} {store after : FileStore} {index : Nat} {tables : List Table}

/-- Writing tables that can be generated leaves all partitions generated that have been so. -/
private theorem Writes.holdsGenerated (h : partitions.Writes store after index tables)
    (htables : ∀ i (hi : i < tables.length), tables[i].IsGenerated (index + i)) {j : Nat}
    (hj : partitions.HoldsGenerated store j) : partitions.HoldsGenerated after j := by
  by_cases hwritten : ∃ i < tables.length, j = index + i
  · obtain ⟨i, hi, rfl⟩ := hwritten
    obtain ⟨location, hresolve⟩ := h.holds i hi
    exact ⟨location, _, hresolve, htables i hi⟩
  · obtain ⟨location, t, hresolve, ht⟩ := hj
    refine ⟨location, t, h.resolve_eq hresolve fun i hi => not_meet_path ?_, ht⟩
    rintro rfl
    exact hwritten ⟨i, hi, rfl⟩

/-- Generated partitions are loaded, and each of them is read as a table that can be generated. -/
theorem run_load_of_holdsGenerated {count : Nat}
    (h : ∀ i, 1 ≤ i → i ≤ count → partitions.HoldsGenerated store i) :
    ∃ tables : Nat → Table, (partitions.load count).run store = (.ok ((List.range' 1 count).flatMap tables), store) ∧
      ∀ i, 1 ≤ i → i ≤ count → (partitions.read i).run store = (.ok (tables i), store) ∧ (tables i).IsGenerated i := by
  have hread : ∀ i, 1 ≤ i → i ≤ count →
      ∃ t, (partitions.read i).run store = (.ok t, store) ∧ Table.IsGenerated i t := by
    intro i hlo hhi
    obtain ⟨location, t, hresolve, ht⟩ := h i hlo hhi
    exact ⟨t, Holds.run_read ⟨location, hresolve⟩, ht⟩
  choose! tables htables using hread
  exact ⟨tables, run_load_of_read fun i hlo hhi => congrArg Prod.fst (htables i hlo hhi).1, htables⟩

end Partitions

/-- A generation leaves all partitions generated that have been so, and if it succeeds, its own partitions. -/
theorem Generation.holdsGenerated_perform (generation : Generation) (draws : Draws) (partitions : Partitions)
    (store : FileStore) :
    let result := (generation.perform draws partitions).run store
    (∀ i, partitions.HoldsGenerated store i → partitions.HoldsGenerated result.2 i) ∧
      ∀ count, result.1 = .ok count →
        count = generation.keys ∧ ∀ i, 1 ≤ i → i ≤ count.toNat → partitions.HoldsGenerated result.2 i := by
  intro result
  have hresult : result = (generation.perform draws partitions).run store := rfl
  rcases generation.run_perform draws partitions store with
    ⟨-, hrun⟩ | ⟨hmax, after, hrun, hwrites⟩ | ⟨hmax, reached, after, hlt, hrun, hwrites, -⟩
  · rw [hresult, hrun]
    refine ⟨fun _ hi => hi, fun count hok => ?_⟩
    cases hok
  · have hgenerated := isGenerated_tables hmax draws generation.keys.toNat
    rw [hresult, hrun]
    refine ⟨fun i hi => hwrites.holdsGenerated hgenerated hi, fun count hok => ?_⟩
    cases hok
    refine ⟨rfl, fun i hlo hhi => ?_⟩
    have hi : i - 1 < (generation.tables draws).length := by
      rw [length_tables]
      omega
    obtain ⟨location, hresolve⟩ := hwrites.holds (i - 1) hi
    have htable := hgenerated (i - 1) hi
    rw [Nat.add_sub_cancel' hlo] at hresolve htable
    exact ⟨location, _, hresolve, htable⟩
  · rw [hresult, hrun]
    refine ⟨fun i hi => hwrites.holdsGenerated (isGenerated_tables hmax draws reached) hi, fun count hok => ?_⟩
    cases hok

end KeyedFlow
