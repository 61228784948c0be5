import KeyedFlow.Proofs.Combination
import KeyedFlow.Proofs.GeneratedPartitions
import KeyedFlow.Proofs.Groups

/-!
# Counting generated rows

Every generated partition has the same number of rows, so a key of generated partitions has as many rows as there are
partitions with it, times that number (`Generation.length_valuesOf_flatMap`).  What counting finds is therefore settled
by the numbers of keys and rows alone, whatever has been drawn (`Generation.counts`, `Generation.apply_count`).  Up to
the largest key no two partitions have the same key (`Generation.counts_eq`); those beyond share it.
-/

namespace KeyedFlow

namespace Generation

/-- The keys that are generated, in ascending order and each with the number of its rows. -/
def counts (generation : Generation) : Table :=
  let keys := (List.range' 1 generation.keys.toNat).map clamped
  (ascendingKeys keys).map fun key => ⟨key, clamped (generation.rowsPerKey.toNat * keys.count key)⟩

variable (generation : Generation) (draws : Draws)

private theorem length_table (index : Nat) : (generation.table draws index).length = generation.rowsPerKey.toNat := by
  unfold table
  rw [List.length_map, List.length_range]

/-- Generated partitions have equally many rows each. -/
theorem length_flatMap_table (indices : List Nat) :
    (indices.flatMap (generation.table draws)).length = indices.length * generation.rowsPerKey.toNat := by
  rw [List.length_flatMap]
  simp only [length_table, List.map_const', List.sum_replicate_nat]

/-- All rows of a partition have its key. -/
private theorem length_valuesOf_table (index : Nat) (key : Int64) :
    (Table.valuesOf (generation.table draws index) key).length =
      if clamped index = key then generation.rowsPerKey.toNat else 0 := by
  have hkey : ∀ r ∈ generation.table draws index, r.key = clamped index := by
    intro r hr
    obtain ⟨row, -, rfl⟩ := List.mem_map.1 hr
    rfl
  unfold Table.valuesOf Table.values
  rw [List.length_map]
  split
  · rename_i heq
    rw [List.filter_eq_self.2 fun r hr => by simp [hkey r hr, heq], length_table]
  · rename_i hne
    rw [List.filter_eq_nil_iff.2 fun r hr => by simp [hkey r hr, hne], List.length_nil]

/-- A key has the rows of all partitions whose number is clamped to it. -/
theorem length_valuesOf_flatMap (indices : List Nat) (key : Int64) :
    (Table.valuesOf (indices.flatMap (generation.table draws)) key).length =
      generation.rowsPerKey.toNat * (indices.map clamped).count key := by
  induction indices with
  | nil => rfl
  | cons index rest ih =>
    rw [List.flatMap_cons, Table.valuesOf_append, List.length_append, length_valuesOf_table, ih, List.map_cons,
      List.count_cons]
    by_cases hindex : clamped index = key
    · rw [if_pos hindex, if_pos (beq_iff_eq.2 hindex), Nat.mul_add, Nat.mul_one, Nat.add_comm]
    · rw [if_neg hindex, if_neg (by simpa using hindex), Nat.add_zero, Nat.zero_add]

variable {generation}

private theorem mem_keys_flatMap (hrows : 1 ≤ generation.rowsPerKey) (indices : List Nat) (key : Int64) :
    key ∈ Table.keys (indices.flatMap (generation.table draws)) ↔ key ∈ indices.map clamped := by
  have hpos : 0 < generation.rowsPerKey.toNat := UInt64.le_iff_toNat_le.1 hrows
  have hlength := generation.length_valuesOf_flatMap draws indices key
  rw [← not_iff_not, ← Table.valuesOf_eq_nil_iff, ← List.count_eq_zero, ← List.length_eq_zero_iff, hlength]
  simp [hpos.ne']

/-- Counting all generated rows by key gives the counts of the generation. -/
theorem apply_count (hrows : 1 ≤ generation.rowsPerKey) :
    Aggregate.count.apply ((List.range' 1 generation.keys.toNat).flatMap (generation.table draws)) =
      generation.counts := by
  rw [Aggregate.apply_eq, ascendingKeys_congr (generation.mem_keys_flatMap draws hrows _)]
  unfold counts
  dsimp only [Aggregate.combine]
  simp only [length_valuesOf_flatMap]

/-- There is one key for every number up to the largest key. -/
private theorem ascendingKeys_clamped (count : Nat) :
    ascendingKeys ((List.range' 1 count).map clamped) =
      (List.range' 1 (min count 0x7FFFFFFFFFFFFFFF)).map clamped := by
  apply ascendingKeys_eq
  · rw [List.pairwise_map]
    refine (List.pairwise_lt_range' 1).imp_of_mem fun {i j} hi hj hij => ?_
    have hi := (List.mem_range'_1.1 hi).2
    have hj := (List.mem_range'_1.1 hj).2
    rw [Int64.lt_iff_toInt_lt, toInt_clamped, toInt_clamped]
    omega
  · intro key
    constructor
    · intro hkey
      obtain ⟨index, hindex, rfl⟩ := List.mem_map.1 hkey
      have hindex := List.mem_range'_1.1 hindex
      refine List.mem_map.2 ⟨min index 0x7FFFFFFFFFFFFFFF, List.mem_range'_1.2 (by omega), ?_⟩
      rw [← Int64.toInt_inj, toInt_clamped, toInt_clamped]
      omega
    · intro hkey
      obtain ⟨index, hindex, rfl⟩ := List.mem_map.1 hkey
      have hindex := List.mem_range'_1.1 hindex
      exact List.mem_map_of_mem (List.mem_range'_1.2 (by omega))

/-- A generation has a key for every partition, up to the largest key. -/
theorem length_counts (generation : Generation) :
    generation.counts.length = min generation.keys.toNat 0x7FFFFFFFFFFFFFFF := by
  unfold counts
  dsimp only
  rw [ascendingKeys_clamped, List.length_map, List.length_map, List.length_range']

/-- Up to the largest key every key is that of one partition. -/
theorem counts_eq (hkeys : generation.keys.toNat < 2 ^ 63) (hrows : generation.rowsPerKey.toNat < 2 ^ 63) :
    generation.counts = (List.range' 1 generation.keys.toNat).map fun index =>
      ⟨Int64.ofNat index, Int64.ofNat generation.rowsPerKey.toNat⟩ := by
  have hkeys' : ascendingKeys ((List.range' 1 generation.keys.toNat).map clamped) =
      (List.range' 1 generation.keys.toNat).map clamped := by
    rw [ascendingKeys_clamped, min_eq_left (by omega)]
  have hnodup : ((List.range' 1 generation.keys.toNat).map clamped).Nodup := by
    rw [← hkeys']
    exact nodup_ascendingKeys _
  unfold counts
  dsimp only
  rw [hkeys', List.map_map]
  apply List.map_congr_left
  intro index hindex
  have hlt := (List.mem_range'_1.1 hindex).2
  rw [Function.comp_apply, List.count_eq_one_of_mem hnodup (List.mem_map_of_mem hindex), Nat.mul_one,
    clamped_of_lt hrows, clamped_of_lt (by omega)]

end Generation

end KeyedFlow
