import KeyedFlow.Operator.Aggregate
import KeyedFlow.Proofs.Keys

/-!
# Groups

Sorting a table by key and dividing it into runs gives every key of the table, in ascending order, with the values of
its records in table order (`Aggregate.groups_eq`).  So an aggregate is a function of the set of keys and of the values
of each key (`Aggregate.apply_eq`), and its outcome is read key by key (`Aggregate.valuesOf_apply`).
-/

namespace KeyedFlow

namespace Table

/-- The values of a key, in table order. -/
def valuesOf (t : Table) (k : Int64) : List Int64 :=
  Table.values (t.filter fun r => r.key = k)

@[simp] theorem valuesOf_nil (k : Int64) : valuesOf [] k = [] := rfl

private theorem valuesOf_cons (r : Record) (t : Table) (k : Int64) :
    valuesOf (r :: t) k = if r.key = k then r.value :: valuesOf t k else valuesOf t k := by
  unfold valuesOf Table.values
  by_cases h : r.key = k <;> simp [h]

/-- The values of a key in a joined table are those in its parts, in order. -/
theorem valuesOf_append (t u : Table) (k : Int64) : valuesOf (t ++ u) k = valuesOf t k ++ valuesOf u k := by
  simp [valuesOf, Table.values]

/-- Reordering a table reorders the values of every key. -/
theorem valuesOf_perm {t u : Table} (h : t.Perm u) (k : Int64) : (valuesOf t k).Perm (valuesOf u k) :=
  (h.filter _).map _

theorem length_valuesOf_le (t : Table) (k : Int64) : (valuesOf t k).length ≤ t.length := by
  unfold valuesOf Table.values
  rw [List.length_map]
  exact List.length_filter_le _ t

/-- A key has no values exactly when no record has it. -/
theorem valuesOf_eq_nil_iff {t : Table} {k : Int64} : valuesOf t k = [] ↔ k ∉ t.keys := by
  simp [valuesOf, Table.values, Table.keys, List.filter_eq_nil_iff]

/-- A key of a table has values. -/
theorem valuesOf_ne_nil {t : Table} {k : Int64} (h : k ∈ t.keys) : valuesOf t k ≠ [] :=
  fun hnil => valuesOf_eq_nil_iff.1 hnil h

end Table

namespace Aggregate

/-- The order in which tables are sorted before they are divided into runs. -/
private def keyLe (r s : Record) : Bool :=
  r.key ≤ s.key

private theorem keyLe_trans (r s u : Record) (h₁ : keyLe r s = true) (h₂ : keyLe s u = true) :
    keyLe r u = true := by
  simp only [keyLe, decide_eq_true_eq] at h₁ h₂ ⊢
  exact Int64.le_trans h₁ h₂

private theorem keyLe_total (r s : Record) : (keyLe r s || keyLe s r) = true := by
  simpa [keyLe] using Int64.le_total r.key s.key

/-- The records of one key are in order before sorting, so sorting keeps them in order. -/
private theorem valuesOf_mergeSort (t : Table) (k : Int64) :
    Table.valuesOf (t.mergeSort keyLe) k = Table.valuesOf t k := by
  have hsorted : (t.filter fun r => r.key = k).Pairwise fun r s => keyLe r s = true := by
    apply List.pairwise_of_forall_mem_list
    intro r hr s hs
    simp only [List.mem_filter, decide_eq_true_eq] at hr hs
    simp [keyLe, hr.2, hs.2]
  have hsub : (t.filter fun r => r.key = k).Sublist ((t.mergeSort keyLe).filter fun r => r.key = k) := by
    have h := (List.sublist_mergeSort keyLe_trans keyLe_total hsorted List.filter_sublist).filter
      (fun r => decide (r.key = k))
    rwa [List.filter_filter, show (fun r : Record => decide (r.key = k) && decide (r.key = k)) =
      fun r => decide (r.key = k) by funext r; simp] at h
  have hlen := ((List.mergeSort_perm t keyLe).filter fun r => r.key = k).length_eq
  unfold Table.valuesOf
  rw [hsub.eq_of_length hlen.symm]

private theorem keys_mergeSort (t : Table) (k : Int64) : k ∈ Table.keys (t.mergeSort keyLe) ↔ k ∈ t.keys :=
  ((List.mergeSort_perm t keyLe).map Record.key).mem_iff

/-- A further record changes the values of its own key only. -/
private theorem map_valuesOf_cons {r : Record} {rest : Table} {ks : List Int64} (h : r.key ∉ ks) :
    ks.map (fun k => (k, Table.valuesOf (r :: rest) k)) = ks.map fun k => (k, Table.valuesOf rest k) := by
  apply List.map_congr_left
  intro k hk
  have hne : r.key ≠ k := fun e => h (e ▸ hk)
  simp [Table.valuesOf_cons, hne]

/-- The runs of a table that is sorted by key. -/
private theorem runs_eq {t : Table} (h : t.Pairwise fun r s => r.key ≤ s.key) :
    runs t = (ascendingKeys t.keys).map fun k => (k, t.valuesOf k) := by
  induction t with
  | nil => simp [runs, Table.keys]
  | cons r rest ih =>
    rw [List.pairwise_cons] at h
    have hmin : ∀ k ∈ Table.keys rest, r.key ≤ k := by
      intro k hk
      obtain ⟨s, hs, rfl⟩ := List.mem_map.1 hk
      exact h.1 s hs
    have hkeys : Table.keys (r :: rest) = r.key :: Table.keys rest := rfl
    have hasc := pairwise_ascendingKeys (Table.keys rest)
    have hmem : ∀ k, k ∈ ascendingKeys (Table.keys rest) ↔ k ∈ Table.keys rest := fun k => mem_ascendingKeys
    unfold runs
    rw [ih h.2, hkeys, ascendingKeys_cons hmin]
    generalize ascendingKeys (Table.keys rest) = ks at hasc hmem ⊢
    cases ks with
    | nil =>
      have hnone : r.key ∉ Table.keys rest := fun hr => by simpa using (hmem r.key).2 hr
      simp [hnone, Table.valuesOf_cons, Table.valuesOf_eq_nil_iff.2 hnone]
    | cons k more =>
      rw [List.pairwise_cons] at hasc
      by_cases hk : r.key = k
      · -- the record belongs to the first run of the rest
        subst hk
        have hin : r.key ∈ Table.keys rest := (hmem r.key).1 (List.mem_cons_self ..)
        have hmore : r.key ∉ more := fun hr => Int64.lt_irrefl (hasc.1 _ hr)
        simp only [List.map_cons, hin, ↓reduceIte]
        rw [map_valuesOf_cons hmore, Table.valuesOf_cons, if_pos rfl]
      · -- the record begins a run of its own
        have hlt : r.key < k := Int64.lt_of_le_of_ne (hmin k ((hmem k).1 (List.mem_cons_self ..))) hk
        have hks : r.key ∉ k :: more := by
          intro hr
          rcases List.mem_cons.1 hr with e | hr
          · exact hk e
          · exact Int64.lt_asymm hlt (hasc.1 _ hr)
        have hnone : r.key ∉ Table.keys rest := fun hr => hks ((hmem r.key).2 hr)
        have hright : (r.key :: k :: more).map (fun k => (k, Table.valuesOf (r :: rest) k)) =
            (r.key, [r.value]) :: (k :: more).map fun k => (k, Table.valuesOf rest k) := by
          rw [List.map_cons, map_valuesOf_cons hks, Table.valuesOf_cons, if_pos rfl,
            Table.valuesOf_eq_nil_iff.2 hnone]
        rw [if_neg hnone, hright]
        simp [hk]

/-- Every key of a table, in ascending order, with its values in table order. -/
theorem groups_eq (t : Table) : groups t = (ascendingKeys t.keys).map fun k => (k, t.valuesOf k) := by
  have hsorted : (t.mergeSort keyLe).Pairwise fun r s => r.key ≤ s.key :=
    (List.pairwise_mergeSort keyLe_trans keyLe_total t).imp fun h => by simpa [keyLe] using h
  have hkeys : ascendingKeys (Table.keys (t.mergeSort keyLe)) = ascendingKeys t.keys :=
    ascendingKeys_congr (keys_mergeSort t)
  calc groups t = runs (t.mergeSort keyLe) := rfl
    _ = (ascendingKeys t.keys).map fun k => (k, Table.valuesOf (t.mergeSort keyLe) k) := by
        rw [runs_eq hsorted, hkeys]
    _ = (ascendingKeys t.keys).map fun k => (k, t.valuesOf k) := by
        simp only [valuesOf_mergeSort]

/-- The outcome of an aggregate, key by key. -/
theorem apply_eq (aggregate : Aggregate) (t : Table) :
    aggregate.apply t = (ascendingKeys t.keys).map fun k => ⟨k, aggregate.combine (t.valuesOf k)⟩ := by
  unfold apply
  rw [groups_eq, List.map_map]
  rfl

/-- The keys of an outcome are those of the table, in ascending order. -/
theorem keys_apply (aggregate : Aggregate) (t : Table) :
    Table.keys (aggregate.apply t) = ascendingKeys t.keys := by
  rw [apply_eq, Table.keys, List.map_map]
  exact List.map_id _

theorem mem_keys_apply {aggregate : Aggregate} {t : Table} {k : Int64} :
    k ∈ Table.keys (aggregate.apply t) ↔ k ∈ t.keys := by
  rw [keys_apply, mem_ascendingKeys]

/-- An outcome has no more rows than the table. -/
theorem length_apply_le (aggregate : Aggregate) (t : Table) : (aggregate.apply t).length ≤ t.length := by
  have h := length_ascendingKeys_le t.keys
  rw [Table.keys, List.length_map] at h
  rwa [apply_eq, List.length_map]

/-- A key of the table has one value in the outcome, any other key none. -/
theorem valuesOf_apply (aggregate : Aggregate) (t : Table) (k : Int64) :
    Table.valuesOf (aggregate.apply t) k = if k ∈ t.keys then [aggregate.combine (t.valuesOf k)] else [] := by
  rw [apply_eq, Table.valuesOf, Table.values, List.filter_map, List.map_map]
  have hfilter : (ascendingKeys t.keys).filter ((fun r : Record => decide (r.key = k)) ∘ fun a =>
      ⟨a, aggregate.combine (t.valuesOf a)⟩) = List.replicate ((ascendingKeys t.keys).count k) k :=
    List.filter_eq k
  rw [hfilter]
  by_cases hk : k ∈ t.keys
  · have hcount := List.count_eq_one_of_mem (nodup_ascendingKeys t.keys) (mem_ascendingKeys.2 hk)
    simp [hcount, hk]
  · have hcount := List.count_eq_zero.2 (fun h => hk (mem_ascendingKeys.1 h))
    simp [hcount, hk]

end Aggregate

end KeyedFlow
