import KeyedFlow.Proofs.ExactArithmetic
import KeyedFlow.Proofs.Groups
import Mathlib

/-!
# What every group is collapsed to

What an aggregate makes of the values of a group is stated without reference to how it goes through them
(`Aggregate.IsValueOf`).  The groups of a table hold its values, each as often as the table does
(`Aggregate.flatMap_groups_perm`), so what is summed or counted over the groups is summed or counted over the table.
-/

namespace KeyedFlow

namespace Aggregate

/-- Whether a number is the value of a group with the given values. -/
def IsValueOf (aggregate : Aggregate) (values : List Int64) (v : Int64) : Prop :=
  match aggregate with
  | .sum => v.toInt ≡ (values.map Int64.toInt).sum [ZMOD 2 ^ 64]
  | .product => v.toInt ≡ (values.map Int64.toInt).prod [ZMOD 2 ^ 64]
  | .min => v ∈ values ∧ ∀ w ∈ values, v ≤ w
  | .max => v ∈ values ∧ ∀ w ∈ values, w ≤ v
  | .count => v.toInt = values.length

private theorem toInt_ofInt_modEq (n : Int) : (Int64.ofInt n).toInt ≡ n [ZMOD 2 ^ 64] := by
  rw [Int64.toInt_ofInt]
  exact Int.bmod_emod

private theorem eq_of_toInt_modEq {v w : Int64} (h : v.toInt ≡ w.toInt [ZMOD 2 ^ 64]) : v = w := by
  have hv := v.le_toInt
  have hv' := v.toInt_lt
  have hw := w.le_toInt
  have hw' := w.toInt_lt
  unfold Int.ModEq at h
  rw [← Int64.toInt_inj]
  omega

private theorem map_ofInt_map_toInt (values : List Int64) : (values.map Int64.toInt).map Int64.ofInt = values := by
  rw [List.map_map, show Int64.ofInt ∘ Int64.toInt = id from funext Int64.ofInt_toInt, List.map_id]

private theorem toInt_clamped_of_lt {n : Nat} (h : n < 2 ^ 63) : (clamped n).toInt = n := by
  rw [toInt_clamped]
  omega

/-- The least of some values is one of them. -/
private theorem min?_combine {values : List Int64} (h : values ≠ []) : values.min? = some (min.combine values) := by
  obtain ⟨v, vs, rfl⟩ := List.exists_cons_of_ne_nil h
  rfl

private theorem max?_combine {values : List Int64} (h : values ≠ []) : values.max? = some (max.combine values) := by
  obtain ⟨v, vs, rfl⟩ := List.exists_cons_of_ne_nil h
  rfl

/-- The least value of a group is one of its values, and no other is less. -/
theorem isValueOf_min {values : List Int64} (h : values ≠ []) : min.IsValueOf values (min.combine values) :=
  List.min?_eq_some_iff.1 (min?_combine h)

/-- The greatest value of a group is one of its values, and no other is greater. -/
theorem isValueOf_max {values : List Int64} (h : values ≠ []) : max.IsValueOf values (max.combine values) :=
  List.max?_eq_some_iff.1 (max?_combine h)

/-- Only counts depend on there not being too many values. -/
theorem isValueOf_combine (aggregate : Aggregate) {values : List Int64} (h : values ≠ [])
    (hlen : aggregate = .count → values.length < 2 ^ 63) : aggregate.IsValueOf values (aggregate.combine values) := by
  cases aggregate with
  | sum =>
    have hsum := combine_sum_ofInt (values.map Int64.toInt)
    rw [map_ofInt_map_toInt] at hsum
    rw [hsum]
    exact toInt_ofInt_modEq _
  | product =>
    have hproduct := combine_product_ofInt (values.map Int64.toInt)
    rw [map_ofInt_map_toInt] at hproduct
    rw [hproduct]
    exact toInt_ofInt_modEq _
  | min => exact isValueOf_min h
  | max => exact isValueOf_max h
  | count => exact toInt_clamped_of_lt (hlen rfl)

/-- A group has one value only. -/
private theorem IsValueOf.unique {aggregate : Aggregate} {values : List Int64} {v w : Int64}
    (hv : aggregate.IsValueOf values v) (hw : aggregate.IsValueOf values w) : v = w := by
  cases aggregate with
  | sum | product => exact eq_of_toInt_modEq (Int.ModEq.trans hv (Int.ModEq.symm hw))
  | min => exact Int64.le_antisymm (hv.2 w hw.1) (hw.2 v hv.1)
  | max => exact Int64.le_antisymm (hw.2 v hv.1) (hv.2 w hw.1)
  | count => exact Int64.toInt_inj.1 (Eq.trans hv (Eq.symm hw))

/-- Whether an aggregate picks the value of a group that comes first in an order. -/
inductive Picks : Aggregate → (Int64 → Int64 → Prop) → Prop where
  | least : Picks .min (· ≤ ·)
  | greatest : Picks .max (· ≥ ·)

/-- The value that is picked is the one of the group that comes before all others. -/
theorem Picks.combine_eq_iff {aggregate : Aggregate} {order : Int64 → Int64 → Prop} (h : aggregate.Picks order)
    {values : List Int64} (hne : values ≠ []) {v : Int64} :
    aggregate.combine values = v ↔ v ∈ values ∧ ∀ w ∈ values, order v w := by
  cases h with
  | least => exact ⟨fun h => h ▸ isValueOf_min hne, (isValueOf_min hne).unique⟩
  | greatest => exact ⟨fun h => h ▸ isValueOf_max hne, (isValueOf_max hne).unique⟩

/-- The records of an outcome are the keys of the table with the values of their groups. -/
private theorem mem_apply_iff {aggregate : Aggregate} {t : Table} (hlen : t.length < 2 ^ 63) {r : Record} :
    r ∈ aggregate.apply t ↔ r.key ∈ t.keys ∧ aggregate.IsValueOf (t.valuesOf r.key) r.value := by
  have hvalue (k : Int64) (hk : k ∈ t.keys) :
      aggregate.IsValueOf (t.valuesOf k) (aggregate.combine (t.valuesOf k)) :=
    aggregate.isValueOf_combine (Table.valuesOf_ne_nil hk) fun _ => Nat.lt_of_le_of_lt (t.length_valuesOf_le k) hlen
  rw [apply_eq, List.mem_map]
  constructor
  · rintro ⟨k, hk, rfl⟩
    have hk := mem_ascendingKeys.1 hk
    exact ⟨hk, hvalue k hk⟩
  · rintro ⟨hkey, hr⟩
    refine ⟨r.key, mem_ascendingKeys.2 hkey, ?_⟩
    rw [(hvalue r.key hkey).unique hr]

/-! ### Over all groups -/

private theorem flatMap_runs (t : Table) : (runs t).flatMap Prod.snd = t.values := by
  induction t with
  | nil => rfl
  | cons r rest ih =>
    have hvalues : Table.values (r :: rest) = r.value :: (runs rest).flatMap Prod.snd := congrArg _ ih.symm
    rw [hvalues, runs]
    cases runs rest with
    | nil => rfl
    | cons group more =>
      obtain ⟨key, values⟩ := group
      dsimp only
      split <;> rfl

/-- The groups of a table hold its values, each as often as the table does. -/
theorem flatMap_groups_perm (t : Table) : ((groups t).flatMap Prod.snd).Perm t.values := by
  unfold groups
  rw [flatMap_runs]
  exact (List.mergeSort_perm t _).map Record.value

private theorem ne_nil_of_mem_groups {t : Table} {group : Int64 × List Int64} (h : group ∈ groups t) :
    group.2 ≠ [] := by
  rw [groups_eq] at h
  obtain ⟨k, hk, rfl⟩ := List.mem_map.1 h
  exact Table.valuesOf_ne_nil (mem_ascendingKeys.1 hk)

private theorem length_le_of_mem_groups {t : Table} {group : Int64 × List Int64} (h : group ∈ groups t) :
    group.2.length ≤ t.length := by
  rw [groups_eq] at h
  obtain ⟨k, -, rfl⟩ := List.mem_map.1 h
  exact t.length_valuesOf_le k

private theorem values_apply (aggregate : Aggregate) (t : Table) :
    Table.values (aggregate.apply t) = (groups t).map fun group => aggregate.combine group.2 := by
  unfold apply Table.values
  rw [List.map_map]
  rfl

private theorem sum_flatMap_snd (gs : List (Int64 × List Int64)) :
    (gs.map fun group => (group.2.map Int64.toInt).sum).sum = ((gs.flatMap Prod.snd).map Int64.toInt).sum := by
  induction gs with
  | nil => rfl
  | cons group rest ih => rw [List.map_cons, List.sum_cons, ih, List.flatMap_cons, List.map_append, List.sum_append]

private theorem sum_modEq {gs : List (Int64 × List Int64)} {f g : Int64 × List Int64 → Int}
    (h : ∀ group ∈ gs, f group ≡ g group [ZMOD 2 ^ 64]) : (gs.map f).sum ≡ (gs.map g).sum [ZMOD 2 ^ 64] := by
  induction gs with
  | nil => exact Int.ModEq.refl _
  | cons group rest ih =>
    rw [List.map_cons, List.map_cons, List.sum_cons, List.sum_cons]
    exact (h group List.mem_cons_self).add (ih fun other hother => h other (List.mem_cons_of_mem _ hother))

/-- Sums keep the total of the values. -/
private theorem sum_values_apply_sum {t : Table} (hlen : t.length < 2 ^ 63) :
    ((Table.values (sum.apply t)).map Int64.toInt).sum ≡ (t.values.map Int64.toInt).sum [ZMOD 2 ^ 64] := by
  have hgroup : ∀ group ∈ groups t,
      (sum.combine group.2).toInt ≡ (group.2.map Int64.toInt).sum [ZMOD 2 ^ 64] := fun group hmem =>
    sum.isValueOf_combine (ne_nil_of_mem_groups hmem) fun _ => Nat.lt_of_le_of_lt (length_le_of_mem_groups hmem) hlen
  have hperm := ((flatMap_groups_perm t).map Int64.toInt).sum_eq
  rw [← hperm, ← sum_flatMap_snd, values_apply, List.map_map]
  exact sum_modEq hgroup

/-- Counts add up to the number of rows. -/
private theorem sum_values_apply_count {t : Table} (hlen : t.length < 2 ^ 63) :
    ((Table.values (count.apply t)).map Int64.toInt).sum = t.length := by
  have hgroup : ∀ group ∈ groups t, (count.combine group.2).toInt = group.2.length := fun group hmem =>
    toInt_clamped_of_lt (Nat.lt_of_le_of_lt (length_le_of_mem_groups hmem) hlen)
  have hlength : ((groups t).map fun group => group.2.length).sum = t.length := by
    have h := (flatMap_groups_perm t).length_eq
    rwa [List.length_flatMap, Table.values, List.length_map] at h
  rw [values_apply, List.map_map, ← hlength, Nat.cast_list_sum, List.map_map]
  exact congrArg List.sum (List.map_congr_left hgroup)

/-- An outcome has every key of the table once, in ascending order and with the value of its group.  Sums keep the total
of the values, counts add up to the number of rows, and no group is without a least and a greatest value. -/
theorem apply_collapses (aggregate : Aggregate) {t : Table} (hlen : t.length < 2 ^ 63) :
    (Table.keys (aggregate.apply t)).Pairwise (· < ·) ∧
    (∀ k, k ∈ Table.keys (aggregate.apply t) ↔ k ∈ t.keys) ∧
    (∀ r, r ∈ aggregate.apply t ↔ r.key ∈ t.keys ∧ aggregate.IsValueOf (t.valuesOf r.key) r.value) ∧
    ((Table.values (sum.apply t)).map Int64.toInt).sum ≡ (t.values.map Int64.toInt).sum [ZMOD 2 ^ 64] ∧
    ((Table.values (count.apply t)).map Int64.toInt).sum = t.length ∧
    ∀ group ∈ groups t, group.2.min? = some (min.combine group.2) ∧ group.2.max? = some (max.combine group.2) := by
  refine ⟨?_, fun k => mem_keys_apply, fun r => mem_apply_iff hlen, sum_values_apply_sum hlen,
    sum_values_apply_count hlen, fun group hmem => ?_⟩
  · rw [keys_apply]
    exact pairwise_ascendingKeys t.keys
  · exact ⟨min?_combine (ne_nil_of_mem_groups hmem), max?_combine (ne_nil_of_mem_groups hmem)⟩

/-- A sum that wraps and a count of two keys whose rows are mixed. -/
theorem apply_collapses_overflow :
    let t : Table := [⟨3, 1⟩, ⟨1, 9223372036854775807⟩, ⟨3, 3⟩, ⟨1, 1⟩]
    t.length < 2 ^ 63 ∧ ⟨1, -9223372036854775808⟩ ∈ sum.apply t ∧ ⟨3, 2⟩ ∈ count.apply t ∧
      ((Table.values (sum.apply t)).map Int64.toInt).sum ≡ 9223372036854775812 [ZMOD 2 ^ 64] ∧
      ((Table.values (count.apply t)).map Int64.toInt).sum = 4 := by
  intro t
  have hlen : t.length < 2 ^ 63 := by decide
  obtain ⟨-, -, hsum, htotal, -⟩ := sum.apply_collapses hlen
  obtain ⟨-, -, hcount, -, hrows, -⟩ := count.apply_collapses hlen
  have hwrapped : sum.IsValueOf (Table.valuesOf t 1) (-9223372036854775808) := by
    show _ ≡ _ [ZMOD _]
    decide
  have htwo : count.IsValueOf (Table.valuesOf t 3) 2 := by
    show _ = _
    decide
  exact ⟨hlen, (hsum _).2 ⟨by decide, hwrapped⟩, (hcount _).2 ⟨by decide, htwo⟩, htotal, hrows⟩

end Aggregate

end KeyedFlow
