import KeyedFlow.Record
import Mathlib.Data.List.Dedup

/-!
# Ascending keys

The keys of a table, each once and in ascending order, are a function of the set of its keys (`ascendingKeys_congr`):
there is only one strictly ascending list with given members (`ascendingKeys_eq`).
-/

namespace KeyedFlow

/-- The members of a list of keys, each once and in ascending order. -/
def ascendingKeys (keys : List Int64) : List Int64 :=
  keys.dedup.mergeSort (· ≤ ·)

theorem mem_ascendingKeys {keys : List Int64} {k : Int64} : k ∈ ascendingKeys keys ↔ k ∈ keys := by
  unfold ascendingKeys
  rw [List.mem_mergeSort, List.mem_dedup]

theorem nodup_ascendingKeys (keys : List Int64) : (ascendingKeys keys).Nodup :=
  (List.mergeSort_perm _ _).nodup_iff.2 keys.nodup_dedup

theorem pairwise_ascendingKeys (keys : List Int64) : (ascendingKeys keys).Pairwise (· < ·) := by
  have hle : (ascendingKeys keys).Pairwise fun a b => decide (a ≤ b) = true := by
    apply List.pairwise_mergeSort
    · intro a b c hab hbc
      simp only [decide_eq_true_eq] at hab hbc ⊢
      exact Int64.le_trans hab hbc
    · intro a b
      simpa using Int64.le_total a b
  have hne : (ascendingKeys keys).Pairwise (· ≠ ·) := nodup_ascendingKeys keys
  refine (hle.and hne).imp fun ⟨hab, hdiff⟩ => ?_
  exact Int64.lt_of_le_of_ne (by simpa using hab) hdiff

private theorem nodup_of_ascending {l : List Int64} (h : l.Pairwise (· < ·)) : l.Nodup :=
  h.imp Int64.ne_of_lt

/-- A strictly ascending list is determined by its members. -/
theorem ascendingKeys_eq {keys l : List Int64} (h : l.Pairwise (· < ·)) (hmem : ∀ k, k ∈ keys ↔ k ∈ l) :
    ascendingKeys keys = l := by
  have hperm : (ascendingKeys keys).Perm l := by
    rw [List.perm_ext_iff_of_nodup (nodup_ascendingKeys keys) (nodup_of_ascending h)]
    intro k
    rw [mem_ascendingKeys, hmem]
  have hantisymm : ∀ a b, a ∈ ascendingKeys keys → b ∈ l → a < b → b < a → a = b := by
    intro a b _ _ hab hba
    exact absurd hba (Int64.lt_asymm hab)
  exact hperm.eq_of_pairwise hantisymm (pairwise_ascendingKeys keys) h

/-- Lists with the same keys have the same keys in ascending order. -/
theorem ascendingKeys_congr {keys more : List Int64} (h : ∀ k, k ∈ keys ↔ k ∈ more) :
    ascendingKeys keys = ascendingKeys more :=
  ascendingKeys_eq (pairwise_ascendingKeys more) fun k => (h k).trans mem_ascendingKeys.symm

@[simp] theorem ascendingKeys_nil : ascendingKeys [] = [] :=
  ascendingKeys_eq .nil fun _ => Iff.rfl

/-- A key that is not above the others comes first, and only once. -/
theorem ascendingKeys_cons {k : Int64} {keys : List Int64} (h : ∀ a ∈ keys, k ≤ a) :
    ascendingKeys (k :: keys) = if k ∈ keys then ascendingKeys keys else k :: ascendingKeys keys := by
  split
  · rename_i hk
    apply ascendingKeys_congr
    intro a
    rw [List.mem_cons]
    exact ⟨fun ha => ha.elim (fun e => e ▸ hk) id, Or.inr⟩
  · rename_i hk
    apply ascendingKeys_eq
    · refine List.pairwise_cons.2 ⟨fun a ha => ?_, pairwise_ascendingKeys keys⟩
      have ha' := mem_ascendingKeys.1 ha
      exact Int64.lt_of_le_of_ne (h a ha') fun e => hk (e ▸ ha')
    · intro a
      rw [List.mem_cons, List.mem_cons, mem_ascendingKeys]

/-- Listing keys in ascending order does not add any. -/
theorem length_ascendingKeys_le (keys : List Int64) : (ascendingKeys keys).length ≤ keys.length := by
  unfold ascendingKeys
  rw [List.length_mergeSort]
  exact (List.dedup_sublist keys).length_le

end KeyedFlow
