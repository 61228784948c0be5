import KeyedFlow.Proofs.Groups
import Mathlib.Algebra.Ring.Nat
import Mathlib.Data.List.Perm.Basic

/-!
# Combining values

The value of a group does not depend on the order of its values (`Aggregate.combine_perm`), and it can be computed from
the values of two parts of the group (`Aggregate.combine_append`).  Except for counts, which stop at the largest number,
a group is a fold of one associative and commutative operation over its values (`Aggregate.combine_cons`).
-/

namespace KeyedFlow

private theorem max_eq_ite (a b : Int64) : max a b = if a ≤ b then b else a := rfl

instance lawfulOrderLeftLeaningMaxInt64 : Std.LawfulOrderLeftLeaningMax Int64 where
  max_eq_left a b h := by
    rw [max_eq_ite]
    split
    · rename_i hab
      exact Int64.le_antisymm h hab
    · rfl
  max_eq_right a b h := by
    rw [max_eq_ite, if_pos ((Int64.le_total a b).resolve_right h)]

private theorem max_comm_int64 (a b : Int64) : max a b = max b a := by
  rw [max_eq_ite, max_eq_ite]
  by_cases hab : a ≤ b <;> by_cases hba : b ≤ a
  · rw [if_pos hab, if_pos hba, Int64.le_antisymm hab hba]
  · rw [if_pos hab, if_neg hba]
  · rw [if_neg hab, if_pos hba]
  · exact absurd ((Int64.le_total a b).resolve_left hab) hba

/-- A number below 2 ^ 63 is clamped to itself. -/
theorem clamped_of_lt {n : Nat} (h : n < 2 ^ 63) : clamped n = Int64.ofNat n := by
  have hmin : Nat.min n 0x7FFFFFFFFFFFFFFF = n := Nat.min_eq_left (by omega)
  rw [clamped, hmin]

namespace Aggregate

/-- The operation that joins the values of two parts of a group. -/
def merge : Aggregate → Int64 → Int64 → Int64
  | .sum, a, b => a + b
  | .product, a, b => a * b
  | .min, a, b => Min.min a b
  | .max, a, b => Max.max a b
  | .count, a, b => a + b

/-- The aggregate that joins the outcomes of parts of a table: counts are added up, the others join themselves. -/
def combiner : Aggregate → Aggregate
  | .count => .sum
  | aggregate => aggregate

/-- Outcomes are never joined by counting them. -/
theorem combiner_ne_count (aggregate : Aggregate) : aggregate.combiner ≠ .count := by
  cases aggregate <;> simp [combiner]

/-- A combiner joins the values of two parts as its aggregate does. -/
theorem merge_combiner (aggregate : Aggregate) : aggregate.combiner.merge = aggregate.merge := by
  cases aggregate <;> rfl

private theorem merge_comm (aggregate : Aggregate) (a b : Int64) : aggregate.merge a b = aggregate.merge b a := by
  cases aggregate with
  | sum => exact Int64.add_comm a b
  | product => exact Int64.mul_comm a b
  | min =>
    show Min.min a b = Min.min b a
    exact Std.Commutative.comm a b
  | max => exact max_comm_int64 a b
  | count => exact Int64.add_comm a b

private theorem merge_assoc (aggregate : Aggregate) (a b c : Int64) :
    aggregate.merge (aggregate.merge a b) c = aggregate.merge a (aggregate.merge b c) := by
  cases aggregate with
  | sum => exact Int64.add_assoc a b c
  | product => exact Int64.mul_assoc a b c
  | min =>
    show Min.min (Min.min a b) c = Min.min a (Min.min b c)
    exact Std.Associative.assoc a b c
  | max =>
    show Max.max (Max.max a b) c = Max.max a (Max.max b c)
    exact Std.Associative.assoc a b c
  | count => exact Int64.add_assoc a b c

/-- The value of a group is a fold over its values, starting with the first. -/
theorem combine_cons {aggregate : Aggregate} (h : aggregate ≠ .count) (v : Int64) (vs : List Int64) :
    aggregate.combine (v :: vs) = vs.foldl aggregate.merge v := by
  cases aggregate with
  | sum =>
    show vs.foldl (· + ·) (0 + v) = vs.foldl (· + ·) v
    rw [Int64.zero_add]
  | product =>
    show vs.foldl (· * ·) (1 * v) = vs.foldl (· * ·) v
    rw [Int64.one_mul]
  | min => rfl
  | max => rfl
  | count => exact absurd rfl h

/-- The outcome of a single part is left as it is. -/
theorem combine_combiner_singleton (aggregate : Aggregate) (v : Int64) : aggregate.combiner.combine [v] = v :=
  combine_cons aggregate.combiner_ne_count v []

/-- The value of a group does not depend on the order of its values. -/
theorem combine_perm (aggregate : Aggregate) {vs ws : List Int64} (h : vs.Perm ws) :
    aggregate.combine vs = aggregate.combine ws := by
  by_cases hcount : aggregate = .count
  · subst hcount
    simp [combine, h.length_eq]
  · induction h with
    | nil => rfl
    | @cons v vs ws h _ =>
      rw [combine_cons hcount, combine_cons hcount]
      apply h.foldl_eq'
      intro a _ b _ c
      rw [merge_assoc, merge_comm _ a b, ← merge_assoc]
    | swap v w vs =>
      rw [combine_cons hcount, combine_cons hcount, List.foldl_cons, List.foldl_cons, merge_comm]
    | trans _ _ ih₁ ih₂ => exact ih₁.trans ih₂

private theorem foldl_merge (aggregate : Aggregate) (a v : Int64) (vs : List Int64) :
    vs.foldl aggregate.merge (aggregate.merge a v) = aggregate.merge a (vs.foldl aggregate.merge v) := by
  induction vs generalizing v with
  | nil => rfl
  | cons w vs ih => rw [List.foldl_cons, List.foldl_cons, merge_assoc, ih]

/-- The value of a group from the values of two parts of it.  A count is right as long as it is below 2 ^ 63. -/
theorem combine_append (aggregate : Aggregate) {vs ws : List Int64} (hvs : vs ≠ []) (hws : ws ≠ [])
    (hlen : aggregate = .count → vs.length + ws.length < 2 ^ 63) :
    aggregate.combine (vs ++ ws) = aggregate.merge (aggregate.combine vs) (aggregate.combine ws) := by
  by_cases hcount : aggregate = .count
  · have h := hlen hcount
    subst hcount
    simp only [combine, merge, List.length_append]
    rw [clamped_of_lt h, clamped_of_lt (by omega), clamped_of_lt (by omega), Int64.ofNat_add]
  · obtain ⟨v, vs, rfl⟩ := List.exists_cons_of_ne_nil hvs
    obtain ⟨w, ws, rfl⟩ := List.exists_cons_of_ne_nil hws
    rw [List.cons_append, combine_cons hcount, combine_cons hcount, combine_cons hcount, List.foldl_append,
      List.foldl_cons, foldl_merge]

/-- An aggregate does not depend on the order of the records. -/
theorem apply_perm (aggregate : Aggregate) {t u : Table} (h : t.Perm u) : aggregate.apply t = aggregate.apply u := by
  have hkeys : ascendingKeys t.keys = ascendingKeys u.keys :=
    ascendingKeys_congr fun k => (h.map Record.key).mem_iff
  rw [apply_eq, apply_eq, hkeys]
  apply List.map_congr_left
  intro k _
  rw [aggregate.combine_perm (Table.valuesOf_perm h k)]

end Aggregate

end KeyedFlow
