import KeyedFlow.Proofs.GroupValues
import KeyedFlow.Proofs.NamedStages
import KeyedFlow.Proofs.Replacement

/-!
# Filters that change places

A `FILTER` looks at the values only, so it makes no difference whether another `FILTER` or a `CHANGEKEY` is before it
or behind it.  It can be exchanged with a `REDUCE` that picks a value of each group, if its condition holds of whatever
comes before a value of which it holds, in the order in which values are picked (`Condition.apply_aggregate`): a group
in which the condition holds of some value then has such a value picked, and a group without one vanishes in both ways.
Hence these operations can change places in every pipeline (`Operation.MovesFilter`), and two `FILTER`s with opposite
conditions divide a table (`Pipeline.run_movesFilter_of_build`).
-/

namespace KeyedFlow

namespace Condition

variable (condition other : Condition) (t : Table)

private theorem apply_comm : condition.apply (other.apply t) = other.apply (condition.apply t) :=
  List.filter_comm ..

private theorem apply_rekey (formula : Formula) :
    condition.apply (formula.rekey t) = formula.rekey (condition.apply t) :=
  List.filter_map

private theorem apply_apply : condition.apply (condition.apply t) = condition.apply t := by
  unfold apply
  rw [List.filter_filter]
  simp only [Bool.and_self]

private theorem valuesOf_apply (k : Int64) :
    Table.valuesOf (condition.apply t) k = (t.valuesOf k).filter condition.holds := by
  unfold apply Table.valuesOf Table.values
  rw [List.filter_comm, List.filter_map]
  rfl

variable {condition t}

private theorem mem_keys_apply {k : Int64} :
    k ∈ Table.keys (condition.apply t) ↔ ∃ v ∈ t.valuesOf k, condition.holds v = true := by
  rw [← not_iff_not, ← Table.valuesOf_eq_nil_iff, valuesOf_apply, List.filter_eq_nil_iff]
  simp

section

variable {aggregate : Aggregate} {order : Int64 → Int64 → Prop} (h : aggregate.Picks order)
  (hbefore : ∀ v w, order v w → condition.holds w = true → condition.holds v = true) {values : List Int64}

include h

include hbefore in
/-- The condition holds of the value that is picked if it holds of any value of the group. -/
private theorem holds_combine_iff (hne : values ≠ []) :
    condition.holds (aggregate.combine values) = true ↔ ∃ v ∈ values, condition.holds v = true := by
  obtain ⟨hmem, hfirst⟩ := (h.combine_eq_iff hne).1 rfl
  exact ⟨fun hholds => ⟨_, hmem, hholds⟩, fun ⟨v, hv, hholds⟩ => hbefore _ v (hfirst v hv) hholds⟩

/-- If the condition holds of the value that is picked, the same value is picked without those it does not hold of. -/
private theorem combine_filter (hne : values ≠ []) (hholds : condition.holds (aggregate.combine values) = true) :
    aggregate.combine (values.filter condition.holds) = aggregate.combine values := by
  obtain ⟨hmem, hfirst⟩ := (h.combine_eq_iff hne).1 rfl
  have hmem' : aggregate.combine values ∈ values.filter condition.holds := List.mem_filter.2 ⟨hmem, hholds⟩
  rw [h.combine_eq_iff (List.ne_nil_of_mem hmem')]
  exact ⟨hmem', fun w hw => hfirst w (List.mem_filter.1 hw).1⟩

include hbefore

/-- The keys that remain are those from whose groups a value is picked of which the condition holds. -/
private theorem ascendingKeys_apply (t : Table) : ascendingKeys (Table.keys (condition.apply t)) =
    (ascendingKeys t.keys).filter fun k => condition.holds (aggregate.combine (t.valuesOf k)) := by
  apply ascendingKeys_eq ((pairwise_ascendingKeys t.keys).filter _)
  intro k
  rw [List.mem_filter, mem_ascendingKeys, mem_keys_apply]
  constructor
  · rintro ⟨v, hv, hholds⟩
    have hne := List.ne_nil_of_mem hv
    exact ⟨not_not.1 (mt Table.valuesOf_eq_nil_iff.2 hne), (holds_combine_iff h hbefore hne).2 ⟨v, hv, hholds⟩⟩
  · rintro ⟨hk, hholds⟩
    exact (holds_combine_iff h hbefore (Table.valuesOf_ne_nil hk)).1 hholds

/-- Picking a value of each group can be exchanged with a condition that holds of whatever comes before a value of which
it holds. -/
theorem apply_aggregate (t : Table) : condition.apply (aggregate.apply t) = aggregate.apply (condition.apply t) := by
  have hleft : condition.apply (aggregate.apply t) =
      ((ascendingKeys t.keys).filter fun k => condition.holds (aggregate.combine (t.valuesOf k))).map fun k =>
        ⟨k, aggregate.combine (t.valuesOf k)⟩ := by
    rw [Aggregate.apply_eq]
    exact List.filter_map
  rw [hleft, Aggregate.apply_eq, ascendingKeys_apply h hbefore]
  -- both sides have the same keys now, and their groups keep the values that are picked
  apply List.map_congr_left
  intro k hk
  obtain ⟨hmem, hholds⟩ := List.mem_filter.1 hk
  rw [valuesOf_apply, combine_filter h (Table.valuesOf_ne_nil (mem_ascendingKeys.1 hmem)) hholds]

end

private theorem apply_append_perm {other : Condition} (h : ∀ v, other.holds v = !condition.holds v) (t : Table) :
    (condition.apply t ++ other.apply t).Perm t := by
  have hright : other.apply t = t.filter fun r => !condition.holds r.value := by
    unfold apply
    simp only [h]
  rw [hright]
  exact List.filter_append_perm (fun r => condition.holds r.value) t

end Condition

/-! ### Functions by name -/

/-- The pairs of calls that name opposite conditions. -/
inductive Call.Opposite : Call → Call → Prop where
  | parity {a b : Call} (ha : a.name = "IS_EVEN") (hb : b.name = "IS_ODD") : Opposite a b
  | less {a b : Call} {p : Int64} (ha : a.name = "LT") (hb : b.name = "GTE") (hap : a.integer = .ok p)
    (hbp : b.integer = .ok p) : Opposite a b
  | greater {a b : Call} {p : Int64} (ha : a.name = "GT") (hb : b.name = "LTE") (hap : a.integer = .ok p)
    (hbp : b.integer = .ok p) : Opposite a b

/-- Opposite conditions never hold of the same value, and one of them always does. -/
private theorem Call.Opposite.exists_condition {a b : Call} (h : Opposite a b) :
    ∃ condition other, Condition.ofCall a = .ok condition ∧ Condition.ofCall b = .ok other ∧
      ∀ v, other.holds v = !condition.holds v := by
  cases h with
  | parity ha hb =>
    exact ⟨.isEven, .isOdd, Condition.ofCall_eq_ok_iff.2 ⟨ha, by simp [Condition.bound?]⟩,
      Condition.ofCall_eq_ok_iff.2 ⟨hb, by simp [Condition.bound?]⟩, fun v => rfl⟩
  | @less p ha hb hap hbp =>
    exact ⟨.less p, .atLeast p, Condition.ofCall_eq_ok_iff.2 ⟨ha, by simpa [Condition.bound?] using hap⟩,
      Condition.ofCall_eq_ok_iff.2 ⟨hb, by simpa [Condition.bound?] using hbp⟩,
      fun v => by simp [Condition.holds, ← Int64.not_lt]⟩
  | @greater p ha hb hap hbp =>
    exact ⟨.greater p, .atMost p, Condition.ofCall_eq_ok_iff.2 ⟨ha, by simpa [Condition.bound?] using hap⟩,
      Condition.ofCall_eq_ok_iff.2 ⟨hb, by simpa [Condition.bound?] using hbp⟩,
      fun v => by simp [Condition.holds, ← Int64.not_lt]⟩

/-- What is above a value that is above a bound is above the bound. -/
private theorem Condition.holds_of_ge {condition : Condition} (hname : condition.name = "GT" ∨ condition.name = "GTE")
    (v w : Int64) (hvw : v ≥ w) (hw : condition.holds w = true) : condition.holds v = true := by
  cases condition with
  | greater p => exact decide_eq_true (Int64.lt_of_lt_of_le (of_decide_eq_true hw) hvw)
  | atLeast p => exact decide_eq_true (Int64.le_trans (of_decide_eq_true hw) hvw)
  | isEven | isOdd | less p | atMost p => simp [name] at hname

private theorem Condition.holds_of_le {condition : Condition} (hname : condition.name = "LT" ∨ condition.name = "LTE")
    (v w : Int64) (hvw : v ≤ w) (hw : condition.holds w = true) : condition.holds v = true := by
  cases condition with
  | less p => exact decide_eq_true (Int64.lt_of_le_of_lt hvw (of_decide_eq_true hw))
  | atMost p => exact decide_eq_true (Int64.le_trans hvw (of_decide_eq_true hw))
  | isEven | isOdd | greater p | atLeast p => simp [name] at hname

namespace Operation

variable {rounding : Rounding} {f g : String}

private theorem commute_filter_filter : Commute rounding ⟨"FILTER", f⟩ ⟨"FILTER", g⟩ := by
  intro s u hs hu t
  obtain ⟨condition, -, rfl⟩ := compile_filter_eq_ok_iff.1 hs
  obtain ⟨other, -, rfl⟩ := compile_filter_eq_ok_iff.1 hu
  exact condition.apply_comm other t

private theorem commute_filter_changeKey : Commute rounding ⟨"FILTER", f⟩ ⟨"CHANGEKEY", g⟩ := by
  intro s u hs hu t
  obtain ⟨condition, -, rfl⟩ := compile_filter_eq_ok_iff.1 hs
  obtain ⟨formula, -, rfl⟩ := compile_changeKey_eq_ok_iff.1 hu
  exact condition.apply_rekey t formula

private theorem commute_filter_reduce {aggregate : Aggregate} {order : Int64 → Int64 → Prop} (h : aggregate.Picks order)
    (hg : (Call.parse g).name = aggregate.name)
    (hbefore : ∀ condition : Condition, (Call.parse f).name = condition.name →
      ∀ v w, order v w → condition.holds w = true → condition.holds v = true) :
    Commute rounding ⟨"FILTER", f⟩ ⟨"REDUCE", g⟩ := by
  intro s u hs hu t
  obtain ⟨condition, hcondition, rfl⟩ := compile_filter_eq_ok_iff.1 hs
  obtain ⟨found, hfound, rfl⟩ := compile_reduce_eq_ok_iff.1 hu
  cases (Aggregate.ofCall_eq_ok_iff.2 hg).symm.trans hfound
  exact Condition.apply_aggregate h (hbefore condition (Condition.ofCall_eq_ok_iff.1 hcondition).1) t

private theorem replaces_filter_twice : Replaces rounding [⟨"FILTER", f⟩] [⟨"FILTER", f⟩, ⟨"FILTER", f⟩] := by
  intro stages hstages
  obtain ⟨s, hs, rfl⟩ := resolve_singleton.1 hstages
  obtain ⟨condition, -, rfl⟩ := compile_filter_eq_ok_iff.1 hs
  exact ⟨_, resolve_pair.2 ⟨_, _, hs, hs, rfl⟩, condition.apply_apply⟩

private theorem replaces_filter_once : Replaces rounding [⟨"FILTER", f⟩, ⟨"FILTER", f⟩] [⟨"FILTER", f⟩] := by
  intro stages hstages
  obtain ⟨s, u, hs, hu, rfl⟩ := resolve_pair.1 hstages
  cases hs.symm.trans hu
  obtain ⟨condition, -, rfl⟩ := compile_filter_eq_ok_iff.1 hs
  exact ⟨_, resolve_singleton.2 ⟨_, hs, rfl⟩, fun t => (condition.apply_apply t).symm⟩

/-- The operations around a `FILTER` that can be put in the place of one another. -/
inductive MovesFilter : List Operation → List Operation → Prop where
  | filter {f g : String} : MovesFilter [⟨"FILTER", f⟩, ⟨"FILTER", g⟩] [⟨"FILTER", g⟩, ⟨"FILTER", f⟩]
  | changeKey {f g : String} : MovesFilter [⟨"FILTER", f⟩, ⟨"CHANGEKEY", g⟩] [⟨"CHANGEKEY", g⟩, ⟨"FILTER", f⟩]
  | twice {f : String} : MovesFilter [⟨"FILTER", f⟩] [⟨"FILTER", f⟩, ⟨"FILTER", f⟩]
  | greatest {f g : String} (hf : (Call.parse f).name = "GT" ∨ (Call.parse f).name = "GTE")
    (hg : (Call.parse g).name = "MAX") : MovesFilter [⟨"FILTER", f⟩, ⟨"REDUCE", g⟩] [⟨"REDUCE", g⟩, ⟨"FILTER", f⟩]
  | least {f g : String} (hf : (Call.parse f).name = "LT" ∨ (Call.parse f).name = "LTE")
    (hg : (Call.parse g).name = "MIN") : MovesFilter [⟨"FILTER", f⟩, ⟨"REDUCE", g⟩] [⟨"REDUCE", g⟩, ⟨"FILTER", f⟩]
  | symm {operations others : List Operation} (h : MovesFilter operations others) : MovesFilter others operations

private theorem MovesFilter.replaces {operations others : List Operation} (h : MovesFilter operations others)
    (rounding : Rounding) : Replaces rounding operations others ∧ Replaces rounding others operations := by
  induction h with
  | filter => exact ⟨commute_filter_filter.replaces, commute_filter_filter.replaces⟩
  | changeKey => exact ⟨commute_filter_changeKey.replaces, commute_filter_changeKey.symm.replaces⟩
  | twice => exact ⟨replaces_filter_twice, replaces_filter_once⟩
  | @greatest f g hf hg =>
    have hcommute : Commute rounding ⟨"FILTER", f⟩ ⟨"REDUCE", g⟩ :=
      commute_filter_reduce .greatest hg fun _ h => Condition.holds_of_ge (h ▸ hf)
    exact ⟨hcommute.replaces, hcommute.symm.replaces⟩
  | @least f g hf hg =>
    have hcommute : Commute rounding ⟨"FILTER", f⟩ ⟨"REDUCE", g⟩ :=
      commute_filter_reduce .least hg fun _ h => Condition.holds_of_le (h ▸ hf)
    exact ⟨hcommute.replaces, hcommute.symm.replaces⟩
  | symm _ ih => exact ih.symm

end Operation

/-- Changing the places of a `FILTER`, in the ways that `Operation.MovesFilter` lists, leaves the result of a pipeline
as it is.  And `FILTER`s with opposite conditions divide every table. -/
theorem Pipeline.run_movesFilter_of_build :
    (∀ {operations others : List Operation}, Operation.MovesFilter operations others →
      ∀ {name : String} {rounding : Rounding} {before after : List Operation} {pipeline : Pipeline},
        Blueprint.build ⟨name, before ++ operations ++ after, rounding⟩ = .ok pipeline →
        ∃ moved, Blueprint.build ⟨name, before ++ others ++ after, rounding⟩ = .ok moved ∧
          ∀ t, moved.run t = pipeline.run t) ∧
    ∀ {f g : String}, Call.Opposite (Call.parse f) (Call.parse g) → ∀ t : Table,
      ∃ u w, runOperations [⟨"FILTER", f⟩] t = .ok u ∧ runOperations [⟨"FILTER", g⟩] t = .ok w ∧ (u ++ w).Perm t := by
  constructor
  · intro operations others h name rounding before after pipeline hbuild
    exact Blueprint.exists_build_of_replaces (h.replaces rounding).1 hbuild
  · intro f g h t
    obtain ⟨condition, other, hf, hg, hopposite⟩ := h.exists_condition
    have hresolve {function : String} {found : Condition}
        (hfound : Condition.ofCall (Call.parse function) = .ok found) :
        Operation.Resolve .towardZero [⟨"FILTER", function⟩] [.filter found] :=
      Operation.resolve_singleton.2 ⟨_, Operation.compile_filter_eq_ok_iff.2 ⟨found, hfound, rfl⟩, rfl⟩
    exact ⟨condition.apply t, other.apply t, runOperations_of_resolve (hresolve hf) t,
      runOperations_of_resolve (hresolve hg) t, Condition.apply_append_perm hopposite t⟩

/-- A `FILTER` that keeps large values may come before the greatest of each key is taken, among other operations. -/
theorem Pipeline.run_movesFilter_of_build_greatest :
    let operations : List Operation := [⟨"REDUCE", "MAX"⟩, ⟨"FILTER", "GTE(4)"⟩]
    let others : List Operation := [⟨"FILTER", "GTE(4)"⟩, ⟨"REDUCE", "MAX"⟩]
    let before : List Operation := [⟨"MAP", "SUBTRACT(1)"⟩]
    let after : List Operation := [⟨"CHANGEKEY", "DIVIDE(2)"⟩]
    let pipeline : Pipeline := ⟨"pipeline", [⟨1, ⟨"MAP", "SUBTRACT(1)"⟩, .map ⟨.subtract 1, .floor⟩⟩,
      ⟨2, ⟨"REDUCE", "MAX"⟩, .reduce .max⟩, ⟨3, ⟨"FILTER", "GTE(4)"⟩, .filter (.atLeast 4)⟩,
      ⟨4, ⟨"CHANGEKEY", "DIVIDE(2)"⟩, .changeKey ⟨.divide 2 (by decide), .floor⟩⟩]⟩
    let t : Table := [⟨1, 5⟩, ⟨2, 4⟩, ⟨1, -9⟩, ⟨3, -9223372036854775808⟩, ⟨2, 3⟩]
    Operation.MovesFilter operations others ∧
      Blueprint.build ⟨"pipeline", before ++ operations ++ after, .floor⟩ = .ok pipeline ∧
      (∃ moved, Blueprint.build ⟨"pipeline", before ++ others ++ after, .floor⟩ = .ok moved ∧
        moved.run t = pipeline.run t) ∧
      Call.Opposite (Call.parse "IS_EVEN") (Call.parse "IS_ODD") ∧
      ∃ u w, runOperations [⟨"FILTER", "IS_EVEN"⟩] t = .ok u ∧ runOperations [⟨"FILTER", "IS_ODD"⟩] t = .ok w ∧
        (u ++ w).Perm t := by
  intro operations others before after pipeline t
  have hmoves : Operation.MovesFilter operations others := .symm (.greatest (Or.inr rfl) rfl)
  have hbuild : Blueprint.build ⟨"pipeline", before ++ operations ++ after, .floor⟩ = .ok pipeline := rfl
  have hopposite : Call.Opposite (Call.parse "IS_EVEN") (Call.parse "IS_ODD") := .parity rfl rfl
  obtain ⟨hplaces, hdivide⟩ := run_movesFilter_of_build
  obtain ⟨moved, hmoved, hrun⟩ := hplaces hmoves hbuild
  exact ⟨hmoves, hbuild, ⟨moved, hmoved, hrun t⟩, hopposite, hdivide hopposite t⟩

end KeyedFlow
