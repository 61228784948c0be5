import KeyedFlow.Proofs.GroupValues
import KeyedFlow.Proofs.NamedStages
import KeyedFlow.Proofs.Quotients
import KeyedFlow.Proofs.Replacement

/-!
# Values replaced before and behind a reduction

Replacing the values of a table keeps the groups, so it can be done behind a reduction if the value of a group with
replaced values is made of the value of the group (`Aggregate.apply_mapValues`).  Multiplying distributes over sums, and
quotients keep or reverse the order, by which the least and the greatest value of a group stay what they are or change
places; counting does not look at values at all.  Hence certain pairs of a `MAP` and a `REDUCE` can be replaced in every
pipeline (`Operation.MovesMap`, `Pipeline.run_movesMap_of_build`).
-/

namespace KeyedFlow

/-! ### Groups with replaced values -/

private theorem Formula.keys_mapValues (formula : Formula) (t : Table) : Table.keys (formula.mapValues t) = t.keys := by
  simp [mapValues, Table.keys]

private theorem Formula.valuesOf_mapValues (formula : Formula) (t : Table) (k : Int64) :
    Table.valuesOf (formula.mapValues t) k = (t.valuesOf k).map formula.eval := by
  simp only [mapValues, Table.valuesOf, Table.values, List.filter_map, List.map_map]
  rfl

namespace Aggregate

/-- If the value of a group with replaced values is made of the value of the group, the values of a table can as well be
replaced behind the reduction. -/
theorem apply_mapValues {aggregate other : Aggregate} {formula : Formula}
    (h : ∀ values, values ≠ [] → aggregate.combine (values.map formula.eval) = formula.eval (other.combine values))
    (t : Table) : aggregate.apply (formula.mapValues t) = formula.mapValues (other.apply t) := by
  have hright : formula.mapValues (other.apply t) =
      (ascendingKeys t.keys).map fun k => ⟨k, formula.eval (other.combine (t.valuesOf k))⟩ := by
    rw [apply_eq]
    exact List.map_map
  rw [hright, apply_eq, formula.keys_mapValues]
  apply List.map_congr_left
  intro k hk
  rw [formula.valuesOf_mapValues, h _ (Table.valuesOf_ne_nil (mem_ascendingKeys.1 hk))]

private theorem count_apply_mapValues (formula : Formula) (t : Table) :
    count.apply (formula.mapValues t) = count.apply t := by
  rw [apply_eq, apply_eq, formula.keys_mapValues]
  apply List.map_congr_left
  intro k _
  rw [formula.valuesOf_mapValues]
  simp only [combine, List.length_map]

private theorem foldl_add_mul (p a : Int64) (values : List Int64) :
    (values.map (· * p)).foldl (· + ·) (a * p) = values.foldl (· + ·) a * p := by
  induction values generalizing a with
  | nil => rfl
  | cons v rest ih => rw [List.map_cons, List.foldl_cons, List.foldl_cons, ← Int64.add_mul, ih]

/-- Multiplying distributes over the sum of a group, also where products and sums wrap. -/
private theorem combine_sum_mul (p : Int64) (values : List Int64) :
    sum.combine (values.map (· * p)) = sum.combine values * p := by
  have h := foldl_add_mul p 0 values
  rwa [Int64.zero_mul] at h

/-- A function takes the first value in one order to the first value in another, if it takes the one order to the
other. -/
private theorem Picks.combine_map {aggregate other : Aggregate} {order order' : Int64 → Int64 → Prop}
    (h : aggregate.Picks order) (h' : other.Picks order') {f : Int64 → Int64}
    (hf : ∀ v w, order' v w → order (f v) (f w)) {values : List Int64} (hne : values ≠ []) :
    aggregate.combine (values.map f) = f (other.combine values) := by
  obtain ⟨hmem, hfirst⟩ := (h'.combine_eq_iff hne).1 rfl
  rw [h.combine_eq_iff (mt List.map_eq_nil_iff.1 hne)]
  exact ⟨List.mem_map_of_mem hmem, List.forall_mem_map.2 fun w hw => hf _ _ (hfirst w hw)⟩

end Aggregate

namespace Operation

/-- The pairs of a `MAP` and a `REDUCE` with what can be put in their place. -/
inductive MovesMap : List Operation → List Operation → Prop where
  /-- Multiplying can be done behind summing up. -/
  | product {f g : String} (hf : (Call.parse f).name = "MULTIPLY") (hg : (Call.parse g).name = "SUM") :
    MovesMap [⟨"MAP", f⟩, ⟨"REDUCE", g⟩] [⟨"REDUCE", g⟩, ⟨"MAP", f⟩]
  /-- Before counting, values need not be replaced. -/
  | count {f g : String} (hg : (Call.parse g).name = "COUNT") : MovesMap [⟨"MAP", f⟩, ⟨"REDUCE", g⟩] [⟨"REDUCE", g⟩]
  /-- Dividing by a positive number can be done behind taking the least or the greatest value. -/
  | quotient {f g : String} {p : Int64} (hf : (Call.parse f).name = "DIVIDE") (hp : (Call.parse f).integer = .ok p)
    (hpos : 0 < p) (hg : (Call.parse g).name = "MIN" ∨ (Call.parse g).name = "MAX") :
    MovesMap [⟨"MAP", f⟩, ⟨"REDUCE", g⟩] [⟨"REDUCE", g⟩, ⟨"MAP", f⟩]
  /-- If the number is below minus one, the least and the greatest value change places. -/
  | reversed {f g g' : String} {p : Int64} (hf : (Call.parse f).name = "DIVIDE") (hp : (Call.parse f).integer = .ok p)
    (hneg : p < -1) (hg : (Call.parse g).name = "MIN" ∧ (Call.parse g').name = "MAX" ∨
      (Call.parse g).name = "MAX" ∧ (Call.parse g').name = "MIN") :
    MovesMap [⟨"MAP", f⟩, ⟨"REDUCE", g⟩] [⟨"REDUCE", g'⟩, ⟨"MAP", f⟩]

/-- A `MAP` and the `REDUCE` behind it can be replaced by a `REDUCE` and the `MAP`, if the value of a group with
replaced values is made of the value of the group. -/
private theorem replaces_map_reduce (aggregate other : Aggregate) {rounding : Rounding} {f g g' : String}
    (hg : (Call.parse g).name = aggregate.name) (hg' : (Call.parse g').name = other.name)
    (h : ∀ formula, Formula.ofCall .map rounding (Call.parse f) = .ok formula → ∀ values, values ≠ [] →
      aggregate.combine (values.map formula.eval) = formula.eval (other.combine values)) :
    Replaces rounding [⟨"MAP", f⟩, ⟨"REDUCE", g⟩] [⟨"REDUCE", g'⟩, ⟨"MAP", f⟩] := by
  intro stages hstages
  obtain ⟨_, _, hmap, hreduce, rfl⟩ := resolve_pair.1 hstages
  obtain ⟨formula, hformula, rfl⟩ := compile_map_eq_ok_iff.1 hmap
  obtain ⟨found, hfound, rfl⟩ := compile_reduce_eq_ok_iff.1 hreduce
  cases (Aggregate.ofCall_eq_ok_iff.2 hg).symm.trans hfound
  have hother : Operation.compile rounding ⟨"REDUCE", g'⟩ = .ok (.reduce other) :=
    compile_reduce_eq_ok_iff.2 ⟨other, Aggregate.ofCall_eq_ok_iff.2 hg', rfl⟩
  exact ⟨[.reduce other, .map formula], resolve_pair.2 ⟨_, _, hother, hmap, rfl⟩,
    fun t => (Aggregate.apply_mapValues (h formula hformula) t).symm⟩

private theorem replaces_map_count {rounding : Rounding} {f g : String} (hg : (Call.parse g).name = "COUNT") :
    Replaces rounding [⟨"MAP", f⟩, ⟨"REDUCE", g⟩] [⟨"REDUCE", g⟩] := by
  intro stages hstages
  obtain ⟨_, _, hmap, hreduce, rfl⟩ := resolve_pair.1 hstages
  obtain ⟨formula, -, rfl⟩ := compile_map_eq_ok_iff.1 hmap
  obtain ⟨aggregate, haggregate, rfl⟩ := compile_reduce_eq_ok_iff.1 hreduce
  have hcount : Aggregate.ofCall (Call.parse g) = .ok .count := Aggregate.ofCall_eq_ok_iff.2 hg
  cases hcount.symm.trans haggregate
  exact ⟨[.reduce .count], resolve_singleton.2 ⟨_, hreduce, rfl⟩,
    fun t => (Aggregate.count_apply_mapValues formula t).symm⟩

private theorem replaces_multiply {rounding : Rounding} {f g : String} (hf : (Call.parse f).name = "MULTIPLY")
    (hg : (Call.parse g).name = "SUM") :
    Replaces rounding [⟨"MAP", f⟩, ⟨"REDUCE", g⟩] [⟨"REDUCE", g⟩, ⟨"MAP", f⟩] := by
  refine replaces_map_reduce .sum .sum hg hg fun formula hformula values _ => ?_
  -- the call has some argument, as it resolves, and its name makes the argument a factor
  obtain ⟨⟨-, hinteger⟩, -⟩ := Formula.ofCall_eq_ok_iff.1 hformula
  generalize formula.arithmetic.operand = p at hinteger
  have hmultiply : Formula.ofCall .map rounding (Call.parse f) = .ok ⟨.multiply p, rounding⟩ :=
    Formula.ofCall_eq_ok_iff.2 ⟨⟨hf, hinteger⟩, rfl⟩
  cases hmultiply.symm.trans hformula
  exact Aggregate.combine_sum_mul p values

/-- A quotient can be taken behind picking a value, if it takes the order of the one aggregate to that of the other. -/
private theorem replaces_divide {rounding : Rounding} {f g g' : String} {p : Int64} {aggregate other : Aggregate}
    {order order' : Int64 → Int64 → Prop} (h : aggregate.Picks order) (h' : other.Picks order')
    (hf : (Call.parse f).name = "DIVIDE") (hp : (Call.parse f).integer = .ok p) (hp0 : p ≠ 0)
    (hg : (Call.parse g).name = aggregate.name) (hg' : (Call.parse g').name = other.name)
    (horder : ∀ v w, order' v w → order (rounding.quotient v p) (rounding.quotient w p)) :
    Replaces rounding [⟨"MAP", f⟩, ⟨"REDUCE", g⟩] [⟨"REDUCE", g'⟩, ⟨"MAP", f⟩] := by
  refine replaces_map_reduce aggregate other hg hg' fun formula hformula values hne => ?_
  have hdivide : Formula.ofCall .map rounding (Call.parse f) = .ok ⟨.divide p hp0, rounding⟩ :=
    Formula.ofCall_eq_ok_iff.2 ⟨⟨hf, hp⟩, rfl⟩
  cases hdivide.symm.trans hformula
  exact h.combine_map h' horder hne

private theorem MovesMap.replaces {operations others : List Operation} (h : MovesMap operations others)
    (rounding : Rounding) : Replaces rounding operations others := by
  cases h with
  | product hf hg => exact replaces_multiply hf hg
  | count hg => exact replaces_map_count hg
  | @quotient f g p hf hp hpos hg =>
    have hp0 : p ≠ 0 := (Int64.ne_of_lt hpos).symm
    rcases hg with hg | hg
    · exact replaces_divide .least .least hf hp hp0 hg hg fun v w h => rounding.quotient_le_quotient hpos h
    · exact replaces_divide .greatest .greatest hf hp hp0 hg hg fun v w h => rounding.quotient_le_quotient hpos h
  | @reversed f g g' p hf hp hneg hg =>
    have hp0 : p ≠ 0 := Int64.ne_of_lt (Int64.lt_trans hneg (by decide))
    rcases hg with ⟨hg, hg'⟩ | ⟨hg, hg'⟩
    · exact replaces_divide .least .greatest hf hp hp0 hg hg' fun v w h => rounding.quotient_le_quotient_of_neg hneg h
    · exact replaces_divide .greatest .least hf hp hp0 hg hg' fun v w h => rounding.quotient_le_quotient_of_neg hneg h

end Operation

/-- Moving a `MAP` behind a `REDUCE`, in the ways that `Operation.MovesMap` lists, leaves the result of a pipeline as it
is. -/
theorem Pipeline.run_movesMap_of_build {operations others : List Operation} (h : Operation.MovesMap operations others)
    {name : String} {rounding : Rounding} {before after : List Operation} {pipeline : Pipeline}
    (hbuild : Blueprint.build ⟨name, before ++ operations ++ after, rounding⟩ = .ok pipeline) :
    ∃ moved, Blueprint.build ⟨name, before ++ others ++ after, rounding⟩ = .ok moved ∧
      ∀ t, moved.run t = pipeline.run t :=
  Blueprint.exists_build_of_replaces (h.replaces rounding) hbuild

/-- A division by a negative number turns the greatest of each key into the least, among other operations. -/
theorem Pipeline.run_movesMap_of_build_reversed :
    let operations : List Operation := [⟨"MAP", "DIVIDE(-2)"⟩, ⟨"REDUCE", "MIN"⟩]
    let others : List Operation := [⟨"REDUCE", "MAX"⟩, ⟨"MAP", "DIVIDE(-2)"⟩]
    let before : List Operation := [⟨"CHANGEKEY", "DIVIDE(10)"⟩]
    let after : List Operation := [⟨"FILTER", "LT(3)"⟩]
    let pipeline : Pipeline := ⟨"pipeline", [
      ⟨1, ⟨"CHANGEKEY", "DIVIDE(10)"⟩, .changeKey ⟨.divide 10 (by decide), .floor⟩⟩,
      ⟨2, ⟨"MAP", "DIVIDE(-2)"⟩, .map ⟨.divide (-2) (by decide), .floor⟩⟩, ⟨3, ⟨"REDUCE", "MIN"⟩, .reduce .min⟩,
      ⟨4, ⟨"FILTER", "LT(3)"⟩, .filter (.less 3)⟩]⟩
    let t : Table := [⟨1, 7⟩, ⟨1, -9⟩, ⟨1, 2⟩, ⟨2, -3⟩, ⟨1, -9223372036854775808⟩]
    Operation.MovesMap operations others ∧
      Blueprint.build ⟨"pipeline", before ++ operations ++ after, .floor⟩ = .ok pipeline ∧
      ∃ moved, Blueprint.build ⟨"pipeline", before ++ others ++ after, .floor⟩ = .ok moved ∧
        moved.run t = pipeline.run t := by
  intro operations others before after pipeline t
  have hmoves : Operation.MovesMap operations others :=
    .reversed (p := -2) rfl rfl (by decide) (Or.inl ⟨rfl, rfl⟩)
  have hbuild : Blueprint.build ⟨"pipeline", before ++ operations ++ after, .floor⟩ = .ok pipeline := rfl
  obtain ⟨moved, hmoved, hrun⟩ := run_movesMap_of_build hmoves hbuild
  exact ⟨hmoves, hbuild, moved, hmoved, hrun t⟩

end KeyedFlow
