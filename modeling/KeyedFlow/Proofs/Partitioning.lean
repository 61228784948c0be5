import KeyedFlow.Proofs.Combination
import KeyedFlow.Proofs.RowWise

/-!
# Runs on partitions

Operations that do not reduce can be run on the partitions of a table, one by one.  A reducing operation behind them can
be run on the partitions as well; its outcomes, which may share keys, are then joined by reducing once more with the
combining aggregate (`Pipeline.run_flatten_of_build`).  The reason is that each key has its group divided over the
partitions, and the value of a group can be computed from the values of its parts (`Aggregate.combine_append`).
-/

namespace KeyedFlow

namespace Table

private theorem valuesOf_flatten_cons (t : Table) (ts : List Table) (k : Int64) :
    valuesOf (t :: ts).flatten k = valuesOf t k ++ valuesOf ts.flatten k := by
  rw [List.flatten_cons, valuesOf_append]

private theorem mem_keys_append {t u : Table} {k : Int64} : k ∈ keys (t ++ u) ↔ k ∈ keys t ∨ k ∈ keys u := by
  simp [keys]

private theorem mem_keys_flatten {ts : List Table} {k : Int64} : k ∈ keys ts.flatten ↔ ∃ t ∈ ts, k ∈ keys t := by
  simp only [keys, List.mem_map, List.mem_flatten]
  constructor
  · rintro ⟨r, ⟨t, ht, hr⟩, hk⟩
    exact ⟨t, ht, r, hr, hk⟩
  · rintro ⟨t, ht, r, hr, hk⟩
    exact ⟨r, ⟨t, ht, hr⟩, hk⟩

end Table

namespace Aggregate

/-- The outcomes for some tables have the keys of the tables. -/
private theorem mem_keys_flatten_apply {aggregate : Aggregate} {ts : List Table} {k : Int64} :
    k ∈ Table.keys (ts.map aggregate.apply).flatten ↔ k ∈ Table.keys ts.flatten := by
  rw [Table.mem_keys_flatten, Table.mem_keys_flatten]
  simp only [List.mem_map, exists_exists_and_eq_and, mem_keys_apply]

/-- The value of a group from the outcomes for the tables over which it is divided.  Tables without the key take no
part. -/
private theorem combine_flatten (aggregate : Aggregate) (ts : List Table) (k : Int64)
    (hlen : aggregate = .count → ts.flatten.length < 2 ^ 63) (hk : k ∈ Table.keys ts.flatten) :
    aggregate.combine (Table.valuesOf ts.flatten k) =
      aggregate.combiner.combine (Table.valuesOf (ts.map aggregate.apply).flatten k) := by
  induction ts with
  | nil => cases hk
  | cons t ts ih =>
    have hshort : (t :: ts).flatten.length = t.length + ts.flatten.length := by simp
    rw [List.map_cons, Table.valuesOf_flatten_cons, Table.valuesOf_flatten_cons, valuesOf_apply]
    by_cases ht : k ∈ t.keys
    · rw [if_pos ht]
      by_cases hts : k ∈ Table.keys ts.flatten
      · have hle := Table.length_valuesOf_le t k
        have hle' := Table.length_valuesOf_le ts.flatten k
        rw [combine_append aggregate (Table.valuesOf_ne_nil ht) (Table.valuesOf_ne_nil hts)
            (fun hc => by have := hlen hc; omega),
          combine_append aggregate.combiner (List.cons_ne_nil _ _)
            (Table.valuesOf_ne_nil (mem_keys_flatten_apply.2 hts))
            (fun hc => absurd hc aggregate.combiner_ne_count),
          combine_combiner_singleton, merge_combiner, ih (fun hc => by have := hlen hc; omega) hts]
      · rw [Table.valuesOf_eq_nil_iff.2 hts, Table.valuesOf_eq_nil_iff.2 (mt mem_keys_flatten_apply.1 hts),
          List.append_nil, List.append_nil, combine_combiner_singleton]
    · have hts : k ∈ Table.keys ts.flatten := (Table.mem_keys_append.1 hk).resolve_left ht
      rw [if_neg ht, Table.valuesOf_eq_nil_iff.2 ht, List.nil_append, List.nil_append]
      exact ih (fun hc => by have := hlen hc; omega) hts

/-- Reducing tables one by one, and then what comes out of it, is reducing them at once. -/
private theorem apply_flatten (aggregate : Aggregate) (ts : List Table)
    (hlen : aggregate = .count → ts.flatten.length < 2 ^ 63) :
    aggregate.apply ts.flatten = aggregate.combiner.apply (ts.map aggregate.apply).flatten := by
  have hkeys : ascendingKeys (Table.keys ts.flatten) =
      ascendingKeys (Table.keys (ts.map aggregate.apply).flatten) :=
    ascendingKeys_congr fun k => mem_keys_flatten_apply.symm
  rw [apply_eq, apply_eq, ← hkeys]
  apply List.map_congr_left
  intro k hk
  rw [combine_flatten aggregate ts k hlen (mem_ascendingKeys.1 hk)]

end Aggregate

/-- A reducing stage behind stages that look at one record at a time, on joined tables. -/
private theorem Stage.applyAll_reduce_flatten {stages : List Stage} (h : ∀ stage ∈ stages, stage.IsRowWise)
    (aggregate : Aggregate) {ts : List Table} (hlen : aggregate = .count → ts.flatten.length < 2 ^ 63) :
    applyAll (stages ++ [.reduce aggregate]) ts.flatten =
      aggregate.combiner.apply (ts.map (applyAll (stages ++ [.reduce aggregate]))).flatten := by
  have hreduce (t : Table) : applyAll (stages ++ [.reduce aggregate]) t = aggregate.apply (applyAll stages t) :=
    applyAll_append stages [.reduce aggregate] t
  have hparts : ts.map (applyAll (stages ++ [.reduce aggregate])) =
      (ts.map (applyAll stages)).map aggregate.apply := by
    rw [List.map_map]
    exact List.map_congr_left fun t _ => hreduce t
  have hle : (ts.map (applyAll stages)).flatten.length ≤ ts.flatten.length := by
    rw [← applyAll_flatten h]
    exact length_applyAll_le stages ts.flatten
  rw [hreduce, hparts, applyAll_flatten h]
  exact aggregate.apply_flatten _ fun hcount => Nat.lt_of_le_of_lt hle (hlen hcount)

/-- Operations without a `REDUCE` resolve to stages that look at one record at a time. -/
private theorem Operation.Resolve.isRowWise {rounding : Rounding} {operations : List Operation} {stages : List Stage}
    (h : Operation.Resolve rounding operations stages)
    (hrow : ∀ operation ∈ operations, operation.operator ≠ "REDUCE") : ∀ stage ∈ stages, stage.IsRowWise :=
  h.operator_ne hrow

/-- Let operations without a `REDUCE` build a pipeline.  Then the result for joined tables consists of the results for
the tables, and with a `REDUCE` behind them the result for joined tables is that of reducing the joined results once
more.  A count is right as long as there are less than 2 ^ 63 rows. -/
theorem Pipeline.run_flatten_of_build {name : String} {operations : List Operation} {rounding : Rounding}
    {pipeline : Pipeline} (hbuild : Blueprint.build ⟨name, operations, rounding⟩ = .ok pipeline)
    (hrow : ∀ operation ∈ operations, operation.operator ≠ "REDUCE") :
    (∀ ts : List Table, pipeline.run ts.flatten = (ts.map pipeline.run).flatten) ∧
    ∀ (function : String) (aggregate : Aggregate),
      Stage.compile .reduce rounding function = .ok (.reduce aggregate) →
      ∃ reducer, Blueprint.build ⟨name, operations ++ [⟨"REDUCE", function⟩], rounding⟩ = .ok reducer ∧
        ∀ ts : List Table, ts.flatten.length < 2 ^ 63 →
          reducer.run ts.flatten = aggregate.combiner.apply (ts.map reducer.run).flatten := by
  have hresolve := Blueprint.resolve_of_build hbuild
  have hwise := hresolve.isRowWise hrow
  refine ⟨fun ts => ?_, fun function aggregate hcompile => ?_⟩
  · rw [show pipeline.run = Stage.applyAll pipeline.stages from funext pipeline.run_eq_applyAll]
    exact Stage.applyAll_flatten hwise ts
  · have hreduce : Operation.Resolve rounding [⟨"REDUCE", function⟩] [.reduce aggregate] :=
      .cons (Operation.compile_eq_ok_iff.2 ⟨.reduce, rfl, hcompile⟩) .nil
    obtain ⟨reducer, hreducer, hstages⟩ := Blueprint.exists_build_of_resolve (List.rel_append hresolve hreduce) name
    refine ⟨reducer, hreducer, fun ts hlen => ?_⟩
    rw [show reducer.run = Stage.applyAll reducer.stages from funext reducer.run_eq_applyAll, hstages]
    exact Stage.applyAll_reduce_flatten hwise aggregate fun _ => hlen

/-- Three parts of a table, one of them empty, are counted by halved values; the counts are added up. -/
theorem Pipeline.run_flatten_of_build_count :
    let operations : List Operation := [⟨"FILTER", "GT(0)"⟩, ⟨"CHANGEKEY", "DIVIDE(2)"⟩]
    let pipeline : Pipeline := ⟨"pipeline", [⟨1, ⟨"FILTER", "GT(0)"⟩, .filter (.greater 0)⟩,
      ⟨2, ⟨"CHANGEKEY", "DIVIDE(2)"⟩, .changeKey ⟨.divide 2 (by decide), .floor⟩⟩]⟩
    let ts : List Table := [[⟨1, 4⟩, ⟨1, 5⟩, ⟨2, -1⟩], [], [⟨9, 5⟩, ⟨7, 6⟩]]
    Blueprint.build ⟨"pipeline", operations, .floor⟩ = .ok pipeline ∧
      (∀ operation ∈ operations, operation.operator ≠ "REDUCE") ∧
      Stage.compile .reduce .floor "COUNT" = .ok (.reduce .count) ∧ ts.flatten.length < 2 ^ 63 ∧
      pipeline.run ts.flatten = (ts.map pipeline.run).flatten ∧
      ∃ reducer, Blueprint.build ⟨"pipeline", operations ++ [⟨"REDUCE", "COUNT"⟩], .floor⟩ = .ok reducer ∧
        reducer.run ts.flatten = Aggregate.sum.apply (ts.map reducer.run).flatten := by
  intro operations pipeline ts
  have hbuild : Blueprint.build ⟨"pipeline", operations, .floor⟩ = .ok pipeline := rfl
  have hrow : ∀ operation ∈ operations, operation.operator ≠ "REDUCE" := by simp [operations]
  have hcompile : Stage.compile .reduce .floor "COUNT" = .ok (.reduce .count) := rfl
  have hlen : ts.flatten.length < 2 ^ 63 := by simp [ts]
  obtain ⟨hflatten, hreduce⟩ := run_flatten_of_build hbuild hrow
  obtain ⟨reducer, hreducer, hrun⟩ := hreduce "COUNT" .count hcompile
  exact ⟨hbuild, hrow, hcompile, hlen, hflatten ts, reducer, hreducer, hrun ts hlen⟩

end KeyedFlow
