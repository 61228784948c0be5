import KeyedFlow.Proofs.Groups
import KeyedFlow.Proofs.Resolution
import Mathlib.Data.Set.Basic

/-!
# Runs on some of the keys

A stage that does not change keys treats the records of each key by themselves, so it makes no difference whether a
table is restricted to some keys before the stage or behind it (`Stage.apply_restrict`).  For `REDUCE` this is because
the groups of the remaining keys are the same and come in the same order (`Aggregate.apply_restrict`).  Hence pipelines
without a `CHANGEKEY` can be run on parts of a table that are divided by key (`Pipeline.run_restrict_of_build`).
-/

namespace KeyedFlow

variable (K : Set Int64) [DecidablePred (· ∈ K)]

namespace Table

/-- The records whose key is in a set, in order. -/
def restrict (t : Table) : Table :=
  t.filter fun r => r.key ∈ K

private theorem keys_restrict (t : Table) : keys (restrict K t) = t.keys.filter (· ∈ K) := by
  unfold keys restrict
  rw [List.filter_map]
  rfl

/-- Restricting to a set leaves the keys of the set all their values. -/
private theorem valuesOf_restrict (t : Table) {k : Int64} (hk : k ∈ K) : valuesOf (restrict K t) k = valuesOf t k := by
  unfold valuesOf restrict
  rw [List.filter_filter]
  congr 1
  apply List.filter_congr
  intro r _
  by_cases h : r.key = k
  · simp [h, hk]
  · simp [h]

/-- Where the keys of records are known beforehand, restricting can be done before the records are made. -/
private theorem restrict_map {α : Type} {record : α → Record} {key : α → Int64} (h : ∀ a, (record a).key = key a)
    (l : List α) : restrict K (l.map record) = (l.filter fun a => key a ∈ K).map record := by
  unfold restrict
  rw [List.filter_map]
  simp only [Function.comp_def, h]

end Table

/-- Some of the keys in ascending order are the ascending keys without the others. -/
private theorem ascendingKeys_filter (keys : List Int64) (p : Int64 → Bool) :
    ascendingKeys (keys.filter p) = (ascendingKeys keys).filter p := by
  apply ascendingKeys_eq ((pairwise_ascendingKeys keys).filter p)
  intro k
  rw [List.mem_filter, List.mem_filter, mem_ascendingKeys]

/-- An aggregate treats the records of each key by themselves. -/
theorem Aggregate.apply_restrict (aggregate : Aggregate) (t : Table) :
    aggregate.apply (t.restrict K) = (aggregate.apply t).restrict K := by
  rw [apply_eq, apply_eq, Table.keys_restrict, ascendingKeys_filter, Table.restrict_map K fun _ => rfl]
  apply List.map_congr_left
  intro k hk
  have hmem : k ∈ K := of_decide_eq_true (List.mem_filter.1 hk).2
  rw [Table.valuesOf_restrict K t hmem]

namespace Stage

/-- Whether a stage leaves records the key they have. -/
def KeepsKeys (stage : Stage) : Prop :=
  stage.operator ≠ .changeKey

/-- A stage that keeps keys treats the records of some keys as if there were no others. -/
theorem apply_restrict {stage : Stage} (h : stage.KeepsKeys) (t : Table) :
    stage.apply (t.restrict K) = (stage.apply t).restrict K := by
  cases stage with
  | filter condition => exact List.filter_comm ..
  | map formula => exact (Table.restrict_map K (fun _ => rfl) t).symm
  | changeKey formula => exact absurd rfl h
  | reduce aggregate => exact aggregate.apply_restrict K t

private theorem applyAll_restrict {stages : List Stage} (h : ∀ stage ∈ stages, stage.KeepsKeys) (t : Table) :
    applyAll stages (t.restrict K) = (applyAll stages t).restrict K := by
  induction stages generalizing t with
  | nil => rfl
  | cons stage rest ih =>
    rw [applyAll_cons, applyAll_cons, apply_restrict K (h stage (List.mem_cons_self ..)),
      ih (fun s hs => h s (List.mem_cons_of_mem _ hs))]

/-- A stage that keeps the keys brings in no other key. -/
private theorem mem_keys_of_mem_keys_applyAll {stages : List Stage} (h : ∀ stage ∈ stages, stage.KeepsKeys) {t : Table}
    {k : Int64} (hk : k ∈ Table.keys (applyAll stages t)) : k ∈ t.keys := by
  have hall : t.restrict {k | k ∈ t.keys} = t := by
    apply List.filter_eq_self.2
    intro r hr
    exact decide_eq_true (List.mem_map_of_mem hr)
  have hout := applyAll_restrict {k | k ∈ t.keys} h t
  rw [hall] at hout
  rw [hout, Table.keys_restrict, List.mem_filter] at hk
  exact of_decide_eq_true hk.2

end Stage

/-- Let a pipeline have no `CHANGEKEY`.  Then the records of some keys in its result are its result for the records of
these keys, and its result has no key that its input has not. -/
theorem Pipeline.run_restrict_of_build {blueprint : Blueprint} {pipeline : Pipeline}
    (hbuild : blueprint.build = .ok pipeline)
    (hkeys : ∀ operation ∈ blueprint.operations, operation.operator ≠ "CHANGEKEY") (t : Table) :
    (∀ (K : Set Int64) [DecidablePred (· ∈ K)], (pipeline.run t).restrict K = pipeline.run (t.restrict K)) ∧
    ∀ k ∈ (pipeline.run t).keys, k ∈ t.keys := by
  have hkeep : ∀ stage ∈ pipeline.stages, stage.KeepsKeys := (Blueprint.resolve_of_build hbuild).operator_ne hkeys
  constructor
  · intro K _
    rw [run_eq_applyAll, run_eq_applyAll]
    exact (Stage.applyAll_restrict K hkeep t).symm
  · intro k hk
    rw [run_eq_applyAll] at hk
    exact Stage.mem_keys_of_mem_keys_applyAll hkeep hk

/-- The positive keys of a table with a negative one, in a pipeline that sums up. -/
theorem Pipeline.run_restrict_of_build_sum :
    let blueprint : Blueprint :=
      ⟨"pipeline", [⟨"MAP", "DIVIDE(-2)"⟩, ⟨"FILTER", "LTE(3)"⟩, ⟨"REDUCE", "SUM"⟩], .floor⟩
    let pipeline : Pipeline := ⟨"pipeline", [⟨1, ⟨"MAP", "DIVIDE(-2)"⟩, .map ⟨.divide (-2) (by decide), .floor⟩⟩,
      ⟨2, ⟨"FILTER", "LTE(3)"⟩, .filter (.atMost 3)⟩, ⟨3, ⟨"REDUCE", "SUM"⟩, .reduce .sum⟩]⟩
    let t : Table := [⟨5, 7⟩, ⟨-1, 3⟩, ⟨2, -9⟩, ⟨5, -2⟩, ⟨-1, 4⟩]
    let K : Set Int64 := {k | 0 < k}
    blueprint.build = .ok pipeline ∧ (∀ operation ∈ blueprint.operations, operation.operator ≠ "CHANGEKEY") ∧
      (pipeline.run t).restrict K = pipeline.run (t.restrict K) ∧ ∀ k ∈ (pipeline.run t).keys, k ∈ t.keys := by
  intro blueprint pipeline t K
  have hbuild : blueprint.build = .ok pipeline := rfl
  have hkeys : ∀ operation ∈ blueprint.operations, operation.operator ≠ "CHANGEKEY" := by simp [blueprint]
  obtain ⟨hrestrict, hmem⟩ := run_restrict_of_build hbuild hkeys t
  exact ⟨hbuild, hkeys, hrestrict K, hmem⟩

end KeyedFlow
