import KeyedFlow.Proofs.Resolution
import KeyedFlow.Proofs.Groups

/-!
# Stages that look at one record at a time

All stages but the reducing ones keep, change or drop each record by itself, so a sequence of them acts on a table
record by record (`Stage.applyAll_eq_filterMap`) and on joined tables one by one (`Stage.applyAll_flatten`).  No stage
adds rows (`Stage.length_applyAll_le`).
-/

namespace KeyedFlow

namespace Stage

/-- Whether a stage looks at one record at a time. -/
def IsRowWise (stage : Stage) : Prop :=
  stage.operator ≠ .reduce

/-- What a stage makes of one record.  Reducing stages make of a record what they make of a table without others. -/
def onRecord : Stage → Record → Option Record
  | .filter condition, r => if condition.holds r.value then some r else none
  | .map formula, r => some ⟨r.key, formula.eval r.value⟩
  | .changeKey formula, r => some ⟨formula.eval r.value, r.value⟩
  | .reduce aggregate, r => some ⟨r.key, aggregate.combine [r.value]⟩

/-- What some stages make of one record. -/
def onRecordAll : List Stage → Record → Option Record
  | [], r => some r
  | stage :: rest, r => (stage.onRecord r).bind (onRecordAll rest)

/-- A stage that looks at one record at a time is decided by what it makes of each. -/
theorem apply_eq_filterMap {stage : Stage} (h : stage.IsRowWise) (t : Table) :
    stage.apply t = t.filterMap stage.onRecord := by
  cases stage with
  | filter condition =>
    show t.filter (fun r => condition.holds r.value) = _
    rw [← List.filterMap_eq_filter]
    rfl
  | map formula => exact (congrFun List.filterMap_eq_map t).symm
  | changeKey formula => exact (congrFun List.filterMap_eq_map t).symm
  | reduce aggregate => exact absurd rfl h

/-- Stages that look at one record at a time are decided by what they make of each. -/
theorem applyAll_eq_filterMap {stages : List Stage} (h : ∀ stage ∈ stages, stage.IsRowWise) (t : Table) :
    applyAll stages t = t.filterMap (onRecordAll stages) := by
  induction stages generalizing t with
  | nil => exact (List.filterMap_some).symm
  | cons stage rest ih =>
    rw [applyAll_cons, ih (fun s hs => h s (List.mem_cons_of_mem _ hs)),
      apply_eq_filterMap (h stage (List.mem_cons_self ..)), List.filterMap_filterMap]
    rfl

/-- Stages that look at one record at a time can be applied to the parts of a table. -/
theorem applyAll_flatten {stages : List Stage} (h : ∀ stage ∈ stages, stage.IsRowWise) (ts : List Table) :
    applyAll stages ts.flatten = (ts.map (applyAll stages)).flatten := by
  have hrecords : applyAll stages = List.filterMap (onRecordAll stages) := funext (applyAll_eq_filterMap h)
  rw [hrecords, List.filterMap_flatten]

private theorem length_apply_le (stage : Stage) (t : Table) : (stage.apply t).length ≤ t.length := by
  cases stage with
  | filter condition => exact List.length_filter_le _ t
  | map formula => exact Nat.le_of_eq (List.length_map _)
  | changeKey formula => exact Nat.le_of_eq (List.length_map _)
  | reduce aggregate => exact aggregate.length_apply_le t

/-- Stages never add rows. -/
theorem length_applyAll_le (stages : List Stage) (t : Table) : (applyAll stages t).length ≤ t.length := by
  induction stages generalizing t with
  | nil => exact Nat.le_refl _
  | cons stage rest ih => exact Nat.le_trans (ih (stage.apply t)) (stage.length_apply_le t)

end Stage

end KeyedFlow
