import KeyedFlow.Proofs.Resolution

/-!
# Walking through operations

Operations can also be carried out without building anything: each is read, resolved and applied to the table at hand
before the next one is looked at, and the first that fails ends the walk.  A pipeline resolves all operations first and
touches the table afterwards.  Both have the same outcome (`Pipeline.runOperations_iff_walk`), because a stage, once
resolved, has a result for every table: what fails, and where, does not depend on the table.
-/

namespace KeyedFlow

/-- Carries out an operation on a table: reads the operator, resolves the function and applies it. -/
def Operation.perform (operation : Operation) (t : Table) : Except Failure Table := do
  let operator ← Operator.parse operation.operator
  Stage.applyText operator operation.function t

/-- How a walk through operations ends: behind the last one, or at the first that fails. -/
inductive Walk where
  | finished (t : Table)
  | stopped (position : Nat) (cause : Failure)
  deriving DecidableEq, Repr

namespace Walk

/-- Carries out operations one by one, the first of which has the given position. -/
def along : Nat → List Operation → Table → Walk
  | _, [], t => .finished t
  | position, operation :: rest, t =>
    match operation.perform t with
    | .error cause => .stopped position cause
    | .ok u => along (position + 1) rest u

end Walk

/-- The walk through operations, whose positions are counted from one. -/
def walk (operations : List Operation) (t : Table) : Walk :=
  Walk.along 1 operations t

/-- Carrying out an operation is resolving it and applying the stage: only the first can fail. -/
private theorem Operation.perform_eq (operation : Operation) (t : Table) :
    operation.perform t = (operation.compile .towardZero).map (·.apply t) := by
  unfold Operation.perform Operation.compile Stage.applyText
  cases Operator.parse operation.operator with
  | error cause => rfl
  | ok operator => rfl

/-- The walk knows in advance where it ends: where resolving the operations ends. -/
private theorem Walk.along_eq (position : Nat) (operations : List Operation) (t : Table) :
    Walk.along position operations t =
      match Blueprint.resolve .towardZero position operations with
      | .error rejection => .stopped rejection.position rejection.cause
      | .ok steps => .finished (Step.runAll steps t) := by
  induction operations generalizing position t with
  | nil => rfl
  | cons operation rest ih =>
    unfold Walk.along Blueprint.resolve
    rw [Operation.perform_eq]
    cases operation.compile .towardZero with
    | error cause => rfl
    | ok stage =>
      simp only [Except.map]
      rw [ih]
      cases Blueprint.resolve .towardZero (position + 1) rest with
      | error rejection => rfl
      | ok steps => rfl

/-- The rejected operation is the one at the position of the rejection. -/
private theorem Blueprint.getElem?_of_resolve_error {rounding : Rounding} {position : Nat} {operations : List Operation}
    {rejection : Rejection} (h : Blueprint.resolve rounding position operations = .error rejection) :
    position ≤ rejection.position ∧ operations[rejection.position - position]? = some rejection.operation := by
  induction operations generalizing position with
  | nil => cases h
  | cons operation rest ih =>
    unfold Blueprint.resolve at h
    split at h
    · cases h
      simp
    · cases hrest : Blueprint.resolve rounding (position + 1) rest with
      | ok steps => rw [hrest] at h; cases h
      | error found =>
        rw [hrest] at h
        cases h
        obtain ⟨hle, hget⟩ := ih hrest
        refine ⟨by omega, ?_⟩
        rw [show rejection.position - position = (rejection.position - (position + 1)) + 1 by omega]
        exact hget

private theorem walk_eq (operations : List Operation) (t : Table) :
    walk operations t =
      match Blueprint.resolve .towardZero 1 operations with
      | .error rejection => .stopped rejection.position rejection.cause
      | .ok steps => .finished (Step.runAll steps t) :=
  Walk.along_eq 1 operations t

private theorem runOperations_eq (operations : List Operation) (t : Table) :
    Pipeline.runOperations operations t =
      match Blueprint.resolve .towardZero 1 operations with
      | .error rejection => .error rejection.failure
      | .ok steps => .ok (Step.runAll steps t) := by
  unfold Pipeline.runOperations Blueprint.build
  cases Blueprint.resolve .towardZero 1 operations with
  | error rejection => rfl
  | ok steps => rfl

/-- Building first and running afterwards gives the table at which the walk ends, or the failure at which it stops, in
the context of the operation at that position; and whether it fails, and how, is the same for all tables. -/
theorem Pipeline.runOperations_iff_walk (operations : List Operation) (t : Table) :
    (∀ u, runOperations operations t = .ok u ↔ walk operations t = .finished u) ∧
    (∀ failure, runOperations operations t = .error failure ↔
      ∃ position operation cause, walk operations t = .stopped position cause ∧
        0 < position ∧ operations[position - 1]? = some operation ∧
        failure = .atOperation position operation.operator operation.function cause) ∧
    (∀ failure u, runOperations operations t = .error failure ↔ runOperations operations u = .error failure) := by
  rw [walk_eq, runOperations_eq]
  simp only [runOperations_eq]
  cases hresolve : Blueprint.resolve .towardZero 1 operations with
  | ok steps => simp
  | error rejection =>
    obtain ⟨hpos, hget⟩ := Blueprint.getElem?_of_resolve_error hresolve
    refine ⟨by simp, fun failure => ⟨?_, ?_⟩, by simp⟩
    · intro h
      cases h
      exact ⟨rejection.position, rejection.operation, rejection.cause, rfl, hpos, hget, rfl⟩
    · rintro ⟨position, operation, cause, hstop, -, hat, rfl⟩
      cases hstop
      rw [hget] at hat
      cases hat
      rfl

end KeyedFlow
