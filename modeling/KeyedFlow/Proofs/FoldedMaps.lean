import KeyedFlow.Proofs.ExactArithmetic
import KeyedFlow.Proofs.WrittenCalls

/-!
# Maps that are folded into one

Adding and subtracting numbers one after the other is adding their sum, and multiplying by numbers one after the other
is multiplying by their product, whether or not anything wraps on the way (`Operation.Folding`).  So a list of such
operations has the result of a single operation, and of the list in any other order (`Pipeline.runOperations_folded`).
-/

namespace KeyedFlow

namespace Operation

/-- The number that an operation adds to every value, if that is what it does. -/
def addend? (operation : Operation) : Option Int :=
  match RingOperation.ofOperation? operation with
  | some (.add p) => some p.toInt
  | some (.subtract p) => some (-p.toInt)
  | _ => none

/-- The number by which an operation multiplies every value, if that is what it does. -/
def factor? (operation : Operation) : Option Int :=
  match RingOperation.ofOperation? operation with
  | some (.multiply p) => some p.toInt
  | _ => none

private theorem ofOperation?_add (c : Int64) : RingOperation.ofOperation? ⟨"MAP", s!"ADD({c})"⟩ = some (.add c) := by
  have hparse : Call.parse s!"ADD({c})" = ⟨"ADD", some (toString c)⟩ := Call.parse_toString "ADD" (by decide) c
  simp only [RingOperation.ofOperation?, hparse, Call.integer_toString]
  rfl

private theorem ofOperation?_multiply (c : Int64) :
    RingOperation.ofOperation? ⟨"MAP", s!"MULTIPLY({c})"⟩ = some (.multiply c) := by
  have hparse : Call.parse s!"MULTIPLY({c})" = ⟨"MULTIPLY", some (toString c)⟩ :=
    Call.parse_toString "MULTIPLY" (by decide) c
  simp only [RingOperation.ofOperation?, hparse, Call.integer_toString]
  rfl

private theorem addend?_add (c : Int64) : addend? ⟨"MAP", s!"ADD({c})"⟩ = some c.toInt := by
  rw [addend?, ofOperation?_add]

private theorem factor?_multiply (c : Int64) : factor? ⟨"MAP", s!"MULTIPLY({c})"⟩ = some c.toInt := by
  rw [factor?, ofOperation?_multiply]

private theorem exists_formula_of_addend? {operation : Operation} {a : Int} (h : operation.addend? = some a)
    (rounding : Rounding) :
    ∃ formula : Formula, operation.compile rounding = .ok (.map formula) ∧
      ∀ v, formula.eval v = v + Int64.ofInt a := by
  unfold addend? at h
  split at h
  case h_1 p hring =>
    cases h
    refine ⟨⟨.add p, rounding⟩, RingOperation.compile_of_ofOperation? hring rounding, fun v => ?_⟩
    rw [Int64.ofInt_toInt]
    rfl
  case h_2 p hring =>
    cases h
    refine ⟨⟨.subtract p, rounding⟩, RingOperation.compile_of_ofOperation? hring rounding, fun v => ?_⟩
    rw [Int64.ofInt_neg, Int64.ofInt_toInt, ← Int64.sub_eq_add_neg]
    rfl
  case h_3 => cases h

private theorem exists_formula_of_factor? {operation : Operation} {a : Int} (h : operation.factor? = some a)
    (rounding : Rounding) :
    ∃ formula : Formula, operation.compile rounding = .ok (.map formula) ∧
      ∀ v, formula.eval v = v * Int64.ofInt a := by
  unfold factor? at h
  split at h
  case h_1 p hring =>
    cases h
    refine ⟨⟨.multiply p, rounding⟩, RingOperation.compile_of_ofOperation? hring rounding, fun v => ?_⟩
    rw [Int64.ofInt_toInt]
    rfl
  case h_2 => cases h

/-- A kind of operation that combines every value with a number, its amount.  The amounts of several operations can be
combined with each other beforehand, in any order, to the amount of a single one. -/
structure Folding where
  amount? : Operation → Option Int
  combine : Int64 → Int64 → Int64
  total : List Int → Int
  single : Int64 → Operation
  exists_formula : ∀ {operation a}, amount? operation = some a → ∀ rounding,
    ∃ formula : Formula, operation.compile rounding = .ok (.map formula) ∧
      ∀ v, formula.eval v = combine v (Int64.ofInt a)
  foldl_combine : ∀ amounts v, (amounts.map Int64.ofInt).foldl combine v = combine v (Int64.ofInt (total amounts))
  total_eq_of_perm : ∀ {amounts others : List Int}, others.Perm amounts → total others = total amounts
  amount?_single : ∀ c, amount? (single c) = some c.toInt

namespace Folding

def sums : Folding where
  amount? := addend?
  combine := (· + ·)
  total := List.sum
  single c := ⟨"MAP", s!"ADD({c})"⟩
  exists_formula := exists_formula_of_addend?
  foldl_combine amounts v := by
    have h := Aggregate.foldl_add_ofInt amounts v.toInt
    rwa [Int64.ofInt_add, Int64.ofInt_toInt] at h
  total_eq_of_perm h := h.sum_eq
  amount?_single := addend?_add

def products : Folding where
  amount? := factor?
  combine := (· * ·)
  total := List.prod
  single c := ⟨"MAP", s!"MULTIPLY({c})"⟩
  exists_formula := exists_formula_of_factor?
  foldl_combine amounts v := by
    have h := Aggregate.foldl_mul_ofInt amounts v.toInt
    rwa [Int64.ofInt_mul, Int64.ofInt_toInt] at h
  total_eq_of_perm h := h.prod_eq
  amount?_single := factor?_multiply

variable (folding : Folding) {operations : List Operation}

/-- Such operations resolve to stages that combine every value with their numbers, one after the other. -/
private theorem exists_resolve (rounding : Rounding)
    (h : ∀ operation ∈ operations, (folding.amount? operation).isSome) :
    ∃ stages, Resolve rounding operations stages ∧ ∀ t, Stage.applyAll stages t =
      t.map fun r =>
        ⟨r.key, ((operations.filterMap folding.amount?).map Int64.ofInt).foldl folding.combine r.value⟩ := by
  induction operations with
  | nil => exact ⟨[], .nil, fun t => (List.map_id t).symm⟩
  | cons operation rest ih =>
    obtain ⟨a, ha⟩ := Option.isSome_iff_exists.1 (h operation List.mem_cons_self)
    obtain ⟨formula, hcompile, heval⟩ := folding.exists_formula ha rounding
    obtain ⟨stages, hstages, hrest⟩ := ih fun other hother => h other (List.mem_cons_of_mem _ hother)
    refine ⟨.map formula :: stages, .cons hcompile hstages, fun t => ?_⟩
    -- the rest begins with the values that the first stage leaves
    have happly : (Stage.map formula).apply t = t.map fun r => ⟨r.key, folding.combine r.value (Int64.ofInt a)⟩ :=
      List.map_congr_left fun r _ => congrArg (Record.mk r.key) (heval r.value)
    rw [Stage.applyAll_cons, hrest, happly, List.map_map]
    simp only [Function.comp_def, List.filterMap_cons_some ha, List.map_cons, List.foldl_cons]

private theorem runOperations_eq (h : ∀ operation ∈ operations, (folding.amount? operation).isSome) (t : Table) :
    Pipeline.runOperations operations t = .ok (t.map fun r =>
      ⟨r.key, folding.combine r.value (Int64.ofInt (folding.total (operations.filterMap folding.amount?)))⟩) := by
  obtain ⟨stages, hstages, hrun⟩ := folding.exists_resolve .towardZero h
  rw [Pipeline.runOperations_of_resolve hstages, hrun]
  simp only [folding.foldl_combine]

private theorem runOperations_single (c : Int64) (t : Table) :
    Pipeline.runOperations [folding.single c] t = .ok (t.map fun r => ⟨r.key, folding.combine r.value c⟩) := by
  have hamount := folding.amount?_single c
  have hcombine (v : Int64) : folding.combine v (Int64.ofInt (folding.total [c.toInt])) = folding.combine v c := by
    rw [← folding.foldl_combine, List.map_singleton, Int64.ofInt_toInt]
    rfl
  rw [folding.runOperations_eq (by simp [hamount]), List.filterMap_cons_some hamount, List.filterMap_nil]
  simp only [hcombine]

end Folding

/-- Whether operations have the same result as a single one, and so in any other order. -/
def FoldInto (operations : List Operation) (single : Operation) : Prop :=
  ∀ t, ∃ u, Pipeline.runOperations operations t = .ok u ∧ Pipeline.runOperations [single] t = .ok u ∧
    ∀ others : List Operation, others.Perm operations → Pipeline.runOperations others t = .ok u

private theorem Folding.foldInto (folding : Folding) {operations : List Operation}
    (h : ∀ operation ∈ operations, (folding.amount? operation).isSome) :
    FoldInto operations (folding.single (Int64.ofInt (folding.total (operations.filterMap folding.amount?)))) := by
  intro t
  refine ⟨_, folding.runOperations_eq h t, folding.runOperations_single _ t, fun others hperm => ?_⟩
  rw [folding.runOperations_eq fun operation hmem => h operation (hperm.mem_iff.1 hmem),
    folding.total_eq_of_perm (hperm.filterMap folding.amount?)]

end Operation

/-- Additions and subtractions have the result of adding the sum of their numbers, and multiplications of multiplying by
the product, both reduced to 64 bits. -/
theorem Pipeline.runOperations_folded (operations : List Operation) :
    ((∀ operation ∈ operations, operation.addend?.isSome) →
      let c := Int64.ofInt (operations.filterMap Operation.addend?).sum
      Operation.FoldInto operations ⟨"MAP", s!"ADD({c})"⟩) ∧
    ((∀ operation ∈ operations, operation.factor?.isSome) →
      let c := Int64.ofInt (operations.filterMap Operation.factor?).prod
      Operation.FoldInto operations ⟨"MAP", s!"MULTIPLY({c})"⟩) :=
  ⟨Operation.Folding.sums.foldInto, Operation.Folding.products.foldInto⟩

/-- Constants whose sum and product wrap. -/
theorem Pipeline.runOperations_folded_overflow :
    let additions : List Operation :=
      [⟨"MAP", "SUBTRACT(-9223372036854775808)"⟩, ⟨"MAP", "ADD( 9223372036854775807 )"⟩, ⟨"MAP", "SUBTRACT(2)"⟩]
    let multiplications : List Operation := [⟨"MAP", "MULTIPLY(4294967296)"⟩, ⟨"MAP", "MULTIPLY(-4294967297)"⟩]
    ((∀ operation ∈ additions, operation.addend?.isSome) ∧ Operation.FoldInto additions ⟨"MAP", "ADD(-3)"⟩) ∧
      (∀ operation ∈ multiplications, operation.factor?.isSome) ∧
        Operation.FoldInto multiplications ⟨"MAP", "MULTIPLY(-4294967296)"⟩ := by
  intro additions multiplications
  have hadditions : ∀ operation ∈ additions, operation.addend?.isSome := by decide
  have hmultiplications : ∀ operation ∈ multiplications, operation.factor?.isSome := by decide
  exact ⟨⟨hadditions, (runOperations_folded additions).1 hadditions⟩,
    hmultiplications, (runOperations_folded multiplications).2 hmultiplications⟩

end KeyedFlow
