import KeyedFlow.Proofs.Combination
import KeyedFlow.Proofs.RowWise
import Mathlib

/-!
# Exact arithmetic

Operations that add, subtract, multiply, count and ask for parity can be carried out on unbounded integers
(`RingOperation.apply`).  They respect congruence modulo 2 ^ 64, which reduction to 64 bits is
(`RingOperation.apply_wrapped`).  So a run, which reduces the outcome of every step, gives the table that is computed
exactly and reduced once at the end (`Pipeline.runOperations_exact`).
-/

namespace KeyedFlow

/-- A key with an integer of any size. -/
structure ExactRecord where
  key : Int64
  value : Int
  deriving DecidableEq, Repr

/-- Records with integers of any size. -/
abbrev ExactTable := List ExactRecord

/-- The values of a table as integers. -/
def Table.exact (t : Table) : ExactTable :=
  t.map fun r => ⟨r.key, r.value.toInt⟩

namespace ExactTable

/-- The keys, in table order. -/
def keys (t : ExactTable) : List Int64 :=
  t.map ExactRecord.key

/-- The values of a key, in table order. -/
def valuesOf (t : ExactTable) (k : Int64) : List Int :=
  (t.filter fun r => r.key = k).map ExactRecord.value

/-- One record for every key, in ascending order, with a value computed from the values of the key. -/
def reduce (combine : List Int → Int) (t : ExactTable) : ExactTable :=
  (ascendingKeys t.keys).map fun k => ⟨k, combine (t.valuesOf k)⟩

/-- Every value replaced by the number from -2 ^ 63 to 2 ^ 63 - 1 that is congruent to it modulo 2 ^ 64. -/
def representatives (t : ExactTable) : ExactTable :=
  t.map fun r => ⟨r.key, r.value.bmod (2 ^ 64)⟩

/-- Every value reduced to 64 bits. -/
def wrapped (t : ExactTable) : Table :=
  t.map fun r => ⟨r.key, Int64.ofInt r.value⟩

private theorem wrapped_exact (t : Table) : wrapped t.exact = t := by
  rw [wrapped, Table.exact, List.map_map]
  conv => rhs; rw [← List.map_id t]
  apply List.map_congr_left
  intro r _
  simp

private theorem exact_wrapped (t : ExactTable) : Table.exact t.wrapped = t.representatives := by
  simp [wrapped, Table.exact, representatives, Int64.toInt_ofInt, Int64.size]

private theorem keys_wrapped (t : ExactTable) : Table.keys t.wrapped = t.keys := by
  simp [wrapped, Table.keys, keys]

private theorem valuesOf_wrapped (t : ExactTable) (k : Int64) :
    Table.valuesOf t.wrapped k = (t.valuesOf k).map Int64.ofInt := by
  simp only [wrapped, Table.valuesOf, Table.values, valuesOf, List.filter_map, List.map_map]
  rfl

private theorem length_valuesOf_le (t : ExactTable) (k : Int64) : (t.valuesOf k).length ≤ t.length := by
  rw [valuesOf, List.length_map]
  exact List.length_filter_le _ t

private theorem length_reduce_le (combine : List Int → Int) (t : ExactTable) :
    (t.reduce combine).length ≤ t.length := by
  have h := length_ascendingKeys_le t.keys
  rw [keys, List.length_map] at h
  rwa [reduce, List.length_map]

end ExactTable

namespace Aggregate

/-- Adding up wrapped integers is wrapping their sum. -/
theorem foldl_add_ofInt (vs : List Int) (a : Int) :
    (vs.map Int64.ofInt).foldl (· + ·) (Int64.ofInt a) = Int64.ofInt (a + vs.sum) := by
  induction vs generalizing a with
  | nil => simp
  | cons v vs ih => rw [List.map_cons, List.foldl_cons, ← Int64.ofInt_add, ih, List.sum_cons, Int.add_assoc]

/-- Multiplying wrapped integers is wrapping their product. -/
theorem foldl_mul_ofInt (vs : List Int) (a : Int) :
    (vs.map Int64.ofInt).foldl (· * ·) (Int64.ofInt a) = Int64.ofInt (a * vs.prod) := by
  induction vs generalizing a with
  | nil => simp
  | cons v vs ih => rw [List.map_cons, List.foldl_cons, ← Int64.ofInt_mul, ih, List.prod_cons, Int.mul_assoc]

/-- The sum of a group of wrapped integers. -/
theorem combine_sum_ofInt (vs : List Int) :
    sum.combine (vs.map Int64.ofInt) = Int64.ofInt vs.sum := by
  have h := foldl_add_ofInt vs 0
  rwa [Int.zero_add] at h

/-- The product of a group of wrapped integers. -/
theorem combine_product_ofInt (vs : List Int) :
    product.combine (vs.map Int64.ofInt) = Int64.ofInt vs.prod := by
  have h := foldl_mul_ofInt vs 1
  rwa [Int.one_mul] at h

private theorem combine_count_ofInt {vs : List Int} (h : vs.length < 2 ^ 63) :
    count.combine (vs.map Int64.ofInt) = Int64.ofInt vs.length := by
  show clamped (vs.map Int64.ofInt).length = Int64.ofInt vs.length
  rw [List.length_map, clamped_of_lt h, Int64.ofInt_eq_ofNat]

end Aggregate

/-- The operations that need no more than addition, multiplication, counting and parity. -/
inductive RingOperation where
  | add (p : Int64)
  | subtract (p : Int64)
  | multiply (p : Int64)
  | keepEven
  | keepOdd
  | sum
  | product
  | count
  deriving DecidableEq, Repr

namespace RingOperation

/-- Reads such an operation off an operation as written. -/
def ofOperation? (operation : Operation) : Option RingOperation :=
  let call := Call.parse operation.function
  match operation.operator, call.name with
  | "MAP", "ADD" => call.integer.toOption.map add
  | "MAP", "SUBTRACT" => call.integer.toOption.map subtract
  | "MAP", "MULTIPLY" => call.integer.toOption.map multiply
  | "FILTER", "IS_EVEN" => some keepEven
  | "FILTER", "IS_ODD" => some keepOdd
  | "REDUCE", "SUM" => some sum
  | "REDUCE", "PRODUCT" => some product
  | "REDUCE", "COUNT" => some count
  | _, _ => none

/-- The operation on integers of any size: nothing is ever reduced to 64 bits. -/
def apply : RingOperation → ExactTable → ExactTable
  | add p, t => t.map fun r => ⟨r.key, r.value + p.toInt⟩
  | subtract p, t => t.map fun r => ⟨r.key, r.value - p.toInt⟩
  | multiply p, t => t.map fun r => ⟨r.key, r.value * p.toInt⟩
  | keepEven, t => t.filter fun r => r.value % 2 = 0
  | keepOdd, t => t.filter fun r => r.value % 2 ≠ 0
  | sum, t => t.reduce List.sum
  | product, t => t.reduce List.prod
  | count, t => t.reduce fun vs => vs.length

/-- The table after some operations on integers of any size. -/
def applyAll (operations : List RingOperation) (t : ExactTable) : ExactTable :=
  operations.foldl (fun t operation => operation.apply t) t

/-- The stage of an operation. -/
def stage (rounding : Rounding) : RingOperation → Stage
  | add p => .map ⟨.add p, rounding⟩
  | subtract p => .map ⟨.subtract p, rounding⟩
  | multiply p => .map ⟨.multiply p, rounding⟩
  | keepEven => .filter .isEven
  | keepOdd => .filter .isOdd
  | sum => .reduce .sum
  | product => .reduce .product
  | count => .reduce .count

private theorem requireInteger_of_integer {call : Call} {p : Int64} (h : call.integer.toOption = some p) :
    call.requireInteger = .ok p := by
  unfold Call.requireInteger
  cases hinteger : call.integer with
  | error fault => simp [hinteger, Except.toOption] at h
  | ok q =>
    rw [hinteger] at h
    cases h
    rfl

/-- An operation on integers of any size compiles to its stage. -/
theorem compile_of_ofOperation? {operation : Operation} {ring : RingOperation}
    (h : ofOperation? operation = some ring) (rounding : Rounding) :
    operation.compile rounding = .ok (ring.stage rounding) := by
  obtain ⟨operator, function⟩ := operation
  unfold ofOperation? at h
  rw [Operation.compile_eq_ok_iff]
  dsimp only at h ⊢
  split at h
  -- The names that take an argument come first.
  case h_1 | h_2 | h_3 =>
    rename_i hname
    obtain ⟨p, hp, rfl⟩ := Option.map_eq_some_iff.1 h
    refine ⟨.map, rfl, ?_⟩
    simp [Stage.compile, Formula.ofCall, Formula.arithmeticOfCall, hname, requireInteger_of_integer hp, Except.map,
      stage]
  case h_4 | h_5 =>
    rename_i hname
    cases h
    refine ⟨.filter, rfl, ?_⟩
    simp [Stage.compile, Condition.ofCall, hname, Except.map, stage]
  case h_6 | h_7 | h_8 =>
    rename_i hname
    cases h
    refine ⟨.reduce, rfl, ?_⟩
    simp [Stage.compile, Aggregate.ofCall, hname, Except.map, stage]
  case h_9 => cases h

private theorem length_apply_le (ring : RingOperation) (t : ExactTable) : (ring.apply t).length ≤ t.length := by
  cases ring with
  | add p | subtract p | multiply p => exact Nat.le_of_eq (List.length_map _)
  | keepEven | keepOdd => exact List.length_filter_le _ t
  | sum => exact t.length_reduce_le List.sum
  | product => exact t.length_reduce_le List.prod
  | count => exact t.length_reduce_le fun vs => vs.length

/-- Parity is the same for all integers that are congruent modulo 2 ^ 64. -/
private theorem ofInt_mod_two (v : Int) : Int64.ofInt v % 2 = 0 ↔ v % 2 = 0 := by
  rw [← Int64.toInt_inj, Int64.toInt_mod, Int64.toInt_ofInt]
  show (v.bmod 18446744073709551616).tmod 2 = 0 ↔ v % 2 = 0
  rw [← Int.dvd_iff_tmod_eq_zero, Int.bmod_def]
  split <;> omega

private theorem holds_isEven_ofInt (v : Int) : Condition.isEven.holds (Int64.ofInt v) = decide (v % 2 = 0) := by
  rw [Bool.eq_iff_iff, decide_eq_true_iff, ← ofInt_mod_two]
  exact beq_iff_eq

private theorem holds_isOdd_ofInt (v : Int) : Condition.isOdd.holds (Int64.ofInt v) = decide (v % 2 ≠ 0) := by
  rw [Bool.eq_iff_iff, decide_eq_true_iff, Ne, ← ofInt_mod_two]
  exact bne_iff_ne

/-- Reducing to 64 bits commutes with replacing values, if it does with the outcome for a value. -/
private theorem mapValues_wrapped {formula : Formula} {f : Int → Int}
    (h : ∀ v, formula.eval (Int64.ofInt v) = Int64.ofInt (f v)) (t : ExactTable) :
    formula.mapValues t.wrapped = ExactTable.wrapped (t.map fun r => ⟨r.key, f r.value⟩) := by
  simp only [Formula.mapValues, ExactTable.wrapped, List.map_map, Function.comp_def, h]

/-- Reducing to 64 bits commutes with keeping records, if it does not change which values are kept. -/
private theorem condition_apply_wrapped {condition : Condition} {keep : Int → Bool}
    (h : ∀ v, condition.holds (Int64.ofInt v) = keep v) (t : ExactTable) :
    condition.apply t.wrapped = ExactTable.wrapped (t.filter fun r => keep r.value) := by
  simp only [Condition.apply, ExactTable.wrapped, List.filter_map, Function.comp_def, h]

/-- Reducing to 64 bits commutes with grouping, if it does with the value of a group. -/
private theorem aggregate_apply_wrapped {aggregate : Aggregate} (combine : List Int → Int) {t : ExactTable}
    (h : ∀ k, aggregate.combine ((t.valuesOf k).map Int64.ofInt) = Int64.ofInt (combine (t.valuesOf k))) :
    aggregate.apply t.wrapped = (t.reduce combine).wrapped := by
  have hright : (t.reduce combine).wrapped =
      (ascendingKeys t.keys).map fun k => ⟨k, Int64.ofInt (combine (t.valuesOf k))⟩ :=
    List.map_map
  rw [hright, Aggregate.apply_eq, ExactTable.keys_wrapped]
  apply List.map_congr_left
  intro k _
  rw [ExactTable.valuesOf_wrapped, h]

/-- An operation on 64-bit values is the exact operation reduced to 64 bits. -/
theorem apply_wrapped (ring : RingOperation) (rounding : Rounding) {t : ExactTable} (hlen : t.length < 2 ^ 63) :
    (ring.stage rounding).apply t.wrapped = (ring.apply t).wrapped := by
  cases ring with
  | add p =>
    have heval (v : Int) : Formula.eval ⟨.add p, rounding⟩ (Int64.ofInt v) = Int64.ofInt (v + p.toInt) := by
      rw [Int64.ofInt_add, Int64.ofInt_toInt]
      rfl
    exact mapValues_wrapped heval t
  | subtract p =>
    have heval (v : Int) : Formula.eval ⟨.subtract p, rounding⟩ (Int64.ofInt v) = Int64.ofInt (v - p.toInt) := by
      rw [Int64.ofInt_sub, Int64.ofInt_toInt]
      rfl
    exact mapValues_wrapped heval t
  | multiply p =>
    have heval (v : Int) : Formula.eval ⟨.multiply p, rounding⟩ (Int64.ofInt v) = Int64.ofInt (v * p.toInt) := by
      rw [Int64.ofInt_mul, Int64.ofInt_toInt]
      rfl
    exact mapValues_wrapped heval t
  | keepEven => exact condition_apply_wrapped holds_isEven_ofInt t
  | keepOdd => exact condition_apply_wrapped holds_isOdd_ofInt t
  | sum => exact aggregate_apply_wrapped List.sum fun k => Aggregate.combine_sum_ofInt (t.valuesOf k)
  | product => exact aggregate_apply_wrapped List.prod fun k => Aggregate.combine_product_ofInt (t.valuesOf k)
  | count =>
    have hgroup (k : Int64) : (t.valuesOf k).length < 2 ^ 63 := Nat.lt_of_le_of_lt (t.length_valuesOf_le k) hlen
    exact aggregate_apply_wrapped (fun vs => vs.length) fun k => Aggregate.combine_count_ofInt (hgroup k)

/-- Operations on 64-bit values are the exact operations, reduced to 64 bits at the end. -/
private theorem applyAll_wrapped (operations : List RingOperation) (rounding : Rounding) {t : ExactTable}
    (hlen : t.length < 2 ^ 63) :
    Stage.applyAll (operations.map (stage rounding)) t.wrapped = (applyAll operations t).wrapped := by
  induction operations generalizing t with
  | nil => rfl
  | cons ring rest ih =>
    have hrest : (ring.apply t).length < 2 ^ 63 := Nat.lt_of_le_of_lt (ring.length_apply_le t) hlen
    rw [List.map_cons, Stage.applyAll_cons, ring.apply_wrapped rounding hlen, ih hrest]
    rfl

/-- Operations that are read off operations as written have the stages these resolve to. -/
private theorem resolve_of_mapM {operations : List Operation} {ring : List RingOperation}
    (h : operations.mapM ofOperation? = some ring) (rounding : Rounding) :
    Operation.Resolve rounding operations (ring.map (stage rounding)) := by
  induction operations generalizing ring with
  | nil =>
    cases h
    exact .nil
  | cons operation rest ih =>
    rw [List.mapM_cons] at h
    obtain ⟨first, hfirst, h⟩ := Option.bind_eq_some_iff.1 h
    obtain ⟨more, hmore, h⟩ := Option.bind_eq_some_iff.1 h
    cases h
    exact .cons (compile_of_ofOperation? hfirst rounding) (ih hmore)

end RingOperation

/-- Carrying out operations on integers of any size and reducing the values to 64 bits once, at the end, gives the
result of the run. -/
theorem Pipeline.runOperations_exact {operations : List Operation} {ring : List RingOperation}
    (h : operations.mapM RingOperation.ofOperation? = some ring) {t : Table} (hlen : t.length < 2 ^ 63) :
    ∃ u, runOperations operations t = .ok u ∧
      u.exact = (RingOperation.applyAll ring t.exact).representatives := by
  have hresolve := RingOperation.resolve_of_mapM h .towardZero
  have hexact : t.exact.length < 2 ^ 63 := by rwa [Table.exact, List.length_map]
  refine ⟨_, runOperations_of_resolve hresolve t, ?_⟩
  rw [← ExactTable.exact_wrapped, ← RingOperation.applyAll_wrapped ring .towardZero hexact, ExactTable.wrapped_exact]

/-- Products that wrap before their parity is asked for. -/
theorem Pipeline.runOperations_exact_overflow :
    let operations : List Operation :=
      [⟨"MAP", "MULTIPLY(4611686018427387905)"⟩, ⟨"MAP", "MULTIPLY(6)"⟩, ⟨"MAP", "ADD(1)"⟩, ⟨"FILTER", "IS_ODD"⟩,
        ⟨"REDUCE", "PRODUCT"⟩]
    let ring : List RingOperation := [.multiply 4611686018427387905, .multiply 6, .add 1, .keepOdd, .product]
    let t : Table := [⟨1, 3⟩, ⟨-2, -5⟩, ⟨1, 7⟩]
    operations.mapM RingOperation.ofOperation? = some ring ∧ t.length < 2 ^ 63 ∧
      ∃ u, Pipeline.runOperations operations t = .ok u ∧
        u.exact = (RingOperation.applyAll ring t.exact).representatives := by
  intro operations ring t
  have hread : operations.mapM RingOperation.ofOperation? = some ring := by rfl
  have hlen : t.length < 2 ^ 63 := by decide
  exact ⟨hread, hlen, runOperations_exact hread hlen⟩

end KeyedFlow
