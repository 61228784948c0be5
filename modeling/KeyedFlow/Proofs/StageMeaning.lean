import KeyedFlow.Proofs.GroupValues
import KeyedFlow.Proofs.RationalQuotients
import KeyedFlow.Proofs.Vocabulary

/-!
# What stages do

What a call does to a table under an operator is said by the name of its function and its number alone, in terms of
integers and rational numbers (`Call.Does`).  The stage that a call is resolved to does just that, and which calls are
resolved is settled by the vocabulary (`Stage.compile_does`).
-/

namespace KeyedFlow

namespace Call

variable (call : Call)

/-- Whether a call of `FILTER` keeps a value. -/
def Keeps (v : Int64) : Prop :=
  match call.name with
  | "IS_EVEN" => Even v.toInt
  | "IS_ODD" => Odd v.toInt
  | "LT" => ∃ p, call.HasNumber p ∧ v.toInt < p.toInt
  | "GT" => ∃ p, call.HasNumber p ∧ p.toInt < v.toInt
  | "GTE" => ∃ p, call.HasNumber p ∧ p.toInt ≤ v.toInt
  | "LTE" => ∃ p, call.HasNumber p ∧ v.toInt ≤ p.toInt
  | _ => False

/-- Whether a call of `MAP` or `CHANGEKEY` computes an integer, of any size, from a value. -/
def Yields (rounding : Rounding) (v : Int64) (z : ℤ) : Prop :=
  ∃ p, call.HasNumber p ∧
    match call.name with
    | "ADD" => z = v.toInt + p.toInt
    | "SUBTRACT" => z = v.toInt - p.toInt
    | "MULTIPLY" => z = v.toInt * p.toInt
    | "DIVIDE" => p ≠ 0 ∧ rounding.Rounds ((v.toInt : ℚ) / p.toInt) z
    | _ => False

/-- Whether a call of `MAP` or `CHANGEKEY` puts a number in the place of a value or key: what it computes, modulo the
64-bit numbers. -/
def Puts (rounding : Rounding) (v w : Int64) : Prop :=
  ∃ z, call.Yields rounding v z ∧ w.toInt ≡ z [ZMOD 2 ^ 64]

/-- Whether a call of `REDUCE` collapses values to a number. -/
def Collapses (values : List Int64) (v : Int64) : Prop :=
  match call.name with
  | "SUM" => v.toInt ≡ (values.map Int64.toInt).sum [ZMOD 2 ^ 64]
  | "PRODUCT" => v.toInt ≡ (values.map Int64.toInt).prod [ZMOD 2 ^ 64]
  | "MIN" => v ∈ values ∧ ∀ w ∈ values, v ≤ w
  | "MAX" => v ∈ values ∧ ∀ w ∈ values, w ≤ v
  | "COUNT" => v.toInt = min (values.length : ℤ) 0x7FFFFFFFFFFFFFFF
  | _ => False

/-- Whether a call under an operator makes a table of a table.  `FILTER` keeps records, in order; `MAP` and `CHANGEKEY`
go from record to record and change nothing but the value and nothing but the key; `REDUCE` has one record for every
key, in ascending order. -/
def Does (operator : Operator) (rounding : Rounding) (t u : Table) : Prop :=
  match operator with
  | .filter => ∃ keep : Int64 → Bool, (∀ v, keep v = true ↔ call.Keeps v) ∧ u = t.filter fun r => keep r.value
  | .map => List.Forall₂ (fun r s => s.key = r.key ∧ call.Puts rounding r.value s.value) t u
  | .changeKey => List.Forall₂ (fun r s => call.Puts rounding r.value s.key ∧ s.value = r.value) t u
  | .reduce => u.keys.Pairwise (· < ·) ∧ (∀ k, k ∈ u.keys ↔ k ∈ t.keys) ∧
      ∀ r ∈ u, call.Collapses (t.valuesOf r.key) r.value

end Call

variable {call : Call}

namespace Condition

private theorem even_iff (v : Int64) : v % 2 = 0 ↔ Even v.toInt := by
  rw [even_iff_two_dvd, ← not_iff_not]
  exact Rounding.mod_ne_zero_iff (d := 2)

private theorem holds_iff {condition : Condition} (h : ofCall call = .ok condition) (v : Int64) :
    condition.holds v = true ↔ call.Keeps v := by
  obtain ⟨hname, hbound⟩ := ofCall_eq_ok_iff.1 h
  unfold Call.Keeps
  rw [hname]
  cases condition with
  | isEven => simp [holds, name, even_iff]
  | isOdd => simp [holds, name, even_iff]
  | less p | greater p | atLeast p | atMost p =>
    simp [holds, name, Call.hasNumber_iff, hbound p rfl, Int64.lt_iff_toInt_lt, Int64.le_iff_toInt_le]

end Condition

namespace Formula

variable {operator : Operator} {rounding : Rounding} {formula : Formula}

private theorem puts_eval (h : ofCall operator rounding call = .ok formula) (v : Int64) :
    call.Puts rounding v (formula.eval v) := by
  obtain ⟨⟨hname, hinteger⟩, rfl⟩ := ofCall_eq_ok_iff.1 h
  have hp : call.HasNumber formula.arithmetic.operand := Call.hasNumber_iff.2 hinteger
  obtain ⟨arithmetic, rounding⟩ := formula
  unfold Call.Puts Call.Yields
  rw [hname]
  cases arithmetic with
  | add p => exact ⟨v.toInt + p.toInt, ⟨p, hp, rfl⟩, Int64.toInt_add v p ▸ Int.bmod_emod⟩
  | subtract p => exact ⟨v.toInt - p.toInt, ⟨p, hp, rfl⟩, Int64.toInt_sub v p ▸ Int.bmod_emod⟩
  | multiply p => exact ⟨v.toInt * p.toInt, ⟨p, hp, rfl⟩, Int64.toInt_mul v p ▸ Int.bmod_emod⟩
  | divide p hnonzero =>
    exact ⟨rounding.intQuotient v.toInt p.toInt, ⟨p, hp, hnonzero, rounding.rounds_intQuotient v.toInt p.toInt⟩,
      rounding.quotient_modEq v hnonzero⟩

end Formula

namespace Aggregate

private theorem collapses_combine {aggregate : Aggregate} (h : ofCall call = .ok aggregate) {values : List Int64}
    (hne : values ≠ []) : call.Collapses values (aggregate.combine values) := by
  have hname := ofCall_eq_ok_iff.1 h
  unfold Call.Collapses
  rw [hname]
  cases aggregate with
  | sum => exact sum.isValueOf_combine hne nofun
  | product => exact product.isValueOf_combine hne nofun
  | min => exact isValueOf_min hne
  | max => exact isValueOf_max hne
  | count => exact toInt_clamped values.length

end Aggregate

namespace Stage

variable {operator : Operator} {rounding : Rounding} {function : String} {stage : Stage}

/-- A stage does what its call says. -/
private theorem does_apply (h : compile operator rounding function = .ok stage) (t : Table) :
    (Call.parse function).Does operator rounding t (stage.apply t) := by
  cases operator with
  | filter =>
    obtain ⟨condition, hcondition, rfl⟩ := map_eq_ok_iff.1 h
    exact ⟨condition.holds, Condition.holds_iff hcondition, rfl⟩
  | map =>
    obtain ⟨formula, hformula, rfl⟩ := map_eq_ok_iff.1 h
    refine List.forall₂_map_right_iff.2 (List.forall₂_same.2 fun r _ => ⟨rfl, ?_⟩)
    exact Formula.puts_eval hformula r.value
  | changeKey =>
    obtain ⟨formula, hformula, rfl⟩ := map_eq_ok_iff.1 h
    refine List.forall₂_map_right_iff.2 (List.forall₂_same.2 fun r _ => ⟨?_, rfl⟩)
    exact Formula.puts_eval hformula r.value
  | reduce =>
    obtain ⟨aggregate, haggregate, rfl⟩ := map_eq_ok_iff.1 h
    refine ⟨?_, fun k => Aggregate.mem_keys_apply, fun r hr => ?_⟩
    · show (Table.keys (aggregate.apply t)).Pairwise (· < ·)
      rw [Aggregate.keys_apply]
      exact pairwise_ascendingKeys t.keys
    · have hr : r ∈ aggregate.apply t := hr
      rw [Aggregate.apply_eq] at hr
      obtain ⟨k, hk, rfl⟩ := List.mem_map.1 hr
      exact Aggregate.collapses_combine haggregate (Table.valuesOf_ne_nil (mem_ascendingKeys.1 hk))

/-- A call is rejected with the names of its operator and function exactly if the operator does not know the function,
for its argument exactly if the function takes a number and the call has none, and for the divisor exactly if it divides
by zero.  Every other call is resolved to a stage of its operator, which does what the call says.  Functions that take
no number ignore an argument. -/
theorem compile_does (operator : Operator) (rounding : Rounding) (function : String) :
    let call := Call.parse function
    let result := compile operator rounding function
    (∀ o f, result = .error (.unsupportedFunction o f) ↔
      (call.name ∉ operator.bareFunctions ∧ call.name ∉ operator.numberFunctions) ∧ o = operator.name ∧ f = call.name) ∧
    (∀ f argument reason, result = .error (.badArgument f argument reason) ↔
      (call.name ∈ operator.numberFunctions ∧ ¬∃ n, call.HasNumber n) ∧
        f = call.name ∧ argument = call.argument ∧ ∃ fault, call.integer = .error fault ∧ reason = fault.message) ∧
    (∀ o f, result = .error (.divisionByZero o f) ↔
      (call.name ∈ operator.numberFunctions ∧ call.name = "DIVIDE" ∧ call.HasNumber 0) ∧
        o = operator.name ∧ f = call.text) ∧
    ((∃ stage, result = .ok stage) ↔
      call.name ∈ operator.bareFunctions ∨
        call.name ∈ operator.numberFunctions ∧ ∃ n, call.HasNumber n ∧ (call.name = "DIVIDE" → n ≠ 0)) ∧
    (∀ stage, result = .ok stage →
      stage.operator = operator ∧ ∀ t, call.Does operator rounding t (stage.apply t)) ∧
    ∀ other, (Call.parse other).name = call.name → call.name ∈ operator.bareFunctions →
      compile operator rounding other = result := by
  intro call result
  have hresolution : call.Resolution operator result := resolution_compile operator rounding function
  simp only [Call.hasNumber_iff]
  exact ⟨fun _ _ => hresolution.eq_unsupportedFunction_iff, fun _ _ _ => hresolution.eq_badArgument_iff,
    fun _ _ => hresolution.eq_divisionByZero_iff, hresolution.exists_eq_ok_iff,
    fun _ h => ⟨Operation.operator_of_stage_compile h, does_apply h⟩,
    fun _ hname hbare => compile_congr hname hbare rounding⟩

/-- A divisor that spells zero, and a negative divisor with a leading zero and a blank behind it. -/
theorem compile_does_spelledZero :
    compile .changeKey .floor "DIVIDE( +00)" = .error (.divisionByZero "CHANGEKEY" "DIVIDE( +00)") ∧
      ∃ stage, compile .map .floor "DIVIDE(-02\u2003)" = .ok stage ∧ stage.apply [⟨1, 7⟩, ⟨1, 8⟩] = [⟨1, -4⟩, ⟨1, -4⟩] ∧
        (Call.parse "DIVIDE(-02\u2003)").Does .map .floor [⟨1, 7⟩, ⟨1, 8⟩] [⟨1, -4⟩, ⟨1, -4⟩] := by
  obtain ⟨-, -, hzero, -, -, -⟩ := compile_does .changeKey .floor "DIVIDE( +00)"
  obtain ⟨-, -, -, -, hdoes, -⟩ := compile_does .map .floor "DIVIDE(-02\u2003)"
  have hparse : Call.parse "DIVIDE( +00)" = ⟨"DIVIDE", some " +00"⟩ := by rfl
  have hnumber : (Call.parse "DIVIDE( +00)").HasNumber 0 := Call.hasNumber_iff.2 (by rfl)
  have hstage : compile .map .floor "DIVIDE(-02\u2003)" = .ok (.map ⟨.divide (-2) (by decide), .floor⟩) := by rfl
  have hdivide := (hzero "CHANGEKEY" "DIVIDE( +00)").2
    ⟨⟨by simp [hparse, Operator.numberFunctions], by rw [hparse], hnumber⟩, by rfl, by rw [hparse]; rfl⟩
  exact ⟨hdivide, _, hstage, by decide, (hdoes _ hstage).2 _⟩

end Stage

end KeyedFlow
