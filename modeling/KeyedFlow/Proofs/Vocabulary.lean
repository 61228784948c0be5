import KeyedFlow.Proofs.NamedStages
import KeyedFlow.Proofs.NumeralValues

/-!
# The vocabulary of operators

Every operator has functions of its own, some of which take a number (`Operator.bareFunctions`,
`Operator.numberFunctions`).  A call under an operator is resolved in one of five ways (`Call.Resolution`), which are
told apart by its name and its number alone (`Stage.resolution_compile`).  So for each kind of failure it is known
exactly which calls fail with it (`Call.Resolution.eq_unsupportedFunction_iff` and its neighbours).
-/

namespace KeyedFlow

namespace Operator

/-- The functions of an operator that take no number. -/
def bareFunctions : Operator → List String
  | .filter => ["IS_EVEN", "IS_ODD"]
  | .map | .changeKey => []
  | .reduce => ["SUM", "PRODUCT", "MIN", "MAX", "COUNT"]

/-- The functions of an operator that take a number. -/
def numberFunctions : Operator → List String
  | .filter => ["LT", "GT", "GTE", "LTE"]
  | .map | .changeKey => ["ADD", "SUBTRACT", "MULTIPLY", "DIVIDE"]
  | .reduce => []

private theorem not_mem_numberFunctions {operator : Operator} {name : String} (h : name ∈ operator.bareFunctions) :
    name ∉ operator.numberFunctions := by
  cases operator <;> simp only [bareFunctions, numberFunctions, List.mem_cons, List.not_mem_nil, or_false] at h ⊢
  all_goals rcases h with rfl | rfl | rfl | rfl | rfl <;> decide

private theorem not_mem_bareFunctions {operator : Operator} {name : String} (h : name ∈ operator.numberFunctions) :
    name ∉ operator.bareFunctions :=
  fun hbare => not_mem_numberFunctions hbare h

end Operator

/-- Whether the argument of a call denotes a 64-bit integer; blanks around it do not count. -/
def Call.HasNumber (call : Call) (n : Int64) : Prop :=
  ∃ argument, call.argument = some argument ∧ Text.Numeral.Denotes (Text.trim argument.toList) n.toInt

/-- A call has the number that its argument is read as. -/
theorem Call.hasNumber_iff {call : Call} {n : Int64} : call.HasNumber n ↔ call.integer = .ok n := by
  unfold HasNumber integer
  cases call.argument with
  | none => simp
  | some argument => simp [mapError_eq_ok_iff, Text.Numeral.readInt64_eq_ok_iff]

private theorem Call.requireInteger_eq_error {call : Call} {fault : ArgumentFault} (h : call.integer = .error fault) :
    call.requireInteger = .error (call.argumentFailure fault) :=
  mapError_eq_error_iff.2 ⟨fault, h, rfl⟩

/-- The ways in which a call is resolved under an operator. -/
inductive Call.Resolution (operator : Operator) (call : Call) {α : Type} : Except Failure α → Prop where
  | unknown (hbare : call.name ∉ operator.bareFunctions) (hnumber : call.name ∉ operator.numberFunctions) :
      Resolution operator call (.error (.unsupportedFunction operator.name call.name))
  | noNumber {fault : ArgumentFault} (hname : call.name ∈ operator.numberFunctions)
      (hfault : call.integer = .error fault) : Resolution operator call (.error (call.argumentFailure fault))
  | zero (hname : call.name ∈ operator.numberFunctions) (hdivide : call.name = "DIVIDE")
      (hzero : call.integer = .ok 0) : Resolution operator call (.error (.divisionByZero operator.name call.text))
  | bare (hname : call.name ∈ operator.bareFunctions) (a : α) : Resolution operator call (.ok a)
  | withNumber {n : Int64} (hname : call.name ∈ operator.numberFunctions) (hn : call.integer = .ok n)
      (hdivide : call.name = "DIVIDE" → n ≠ 0) (a : α) : Resolution operator call (.ok a)

namespace Call

variable {operator : Operator} {call : Call} {α β : Type}

private theorem Resolution.map {result : Except Failure α} (h : Resolution operator call result) (f : α → β) :
    Resolution operator call (result.map f) := by
  cases h with
  | unknown hbare hnumber => exact .unknown hbare hnumber
  | noNumber hname hfault => exact .noNumber hname hfault
  | zero hname hdivide hzero => exact .zero hname hdivide hzero
  | bare hname a => exact .bare hname (f a)
  | withNumber hname hn hdivide a => exact .withNumber hname hn hdivide (f a)

private theorem resolution_requireInteger (hname : call.name ∈ operator.numberFunctions)
    (hdivide : call.name ≠ "DIVIDE") : Resolution operator call call.requireInteger := by
  cases hinteger : call.integer with
  | error fault =>
    rw [requireInteger_eq_error hinteger]
    exact .noNumber hname hinteger
  | ok n =>
    rw [requireInteger_eq_ok_iff.2 hinteger]
    exact .withNumber hname hinteger (fun h => absurd h hdivide) n

private theorem resolution_condition (call : Call) : Resolution .filter call (Condition.ofCall call) := by
  unfold Condition.ofCall
  split
  case h_1 hname | h_2 hname => exact .bare (by simp [hname, Operator.bareFunctions]) _
  case h_3 hname | h_4 hname | h_5 hname | h_6 hname =>
    exact (resolution_requireInteger (by simp [hname, Operator.numberFunctions]) (by simp [hname])).map _
  case h_7 => exact .unknown (by simp_all [Operator.bareFunctions]) (by simp_all [Operator.numberFunctions])

private theorem resolution_aggregate (call : Call) : Resolution .reduce call (Aggregate.ofCall call) := by
  unfold Aggregate.ofCall
  split
  case h_6 => exact .unknown (by simp_all [Operator.bareFunctions]) (by simp [Operator.numberFunctions])
  all_goals
    rename_i hname
    exact .bare (by simp [hname, Operator.bareFunctions]) _

private theorem resolution_arithmetic (hbare : operator.bareFunctions = [])
    (hnumber : operator.numberFunctions = ["ADD", "SUBTRACT", "MULTIPLY", "DIVIDE"]) (call : Call) :
    Resolution operator call (Formula.arithmeticOfCall operator call) := by
  unfold Formula.arithmeticOfCall
  split
  case h_1 hname | h_2 hname | h_3 hname =>
    exact (resolution_requireInteger (by simp [hname, hnumber]) (by simp [hname])).map _
  case h_4 hname =>
    have hmem : call.name ∈ operator.numberFunctions := by simp [hname, hnumber]
    cases hinteger : call.integer with
    | error fault =>
      rw [requireInteger_eq_error hinteger]
      exact .noNumber hmem hinteger
    | ok n =>
      rw [requireInteger_eq_ok_iff.2 hinteger]
      show Resolution operator call
        (if nonzero : n ≠ 0 then .ok (Arithmetic.divide n nonzero)
        else .error (.divisionByZero operator.name call.text))
      split
      · rename_i hn
        exact .withNumber hmem hinteger (fun _ => hn) _
      · rename_i hn
        rw [not_not.1 hn] at hinteger
        exact .zero hmem hname hinteger
  case h_5 => exact .unknown (by simp [hbare]) (by simp_all)

end Call

/-- A function text is resolved in the way of its call. -/
theorem Stage.resolution_compile (operator : Operator) (rounding : Rounding) (function : String) :
    (Call.parse function).Resolution operator (compile operator rounding function) := by
  cases operator with
  | filter => exact (Call.resolution_condition _).map _
  | map => exact ((Call.resolution_arithmetic rfl rfl _).map _).map _
  | changeKey => exact ((Call.resolution_arithmetic rfl rfl _).map _).map _
  | reduce => exact (Call.resolution_aggregate _).map _

namespace Call.Resolution

variable {operator : Operator} {call : Call} {α : Type} {result : Except Failure α}

/-- A function is unsupported exactly when it is in neither list of the operator. -/
theorem eq_unsupportedFunction_iff (h : Resolution operator call result) {o f : String} :
    result = .error (.unsupportedFunction o f) ↔
      (call.name ∉ operator.bareFunctions ∧ call.name ∉ operator.numberFunctions) ∧
        o = operator.name ∧ f = call.name := by
  cases h with
  | unknown hbare hnumber => simp [hbare, hnumber, eq_comm]
  | noNumber hname | zero hname | withNumber hname => simp [hname, argumentFailure]
  | bare hname => simp [hname]

/-- An argument is bad exactly when the function takes a number and the argument is none. -/
theorem eq_badArgument_iff (h : Resolution operator call result) {f reason : String} {argument : Option String} :
    result = .error (.badArgument f argument reason) ↔
      (call.name ∈ operator.numberFunctions ∧ ¬∃ n, call.integer = .ok n) ∧
        f = call.name ∧ argument = call.argument ∧ ∃ fault, call.integer = .error fault ∧ reason = fault.message := by
  cases h with
  | unknown _ hnumber => simp [hnumber]
  | noNumber hname hfault => simp [hname, hfault, argumentFailure, eq_comm]
  | zero _ _ hinteger | withNumber _ hinteger => simp [hinteger]
  | bare hname => simp [Operator.not_mem_numberFunctions hname]

/-- A division by zero is a `DIVIDE` with the number zero. -/
theorem eq_divisionByZero_iff (h : Resolution operator call result) {o f : String} :
    result = .error (.divisionByZero o f) ↔
      (call.name ∈ operator.numberFunctions ∧ call.name = "DIVIDE" ∧ call.integer = .ok 0) ∧
        o = operator.name ∧ f = call.text := by
  cases h with
  | unknown _ hnumber => simp [hnumber]
  | noNumber _ hfault => simp [hfault, argumentFailure]
  | zero hname hdivide hzero => simp [hdivide ▸ hname, hdivide, hzero, eq_comm]
  | bare hname => simp [Operator.not_mem_numberFunctions hname]
  | withNumber _ hn hdivide => simp_all

/-- A call is resolved exactly when its function takes no number, or takes the one it has and no zero as a divisor. -/
theorem exists_eq_ok_iff (h : Resolution operator call result) :
    (∃ a, result = .ok a) ↔
      call.name ∈ operator.bareFunctions ∨
        call.name ∈ operator.numberFunctions ∧ ∃ n, call.integer = .ok n ∧ (call.name = "DIVIDE" → n ≠ 0) := by
  cases h with
  | unknown hbare hnumber => simp [hbare, hnumber]
  | noNumber hname hfault => simp [hfault, Operator.not_mem_bareFunctions hname]
  | zero hname hdivide hzero => simp [hzero, hdivide, hdivide ▸ Operator.not_mem_bareFunctions hname]
  | bare hname => simp [hname]
  | withNumber hname hn hdivide => exact iff_of_true ⟨_, rfl⟩ (Or.inr ⟨hname, _, hn, hdivide⟩)

end Call.Resolution

/-- Functions without a number do not look at the argument. -/
theorem Stage.compile_congr {operator : Operator} {function other : String}
    (hname : (Call.parse other).name = (Call.parse function).name)
    (hbare : (Call.parse function).name ∈ operator.bareFunctions) (rounding : Rounding) :
    compile operator rounding other = compile operator rounding function := by
  cases operator with
  | filter =>
    obtain ⟨condition, hcondition, hbound⟩ :
        ∃ condition : Condition, (Call.parse function).name = condition.name ∧ condition.bound? = none := by
      simp only [Operator.bareFunctions, List.mem_cons, List.not_mem_nil, or_false] at hbare
      rcases hbare with hbare | hbare
      · exact ⟨.isEven, hbare, rfl⟩
      · exact ⟨.isOdd, hbare, rfl⟩
    have hresolved (call : Call) (h : call.name = condition.name) : Condition.ofCall call = .ok condition :=
      Condition.ofCall_eq_ok_iff.2 ⟨h, by simp [hbound]⟩
    show (Condition.ofCall _).map _ = (Condition.ofCall _).map _
    rw [hresolved _ (hname.trans hcondition), hresolved _ hcondition]
  | map | changeKey => cases hbare
  | reduce =>
    show (Aggregate.ofCall _).map _ = (Aggregate.ofCall _).map _
    unfold Aggregate.ofCall
    rw [hname]

end KeyedFlow
