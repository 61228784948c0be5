import KeyedFlow.Proofs.Resolution

/-!
# Stages by name

An operation resolves to the stage of its operator with the function that its call names
(`Operation.compile_filter_eq_ok_iff` and its neighbours).  A call names a function by the name of the function and, if
the function needs a number, by an argument that is the number (`Condition.ofCall_eq_ok_iff`,
`Formula.ofCall_eq_ok_iff`, `Aggregate.ofCall_eq_ok_iff`).
-/

namespace KeyedFlow

namespace Operation

variable {rounding : Rounding} {function : String} {stage : Stage}

/-- A `FILTER` compiles to the stage of the condition that its call names. -/
theorem compile_filter_eq_ok_iff :
    compile rounding ⟨"FILTER", function⟩ = .ok stage ↔
      ∃ condition, Condition.ofCall (Call.parse function) = .ok condition ∧ .filter condition = stage :=
  map_eq_ok_iff (x := Condition.ofCall (Call.parse function))

/-- A `MAP` compiles to the stage of the formula that its call names. -/
theorem compile_map_eq_ok_iff :
    compile rounding ⟨"MAP", function⟩ = .ok stage ↔
      ∃ formula, Formula.ofCall .map rounding (Call.parse function) = .ok formula ∧ .map formula = stage :=
  map_eq_ok_iff (x := Formula.ofCall .map rounding (Call.parse function))

/-- A `CHANGEKEY` compiles to the stage of the formula that its call names. -/
theorem compile_changeKey_eq_ok_iff :
    compile rounding ⟨"CHANGEKEY", function⟩ = .ok stage ↔
      ∃ formula, Formula.ofCall .changeKey rounding (Call.parse function) = .ok formula ∧ .changeKey formula = stage :=
  map_eq_ok_iff (x := Formula.ofCall .changeKey rounding (Call.parse function))

/-- A `REDUCE` compiles to the stage of the aggregate that its call names. -/
theorem compile_reduce_eq_ok_iff :
    compile rounding ⟨"REDUCE", function⟩ = .ok stage ↔
      ∃ aggregate, Aggregate.ofCall (Call.parse function) = .ok aggregate ∧ .reduce aggregate = stage :=
  map_eq_ok_iff (x := Aggregate.ofCall (Call.parse function))

end Operation

variable {call : Call}

/-- A required integer is the integer of the call. -/
theorem Call.requireInteger_eq_ok_iff {p : Int64} : call.requireInteger = .ok p ↔ call.integer = .ok p :=
  mapError_eq_ok_iff

namespace Condition

/-- The name of a condition in calls. -/
def name : Condition → String
  | .isEven => "IS_EVEN"
  | .isOdd => "IS_ODD"
  | .less _ => "LT"
  | .greater _ => "GT"
  | .atLeast _ => "GTE"
  | .atMost _ => "LTE"

/-- The number with which a condition compares values. -/
def bound? : Condition → Option Int64
  | .isEven | .isOdd => none
  | .less bound | .greater bound | .atLeast bound | .atMost bound => some bound

/-- The condition of a call has its name and, if it compares, the number of its argument. -/
theorem ofCall_eq_ok_iff {condition : Condition} :
    ofCall call = .ok condition ↔
      call.name = condition.name ∧ ∀ bound ∈ condition.bound?, call.integer = .ok bound := by
  constructor
  · intro h
    unfold ofCall at h
    split at h
    case h_1 hname | h_2 hname =>
      cases h
      exact ⟨hname, by simp [bound?]⟩
    case h_3 hname | h_4 hname | h_5 hname | h_6 hname =>
      obtain ⟨p, hp, rfl⟩ := map_eq_ok_iff.1 h
      exact ⟨hname, by simpa [bound?] using Call.requireInteger_eq_ok_iff.1 hp⟩
    case h_7 => cases h
  · rintro ⟨hname, hbound⟩
    cases condition with
    | isEven | isOdd => simp [ofCall, hname, name]
    | less p | greater p | atLeast p | atMost p =>
      have hp := Call.requireInteger_eq_ok_iff.2 (hbound p rfl)
      simp [ofCall, hname, name, hp, Except.map]

end Condition

namespace Arithmetic

/-- The name of an arithmetic in calls. -/
def name : Arithmetic → String
  | .add _ => "ADD"
  | .subtract _ => "SUBTRACT"
  | .multiply _ => "MULTIPLY"
  | .divide _ _ => "DIVIDE"

/-- The constant that is combined with values. -/
def operand : Arithmetic → Int64
  | .add p | .subtract p | .multiply p | .divide p _ => p

end Arithmetic

namespace Formula

variable {operator : Operator} {rounding : Rounding}

private theorem arithmeticOfCall_eq_ok_iff {arithmetic : Arithmetic} :
    arithmeticOfCall operator call = .ok arithmetic ↔
      call.name = arithmetic.name ∧ call.integer = .ok arithmetic.operand := by
  constructor
  · intro h
    unfold arithmeticOfCall at h
    split at h
    case h_1 hname | h_2 hname | h_3 hname =>
      obtain ⟨p, hp, rfl⟩ := map_eq_ok_iff.1 h
      exact ⟨hname, Call.requireInteger_eq_ok_iff.1 hp⟩
    case h_4 hname =>
      cases hp : call.requireInteger with
      | error failure => simp [hp, bind, Except.bind] at h
      | ok p =>
        by_cases hnonzero : p = 0
        · simp [hp, bind, Except.bind, hnonzero, throw, throwThe, MonadExceptOf.throw] at h
        · simp [hp, bind, Except.bind, hnonzero, pure, Except.pure] at h
          subst h
          exact ⟨hname, Call.requireInteger_eq_ok_iff.1 hp⟩
    case h_5 => cases h
  · rintro ⟨hname, hinteger⟩
    have hp := Call.requireInteger_eq_ok_iff.2 hinteger
    cases arithmetic with
    | add p | subtract p | multiply p =>
      simp [arithmeticOfCall, hname, Arithmetic.name, hp, Except.map, Arithmetic.operand]
    | divide p hnonzero =>
      simp [arithmeticOfCall, hname, Arithmetic.name, hp, bind, Except.bind, pure, Except.pure, hnonzero,
        Arithmetic.operand]

/-- The arithmetic of a call has its name and the number of its argument. -/
theorem ofCall_eq_ok_iff {formula : Formula} :
    ofCall operator rounding call = .ok formula ↔
      (call.name = formula.arithmetic.name ∧ call.integer = .ok formula.arithmetic.operand) ∧
        formula.rounding = rounding := by
  unfold ofCall
  rw [map_eq_ok_iff, ← arithmeticOfCall_eq_ok_iff]
  constructor
  · rintro ⟨arithmetic, h, rfl⟩
    exact ⟨h, rfl⟩
  · rintro ⟨h, rfl⟩
    exact ⟨formula.arithmetic, h, rfl⟩

end Formula

namespace Aggregate

/-- The name of an aggregate in calls. -/
def name : Aggregate → String
  | .sum => "SUM"
  | .product => "PRODUCT"
  | .min => "MIN"
  | .max => "MAX"
  | .count => "COUNT"

/-- The aggregate of a call has its name. -/
theorem ofCall_eq_ok_iff {aggregate : Aggregate} : ofCall call = .ok aggregate ↔ call.name = aggregate.name := by
  constructor
  · intro h
    unfold ofCall at h
    split at h <;> cases h <;> assumption
  · intro hname
    cases aggregate <;> simp [ofCall, hname, name]

end Aggregate

end KeyedFlow
