import KeyedFlow.Operator.Formula
import KeyedFlow.Proofs.Quotients
import Mathlib.Algebra.Order.Round
import Mathlib.Data.Int.ModEq
import Mathlib.Data.Rat.Floor

/-!
# Rounded rational numbers

Which integer a rounding puts in the place of a rational number is stated without reference to division of integers
(`Rounding.Rounds`).  Quotients of integers are the rounded rational quotients (`Rounding.rounds_intQuotient`), and so
are quotients of 64-bit numbers, but for the one that has no 64-bit value (`Rounding.divide_rounds`).
-/

namespace KeyedFlow.Rounding

/-- Whether a rounding puts an integer in the place of a rational number: the greatest that is not above it, or the
nearest to it between zero and the number. -/
def Rounds : Rounding → ℚ → ℤ → Prop
  | .floor, q, z => IsGreatest {k : ℤ | (k : ℚ) ≤ q} z
  | .towardZero, q, z => if 0 ≤ q then IsGreatest {k : ℤ | (k : ℚ) ≤ q} z else IsLeast {k : ℤ | q ≤ (k : ℚ)} z

section

variable {n d : ℤ}

private theorem fdiv_eq_floor (n d : ℤ) : n.fdiv d = ⌊(n : ℚ) / d⌋ := by
  have hnonneg (m : ℤ) (k : ℕ) : m.fdiv k = ⌊(m : ℚ) / (k : ℤ)⌋ := by
    rw [Int.fdiv_eq_ediv_of_nonneg m (Int.natCast_nonneg k)]
    exact (Rat.floor_intCast_div_natCast m k).symm
  rcases Int.eq_nat_or_neg d with ⟨k, rfl | rfl⟩
  · exact hnonneg n k
  · -- the quotient is the same if both signs are turned
    rw [← Int.neg_fdiv_neg, neg_neg, hnonneg (-n) k]
    push_cast
    rw [neg_div, div_neg]

private theorem tdiv_eq_floor (h : 0 ≤ (n : ℚ) / d) : n.tdiv d = ⌊(n : ℚ) / d⌋ := by
  have hnonneg (m k : ℤ) (hm : 0 ≤ m) (hk : 0 ≤ k) : m.tdiv k = m.fdiv k := by
    rw [Int.tdiv_eq_ediv_of_nonneg hm, Int.fdiv_eq_ediv_of_nonneg m hk]
  rw [← fdiv_eq_floor]
  rcases div_nonneg_iff.1 h with ⟨hn, hd⟩ | ⟨hn, hd⟩
  · exact hnonneg n d (Int.cast_nonneg_iff.1 hn) (Int.cast_nonneg_iff.1 hd)
  · have hn' : 0 ≤ -n := Int.neg_nonneg.2 (Int.cast_nonpos.1 hn)
    have hd' : 0 ≤ -d := Int.neg_nonneg.2 (Int.cast_nonpos.1 hd)
    rw [← Int.neg_tdiv_neg, ← Int.neg_fdiv_neg]
    exact hnonneg _ _ hn' hd'

private theorem tdiv_eq_ceil (h : (n : ℚ) / d < 0) : n.tdiv d = ⌈(n : ℚ) / d⌉ := by
  have hneg : -((n : ℚ) / d) = ((-n : ℤ) : ℚ) / d := by rw [Int.cast_neg, neg_div]
  have hpos : 0 ≤ ((-n : ℤ) : ℚ) / d := by
    rw [← hneg]
    exact neg_nonneg.2 h.le
  rw [← neg_neg (n.tdiv d), ← Int.neg_tdiv, tdiv_eq_floor hpos, ← hneg, Int.floor_neg, neg_neg]

/-- The quotients of integers are the rounded rational quotients. -/
theorem rounds_intQuotient (rounding : Rounding) (n d : ℤ) :
    rounding.Rounds ((n : ℚ) / d) (rounding.intQuotient n d) := by
  have hfloor : IsGreatest {k : ℤ | (k : ℚ) ≤ (n : ℚ) / d} ⌊(n : ℚ) / d⌋ := Int.gc_coe_floor.isGreatest_u
  have hceil : IsLeast {k : ℤ | (n : ℚ) / d ≤ (k : ℚ)} ⌈(n : ℚ) / d⌉ := Int.gc_ceil_coe.isLeast_l
  cases rounding with
  | floor =>
    show IsGreatest _ (n.fdiv d)
    rwa [fdiv_eq_floor]
  | towardZero =>
    show if 0 ≤ (n : ℚ) / d then IsGreatest _ (n.tdiv d) else IsLeast _ (n.tdiv d)
    split
    · rename_i h
      rwa [tdiv_eq_floor h]
    · rename_i h
      rwa [tdiv_eq_ceil (not_le.1 h)]

/-- The numbers of a quotient with a remainder differ in sign exactly where one is negative and the other is not. -/
private theorem sign_ne_sign_iff (hdvd : ¬d ∣ n) (hd : d ≠ 0) : n.sign ≠ d.sign ↔ decide (n < 0) ≠ decide (d < 0) := by
  have hn : n ≠ 0 := fun h => hdvd (h ▸ Int.dvd_zero d)
  rcases Int.lt_or_gt_of_ne hn with hn | hn <;> rcases Int.lt_or_gt_of_ne hd with hd | hd <;>
    simp [Int.sign_eq_neg_one_of_neg, Int.sign_eq_one_of_pos, hn, hd, hn.not_gt, hd.not_gt]

end

section

variable {n d : Int64}

private theorem divide_eq_none_iff (rounding : Rounding) : rounding.divide n d = none ↔ d = 0 := by
  unfold divide
  split <;> simp_all

private theorem divide_of_ne_zero (rounding : Rounding) (n : Int64) (hd : d ≠ 0) :
    rounding.divide n d = some (rounding.quotient n d) :=
  if_neg hd

private theorem quotient_minValue_neg_one (rounding : Rounding) :
    rounding.quotient Int64.minValue (-1) = Int64.minValue := by
  cases rounding <;> decide

/-- There is a remainder exactly when the divisor does not divide. -/
theorem mod_ne_zero_iff : n % d ≠ 0 ↔ ¬d.toInt ∣ n.toInt := by
  rw [Int.dvd_iff_tmod_eq_zero, ← Int64.toInt_mod, Ne, ← Int64.toInt_inj]
  rfl

/-- A quotient with a remainder is not the one that wraps, and there is a 64-bit number below it. -/
private theorem contains_div_sub_one (hd : d ≠ 0) (hmod : n % d ≠ 0) :
    IntegerRange.signed64.contains ((n / d).toInt - 1) := by
  have hdvd : ¬d.toInt ∣ n.toInt := mod_ne_zero_iff.1 hmod
  have hwrap : ¬(n = Int64.minValue ∧ d = -1) := by
    rintro ⟨-, rfl⟩
    exact hdvd (Int.neg_dvd.2 (Int.one_dvd _))
  have htruncated : (n / d).toInt = n.toInt.tdiv d.toInt := toInt_quotient .towardZero hd hwrap
  have hd' : d.toInt ≠ 0 := fun h => hd (Int64.toInt_inj.1 h)
  rw [htruncated]
  exact contains_tdiv_sub_one (IntegerRange.contains_toInt n) hd' fun h => hdvd (Int.dvd_iff_tmod_eq_zero.2 h)

/-- Modulo the 64-bit numbers every quotient is that of the integers. -/
theorem quotient_modEq (rounding : Rounding) (n : Int64) (hd : d ≠ 0) :
    (rounding.quotient n d).toInt ≡ rounding.intQuotient n.toInt d.toInt [ZMOD 2 ^ 64] := by
  by_cases hwrap : n = Int64.minValue ∧ d = -1
  · obtain ⟨rfl, rfl⟩ := hwrap
    cases rounding <;> decide
  · rw [rounding.toInt_quotient hd hwrap]

/-- The floor differs from the quotient cut off, by one, where there is a remainder and the signs differ. -/
private theorem quotient_floor (hd : d ≠ 0) :
    (quotient .towardZero n d ≠ quotient .floor n d ↔ ¬d.toInt ∣ n.toInt ∧ n.toInt.sign ≠ d.toInt.sign) ∧
      (quotient .towardZero n d ≠ quotient .floor n d →
        (quotient .towardZero n d).toInt = (quotient .floor n d).toInt + 1) := by
  have hd' : d.toInt ≠ 0 := fun h => hd (Int64.toInt_inj.1 h)
  have hcondition : (n % d ≠ 0 ∧ (decide (n < 0) ≠ decide (d < 0))) ↔
      ¬d.toInt ∣ n.toInt ∧ n.toInt.sign ≠ d.toInt.sign := by
    simp only [Int64.lt_iff_toInt_lt, Int64.toInt_zero]
    rw [mod_ne_zero_iff]
    exact and_congr_right fun hdvd => (sign_ne_sign_iff hdvd hd').symm
  rw [← hcondition]
  by_cases h : n % d ≠ 0 ∧ (decide (n < 0) ≠ decide (d < 0))
  · have hfloor : quotient .floor n d = n / d - 1 := if_pos h
    have hsub : (n / d - 1).toInt = (n / d).toInt - 1 := toInt_sub_one (contains_div_sub_one hd h.1)
    have hone : (quotient .towardZero n d).toInt = (quotient .floor n d).toInt + 1 := by
      rw [hfloor, hsub]
      show (n / d).toInt = _
      omega
    refine ⟨iff_of_true (fun heq => ?_) h, fun _ => hone⟩
    rw [heq] at hone
    omega
  · have hfloor : quotient .floor n d = quotient .towardZero n d := if_neg h
    exact ⟨iff_of_false (fun hne => hne hfloor.symm) h, fun hne => absurd hfloor.symm hne⟩

end

/-- Division fails for the divisor zero only, and formulas divide alike.  Otherwise the quotient is that of the
rational numbers, rounded, except that the smallest number divided by minus one is the smallest number again.  Where one
is subtracted for the floor, no 64-bit number is too small.  The roundings differ where there is a remainder and the
signs of the two numbers differ, and they differ by one. -/
theorem divide_rounds (n d : Int64) :
    (∀ rounding : Rounding, rounding.divide n d = none ↔ d = 0) ∧
    (∀ (rounding : Rounding) (hd : d ≠ 0), rounding.divide n d = some (Formula.eval ⟨.divide d hd, rounding⟩ n)) ∧
    (d ≠ 0 → ¬(n = Int64.minValue ∧ d = -1) → ∀ rounding : Rounding, ∃ q : Int64,
      rounding.divide n d = some q ∧ rounding.Rounds ((n.toInt : ℚ) / d.toInt) q.toInt) ∧
    (∀ rounding : Rounding, rounding.divide Int64.minValue (-1) = some Int64.minValue) ∧
    (d ≠ 0 → n % d ≠ 0 → decide (n < 0) ≠ decide (d < 0) → IntegerRange.signed64.contains ((n / d).toInt - 1)) ∧
    (d ≠ 0 → (divide .towardZero n d ≠ divide .floor n d ↔
      ¬d.toInt ∣ n.toInt ∧ n.toInt.sign ≠ d.toInt.sign)) ∧
    ∀ t f, divide .towardZero n d = some t → divide .floor n d = some f → t ≠ f → t.toInt = f.toInt + 1 := by
  refine ⟨fun rounding => rounding.divide_eq_none_iff, fun rounding hd => rounding.divide_of_ne_zero n hd,
    fun hd hwrap rounding => ?_, fun rounding => ?_, fun hd hmod _ => contains_div_sub_one hd hmod, fun hd => ?_,
    fun t f ht hf hne => ?_⟩
  · refine ⟨rounding.quotient n d, rounding.divide_of_ne_zero n hd, ?_⟩
    rw [rounding.toInt_quotient hd hwrap]
    exact rounding.rounds_intQuotient n.toInt d.toInt
  · rw [rounding.divide_of_ne_zero _ (by decide), quotient_minValue_neg_one]
  · rw [divide_of_ne_zero _ n hd, divide_of_ne_zero _ n hd, Ne, Option.some_inj]
    exact (quotient_floor hd).1
  · have hd : d ≠ 0 := by
      rintro rfl
      cases ht
    rw [divide_of_ne_zero _ n hd] at ht hf
    cases ht
    cases hf
    exact (quotient_floor hd).2 hne

/-- The least integer is not a multiple of seven, so the roundings of its quotient differ. -/
theorem divide_rounds_smallest :
    (7 : Int64) ≠ 0 ∧ ¬(Int64.minValue = Int64.minValue ∧ (7 : Int64) = -1) ∧
      floor.divide Int64.minValue 7 = some (-1317624576693539402) ∧
      floor.Rounds ((-9223372036854775808 : ℤ) / (7 : ℤ)) (-1317624576693539402) ∧
      divide .towardZero Int64.minValue 7 ≠ divide .floor Int64.minValue 7 := by
  obtain ⟨-, -, hrounds, -, -, hdiffer, -⟩ := divide_rounds Int64.minValue 7
  obtain ⟨q, hq, hfloor⟩ := hrounds (by decide) (by decide) .floor
  have hvalue : floor.divide Int64.minValue 7 = some (-1317624576693539402) := by decide
  rw [hvalue] at hq
  cases hq
  exact ⟨by decide, by decide, hvalue, hfloor, (hdiffer (by decide)).2 (by decide)⟩

end KeyedFlow.Rounding
