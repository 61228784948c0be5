import KeyedFlow.Rounding
import Mathlib.Data.Int.Basic

/-!
# Quotients of integers

A rounding is a way to divide integers of any size (`Rounding.intQuotient`).  The quotient of 64-bit numbers is that of
the integers, as long as the smallest number is not divided by minus one (`Rounding.toInt_quotient`).  So quotients are
in the order of their dividends if the divisor is positive, and in the opposite order if it is below minus one
(`Rounding.quotient_le_quotient`, `Rounding.quotient_le_quotient_of_neg`).
-/

namespace KeyedFlow.Rounding

/-- The quotient of integers of any size. -/
def intQuotient : Rounding → Int → Int → Int
  | .towardZero => Int.tdiv
  | .floor => Int.fdiv

section

variable (rounding : Rounding) {m n d : Int}

private theorem intQuotient_le_intQuotient (hd : 0 < d) (h : m ≤ n) :
    rounding.intQuotient m d ≤ rounding.intQuotient n d := by
  cases rounding with
  | towardZero => exact Int.tdiv_le_tdiv hd h
  | floor =>
    show m.fdiv d ≤ n.fdiv d
    rw [Int.fdiv_eq_ediv_of_nonneg m (Int.le_of_lt hd), Int.fdiv_eq_ediv_of_nonneg n (Int.le_of_lt hd)]
    exact Int.ediv_le_ediv hd h

private theorem intQuotient_neg_neg (n d : Int) : rounding.intQuotient (-n) (-d) = rounding.intQuotient n d := by
  cases rounding with
  | towardZero => exact Int.neg_tdiv_neg n d
  | floor => exact Int.neg_fdiv_neg n d

private theorem intQuotient_le_intQuotient_of_neg (hd : d < 0) (h : m ≤ n) :
    rounding.intQuotient n d ≤ rounding.intQuotient m d := by
  rw [← intQuotient_neg_neg rounding n d, ← intQuotient_neg_neg rounding m d]
  exact rounding.intQuotient_le_intQuotient (Int.neg_pos_of_neg hd) (Int.neg_le_neg h)

end

/-- The floor is below the quotient that is cut off exactly where there is a remainder and the signs differ. -/
private theorem fdiv_eq_tdiv_sub (n d : Int) (hd : d ≠ 0) :
    n.fdiv d = n.tdiv d - if n.tmod d ≠ 0 ∧ (decide (n < 0) ≠ decide (d < 0)) then 1 else 0 := by
  rw [Int.fdiv_eq_tdiv]
  by_cases hdvd : d ∣ n
  · simp [hdvd, Int.dvd_iff_tmod_eq_zero.1 hdvd]
  · have hmod : n.tmod d ≠ 0 := fun h => hdvd (Int.dvd_iff_tmod_eq_zero.2 h)
    rw [if_neg hdvd]
    -- what is taken off depends on the signs of both numbers only
    rcases Int.lt_or_gt_of_ne hd with hneg | hpos
    · have hd' : ¬ 0 ≤ d := Int.not_le.2 hneg
      by_cases hn : 0 ≤ n <;>
        simp [hn, hd', hneg, hmod, Int.sign_eq_neg_one_of_neg hneg, ← Int.not_le]
    · have hd' : 0 ≤ d := Int.le_of_lt hpos
      by_cases hn : 0 ≤ n <;>
        simp [hn, hd', hmod, Int.sign_eq_one_of_pos hpos, ← Int.not_le]

/-- A quotient with a remainder has a divisor of at least two in size, so it is at most half its dividend's size. -/
private theorem natAbs_tdiv_le_half {n d : Int} (hd : d ≠ 0) (hmod : n.tmod d ≠ 0) :
    2 * (n.tdiv d).natAbs ≤ n.natAbs := by
  have htwo : 2 ≤ d.natAbs := by
    by_contra hsmall
    have hone : d = 1 ∨ d = -1 := by omega
    rcases hone with rfl | rfl
    · exact hmod (Int.tmod_one n)
    · exact hmod (by simp)
  rw [Int.natAbs_tdiv]
  have hle : n.natAbs / d.natAbs ≤ n.natAbs / 2 := Nat.div_le_div_left htwo (by decide)
  have : n.natAbs.div d.natAbs = n.natAbs / d.natAbs := rfl
  omega

/-- Below a quotient with a remainder there is another number of the range. -/
theorem contains_tdiv_sub_one {n d : Int} (hn : IntegerRange.signed64.contains n) (hd : d ≠ 0) (hmod : n.tmod d ≠ 0) :
    IntegerRange.signed64.contains (n.tdiv d - 1) := by
  have hhalf := natAbs_tdiv_le_half hd hmod
  rw [IntegerRange.contains_iff] at hn ⊢
  simp only [IntegerRange.signed64] at hn ⊢
  omega

/-- Subtracting one is exact where the result is in the range. -/
theorem toInt_sub_one {q : Int64} (h : IntegerRange.signed64.contains (q.toInt - 1)) :
    (q - 1).toInt = q.toInt - 1 := by
  rw [IntegerRange.contains_iff] at h
  simp only [IntegerRange.signed64] at h
  rw [Int64.toInt_sub, Int64.toInt_one]
  apply Int.bmod_eq_of_le <;> omega

/-- The quotient of 64-bit numbers is that of the integers, except for the one that has no 64-bit value. -/
theorem toInt_quotient (rounding : Rounding) {v p : Int64} (hp : p ≠ 0) (hwrap : ¬ (v = Int64.minValue ∧ p = -1)) :
    (rounding.quotient v p).toInt = rounding.intQuotient v.toInt p.toInt := by
  have htruncated : (v / p).toInt = v.toInt.tdiv p.toInt := by
    by_cases hv : v = Int64.minValue
    · exact Int64.toInt_div_of_ne_right v p fun h => hwrap ⟨hv, h⟩
    · exact Int64.toInt_div_of_ne_left v p hv
  cases rounding with
  | towardZero => exact htruncated
  | floor =>
    have hp' : p.toInt ≠ 0 := fun h => hp (Int64.toInt_inj.1 h)
    have hmod : v % p ≠ 0 ↔ v.toInt.tmod p.toInt ≠ 0 := by
      rw [← Int64.toInt_mod, Ne, ← Int64.toInt_inj]
      rfl
    show Int64.toInt (if v % p ≠ 0 ∧ (decide (v < 0) ≠ decide (p < 0)) then v / p - 1 else v / p) = v.toInt.fdiv p.toInt
    rw [fdiv_eq_tdiv_sub _ _ hp']
    simp only [hmod, Int64.lt_iff_toInt_lt, Int64.toInt_zero]
    split
    · rename_i hrounded
      -- a quotient that is rounded is far from the smallest number, so subtracting one does not wrap
      have hcontains := contains_tdiv_sub_one (IntegerRange.contains_toInt v) hp' hrounded.1
      rw [toInt_sub_one (by rwa [htruncated]), htruncated]
    · rw [htruncated, Int.sub_zero]

/-- Minus one is the only divisor by which a quotient can wrap. -/
private theorem quotient_le_iff (rounding : Rounding) {v w p : Int64} (hp : p ≠ 0) (hp' : p ≠ -1) :
    rounding.quotient v p ≤ rounding.quotient w p ↔
      rounding.intQuotient v.toInt p.toInt ≤ rounding.intQuotient w.toInt p.toInt := by
  have htoInt (u : Int64) : (rounding.quotient u p).toInt = rounding.intQuotient u.toInt p.toInt :=
    rounding.toInt_quotient hp fun h => hp' h.2
  rw [Int64.le_iff_toInt_le, htoInt, htoInt]

/-- Division by a positive number keeps the order. -/
theorem quotient_le_quotient (rounding : Rounding) {v w p : Int64} (hp : 0 < p) (h : v ≤ w) :
    rounding.quotient v p ≤ rounding.quotient w p := by
  have hp' : p ≠ -1 := by
    rintro rfl
    exact absurd hp (by decide)
  rw [rounding.quotient_le_iff (Int64.ne_of_lt hp).symm hp']
  exact rounding.intQuotient_le_intQuotient (Int64.lt_iff_toInt_lt.1 hp) (Int64.le_iff_toInt_le.1 h)

/-- Division by a number below minus one reverses the order. -/
theorem quotient_le_quotient_of_neg (rounding : Rounding) {v w p : Int64} (hp : p < -1) (h : v ≤ w) :
    rounding.quotient w p ≤ rounding.quotient v p := by
  have hneg : p < 0 := Int64.lt_trans hp (by decide)
  rw [rounding.quotient_le_iff (Int64.ne_of_lt hneg) (Int64.ne_of_lt hp)]
  exact rounding.intQuotient_le_intQuotient_of_neg (Int64.lt_iff_toInt_lt.1 hneg) (Int64.le_iff_toInt_le.1 h)

/-- By minus one the order is not reversed: the quotient of the smallest number wraps. -/
example : floor.quotient Int64.minValue (-1) < floor.quotient 5 (-1) := by decide

end KeyedFlow.Rounding
