import KeyedFlow.Text.Blank
import KeyedFlow.Text.Numeral
import Mathlib

/-!
# Spellings of integers

An integer can be written with any number of leading zeros, and with a plus sign unless it is negative
(`Text.Numeral.Spells`).  Every spelling of a signed 64-bit integer is read as that integer
(`Text.Numeral.readInt64_of_spells`), and so is the usual text of the integer, which is one of its spellings.
-/

namespace KeyedFlow.Text

namespace Numeral

/-- The decimal digits of a number behind some zeros. -/
def paddedDigits (zeros n : Nat) : List Char :=
  List.replicate zeros '0' ++ Nat.toDigits 10 n

/-- The spellings of an integer. -/
inductive Spells : Int → List Char → Prop where
  | unsigned (n zeros : Nat) : Spells n (paddedDigits zeros n)
  | plus (n zeros : Nat) : Spells n ('+' :: paddedDigits zeros n)
  | minus {n : Nat} (h : n ≠ 0) (zeros : Nat) : Spells (-n) ('-' :: paddedDigits zeros n)

private theorem isDigit_of_mem_paddedDigits {zeros n : Nat} {c : Char} (hc : c ∈ paddedDigits zeros n) :
    c.isDigit = true := by
  rcases List.mem_append.1 hc with hc | hc
  · rw [List.eq_of_mem_replicate hc]
    rfl
  · exact Nat.isDigit_of_mem_toDigits (by decide) (by decide) hc

private theorem paddedDigits_ne_nil (zeros n : Nat) : paddedDigits zeros n ≠ [] :=
  List.append_ne_nil_of_right_ne_nil _ Nat.toDigits_ne_nil

private theorem ofDigitChars_paddedDigits (zeros n : Nat) : Nat.ofDigitChars 10 (paddedDigits zeros n) 0 = n := by
  rw [paddedDigits, Nat.ofDigitChars_append, Nat.ofDigitChars_replicate_zero, Nat.mul_zero,
    Nat.ofDigitChars_ten_toDigits]

namespace Spells

variable {n : Int} {s : List Char}

private theorem mem_cases (h : Spells n s) {c : Char} (hc : c ∈ s) : c = '+' ∨ c = '-' ∨ c.isDigit = true := by
  cases h with
  | unsigned n zeros => exact Or.inr (Or.inr (isDigit_of_mem_paddedDigits hc))
  | plus n zeros =>
    rcases List.mem_cons.1 hc with rfl | hc
    · exact Or.inl rfl
    · exact Or.inr (Or.inr (isDigit_of_mem_paddedDigits hc))
  | minus hn zeros =>
    rcases List.mem_cons.1 hc with rfl | hc
    · exact Or.inr (Or.inl rfl)
    · exact Or.inr (Or.inr (isDigit_of_mem_paddedDigits hc))

/-- A spelling of an integer is not empty. -/
theorem ne_nil (h : Spells n s) : s ≠ [] := by
  cases h with
  | unsigned n zeros => exact paddedDigits_ne_nil zeros n
  | plus | minus => exact List.cons_ne_nil _ _

/-- The characters of a spelling are printable ASCII characters, and neither blanks nor commas nor quotes. -/
theorem toNat_of_mem (h : Spells n s) {c : Char} (hc : c ∈ s) :
    0x2B ≤ c.toNat ∧ c.toNat ≤ 0x39 ∧ c.toNat ≠ 0x2C := by
  rcases h.mem_cases hc with rfl | rfl | hdigit
  · decide
  · decide
  · have := Char.isDigit_iff_toNat.1 hdigit
    simp only [Char.reduceToNat] at this
    omega

private theorem isBlank_of_mem (h : Spells n s) {c : Char} (hc : c ∈ s) : isBlank c = false := by
  have := h.toNat_of_mem hc
  unfold isBlank
  simp
  omega

/-- A spelling of an integer has no blanks around it. -/
theorem trim_eq (h : Spells n s) : trim s = s :=
  trim_eq_self (fun _ hc => h.isBlank_of_mem (List.mem_of_mem_head? hc))
    (fun _ hc => h.isBlank_of_mem (List.mem_of_mem_getLast? hc))

end Spells

/-- A digit is appended to a value, unless the value then leaves the range. -/
theorem readDigits_cons (range : IntegerRange) (sign : Int) (value : Nat) {c : Char} (hc : c.isDigit = true)
    (rest : List Char) :
    readDigits range sign (sign * value) (c :: rest) =
      if range.hi < sign * ↑(10 * value + (c.toNat - '0'.toNat)) then .error .tooLarge
      else if sign * ↑(10 * value + (c.toNat - '0'.toNat)) < range.lo then .error .tooSmall
      else readDigits range sign (sign * ↑(10 * value + (c.toNat - '0'.toNat))) rest := by
  have hnext : sign * value * 10 + sign * digitValue c = sign * ↑(10 * value + (c.toNat - '0'.toNat)) := by
    unfold digitValue
    push_cast
    ring
  rw [readDigits, if_pos hc]
  dsimp only
  rw [hnext]

/-- Digits are appended to a value as long as the value at the end is in the range. -/
theorem readDigits_eq {range : IntegerRange} (hzero : range.contains 0) {sign : Int} (hsign : sign = 1 ∨ sign = -1)
    {digits : List Char} (hdigits : ∀ c ∈ digits, c.isDigit = true) (value : Nat)
    (hrange : range.contains (sign * Nat.ofDigitChars 10 digits value)) :
    readDigits range sign (sign * value) digits = .ok (sign * Nat.ofDigitChars 10 digits value) := by
  induction digits generalizing value with
  | nil => rfl
  | cons c rest ih =>
    rw [Nat.ofDigitChars_cons] at hrange ⊢
    -- the value at the end is not nearer to zero than the values on the way
    have hle : 10 * value + (c.toNat - '0'.toNat) ≤
        Nat.ofDigitChars 10 rest (10 * value + (c.toNat - '0'.toNat)) := by
      rw [Nat.ofDigitChars_eq_ofDigitChars_zero]
      have : 1 ≤ 10 ^ rest.length := Nat.one_le_pow _ _ (by decide)
      nlinarith
    rw [IntegerRange.contains_iff] at hzero hrange
    rw [readDigits_cons range sign value (hdigits c List.mem_cons_self), if_neg, if_neg]
    · exact ih (fun d hd => hdigits d (List.mem_cons_of_mem _ hd)) _ (IntegerRange.contains_iff.2 hrange)
    · rcases hsign with rfl | rfl <;> omega
    · rcases hsign with rfl | rfl <;> omega

private theorem readMagnitude_paddedDigits {range : IntegerRange} (hzero : range.contains 0) {sign : Int}
    (hsign : sign = 1 ∨ sign = -1) (zeros : Nat) {n : Nat} (hrange : range.contains (sign * n)) :
    readMagnitude range sign (paddedDigits zeros n) = .ok (sign * n) := by
  have hdigits : ∀ c ∈ paddedDigits zeros n, c.isDigit = true := fun _ => isDigit_of_mem_paddedDigits
  have hread := readDigits_eq hzero hsign hdigits 0
  rw [ofDigitChars_paddedDigits, Nat.cast_zero, mul_zero] at hread
  cases heq : paddedDigits zeros n with
  | nil => exact absurd heq (paddedDigits_ne_nil zeros n)
  | cons c rest =>
    rw [← hread hrange, heq]
    rfl

/-- Every spelling of an integer is read as that integer, if it is in the range that is asked for. -/
private theorem read_of_spells {range : IntegerRange} (hzero : range.contains 0) {n : Int} {s : List Char}
    (h : Spells n s) (hrange : range.contains n) : read range s = .ok n := by
  cases h with
  | unsigned n zeros =>
    have hread := readMagnitude_paddedDigits hzero (Or.inl rfl) zeros (n := n) (by rwa [one_mul])
    rw [one_mul] at hread
    rw [← hread]
    unfold read
    split
    · rename_i hnil
      exact absurd hnil (paddedDigits_ne_nil zeros n)
    · rename_i digits hplus
      have : '+' ∈ paddedDigits zeros n := by rw [hplus]; exact List.mem_cons_self
      exact absurd (isDigit_of_mem_paddedDigits this) (by decide)
    · rename_i digits hminus
      have : '-' ∈ paddedDigits zeros n := by rw [hminus]; exact List.mem_cons_self
      exact absurd (isDigit_of_mem_paddedDigits this) (by decide)
    · rfl
  | plus n zeros =>
    have hread := readMagnitude_paddedDigits hzero (Or.inl rfl) zeros (n := n) (by rwa [one_mul])
    rw [one_mul] at hread
    exact hread
  | @minus n hn zeros =>
    have hread := readMagnitude_paddedDigits hzero (Or.inr rfl) zeros (n := n) (by rwa [neg_one_mul])
    rw [neg_one_mul] at hread
    have hlo : range.lo < 0 := by
      rw [IntegerRange.contains_iff] at hrange
      omega
    show (if range.lo < 0 then readMagnitude range (-1) (paddedDigits zeros n) else .error .badDigit) = _
    rw [if_pos hlo, hread]

/-- A spelling of a 64-bit integer is read as this integer. -/
theorem readInt64_of_spells {n : Int64} {s : List Char} (h : Spells n.toInt s) : readInt64 s = .ok n := by
  unfold readInt64
  rw [read_of_spells (by decide) h (IntegerRange.contains_toInt n)]
  exact congrArg Except.ok n.ofInt_toInt

/-- A 64-bit integer is written in one of its spellings. -/
theorem spells_toString (n : Int64) : Spells n.toInt (toString n).toList := by
  show Spells n.toInt n.toInt.repr.toList
  rw [Int.repr_eq_if]
  split
  · rename_i hn
    have h := Spells.unsigned n.toInt.toNat 0
    rw [Int.toNat_of_nonneg hn] at h
    rwa [Nat.toList_repr]
  · rename_i hn
    have h := Spells.minus (n := (-n.toInt).toNat) (by omega) 0
    rw [Int.toNat_of_nonneg (by omega), neg_neg] at h
    rwa [String.toList_append, Nat.toList_repr]

end Numeral

end KeyedFlow.Text
