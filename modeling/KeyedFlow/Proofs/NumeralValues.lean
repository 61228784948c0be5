import KeyedFlow.Proofs.Spelling

/-!
# Values of numerals

A text denotes an integer if it is a sequence of decimal digits, perhaps behind a sign (`Text.Numeral.Denotes`).  There
may be any number of digits, so the integer may lie beyond every range.  What is read as a signed 64-bit integer denotes
this integer, and nothing else is read (`Text.Numeral.readInt64_eq_ok_iff`).
-/

namespace KeyedFlow.Text.Numeral

/-- The texts that denote an integer. -/
inductive Denotes : List Char → Int → Prop where
  | unsigned {digits : List Char} (hne : digits ≠ []) (hdigits : ∀ c ∈ digits, c.isDigit = true) :
      Denotes digits (Nat.ofDigitChars 10 digits 0)
  | plus {digits : List Char} (hne : digits ≠ []) (hdigits : ∀ c ∈ digits, c.isDigit = true) :
      Denotes ('+' :: digits) (Nat.ofDigitChars 10 digits 0)
  | minus {digits : List Char} (hne : digits ≠ []) (hdigits : ∀ c ∈ digits, c.isDigit = true) :
      Denotes ('-' :: digits) (-Nat.ofDigitChars 10 digits 0)

/-- Whether a text denotes an integer, however large. -/
def IsNumber (s : List Char) : Prop :=
  ∃ n, Denotes s n

/-- Whether a text denotes a signed 64-bit integer. -/
def IsInt64Number (s : List Char) : Prop :=
  ∃ n : Int64, Denotes s n.toInt

section

variable {range : IntegerRange} {s : List Char} {n : Int}

/-- Behind a plus sign, digits denote their number. -/
theorem denotes_plus_iff {digits : List Char} :
    Denotes ('+' :: digits) n ↔
      (digits ≠ [] ∧ ∀ c ∈ digits, c.isDigit = true) ∧ n = Nat.ofDigitChars 10 digits 0 := by
  constructor
  · intro h
    cases h with
    | unsigned _ hdigits => exact absurd (hdigits _ List.mem_cons_self) (by decide)
    | plus hne hdigits => exact ⟨⟨hne, hdigits⟩, rfl⟩
  · rintro ⟨⟨hne, hdigits⟩, rfl⟩
    exact .plus hne hdigits

/-- Behind a minus sign, digits denote the negative of their number. -/
theorem denotes_minus_iff {digits : List Char} :
    Denotes ('-' :: digits) n ↔
      (digits ≠ [] ∧ ∀ c ∈ digits, c.isDigit = true) ∧ n = -Nat.ofDigitChars 10 digits 0 := by
  constructor
  · intro h
    cases h with
    | unsigned _ hdigits => exact absurd (hdigits _ List.mem_cons_self) (by decide)
    | minus hne hdigits => exact ⟨⟨hne, hdigits⟩, rfl⟩
  · rintro ⟨⟨hne, hdigits⟩, rfl⟩
    exact .minus hne hdigits

/-- Without a sign, a text denotes a number if it consists of digits. -/
theorem denotes_iff_of_head_ne (hplus : s.head? ≠ some '+') (hminus : s.head? ≠ some '-') :
    Denotes s n ↔ (s ≠ [] ∧ ∀ c ∈ s, c.isDigit = true) ∧ n = Nat.ofDigitChars 10 s 0 := by
  constructor
  · intro h
    cases h with
    | unsigned hne hdigits => exact ⟨⟨hne, hdigits⟩, rfl⟩
    | plus => exact absurd rfl hplus
    | minus => exact absurd rfl hminus
  · rintro ⟨⟨hne, hdigits⟩, rfl⟩
    exact .unsigned hne hdigits

/-- What is read behind digits of a value in the range consists of digits, and the value at the end is in the range. -/
private theorem of_readDigits {sign : Int} {digits : List Char} {value : Nat} (hvalue : range.contains (sign * value))
    (h : readDigits range sign (sign * value) digits = .ok n) :
    (∀ c ∈ digits, c.isDigit = true) ∧ n = sign * Nat.ofDigitChars 10 digits value ∧ range.contains n := by
  induction digits generalizing value with
  | nil =>
    cases h
    exact ⟨by simp, rfl, hvalue⟩
  | cons c rest ih =>
    by_cases hc : c.isDigit = true
    · rw [readDigits_cons range sign value hc] at h
      split at h
      · cases h
      · split at h
        · cases h
        · rename_i hhi hlo
          obtain ⟨hrest, hn, hrange⟩ := ih (IntegerRange.contains_iff.2 ⟨by omega, by omega⟩) h
          exact ⟨List.forall_mem_cons.2 ⟨hc, hrest⟩, by rwa [Nat.ofDigitChars_cons], hrange⟩
    · rw [readDigits, if_neg hc] at h
      cases h

private theorem readMagnitude_eq_ok_iff (hzero : range.contains 0) {sign : Int} (hsign : sign = 1 ∨ sign = -1)
    {digits : List Char} :
    readMagnitude range sign digits = .ok n ↔
      ((digits ≠ [] ∧ ∀ c ∈ digits, c.isDigit = true) ∧ n = sign * Nat.ofDigitChars 10 digits 0) ∧
        range.contains n := by
  cases digits with
  | nil => simp [readMagnitude]
  | cons c rest =>
    have hstart : readMagnitude range sign (c :: rest) = readDigits range sign (sign * (0 : Nat)) (c :: rest) := by
      rw [Nat.cast_zero, mul_zero]
      rfl
    rw [hstart]
    constructor
    · intro h
      obtain ⟨hdigits, hn, hrange⟩ := of_readDigits (by rwa [Nat.cast_zero, mul_zero]) h
      exact ⟨⟨⟨List.cons_ne_nil c rest, hdigits⟩, hn⟩, hrange⟩
    · rintro ⟨⟨⟨-, hdigits⟩, rfl⟩, hrange⟩
      exact readDigits_eq hzero hsign hdigits 0 hrange

/-- A range with negative integers is read exactly where a text denotes one of its integers. -/
private theorem read_eq_ok_iff (hlo : range.lo < 0) (hhi : 0 ≤ range.hi) :
    read range s = .ok n ↔ Denotes s n ∧ range.contains n := by
  have hzero : range.contains 0 := IntegerRange.contains_iff.2 ⟨by omega, hhi⟩
  unfold read
  split
  · rw [denotes_iff_of_head_ne (by simp) (by simp)]
    simp
  · rw [readMagnitude_eq_ok_iff hzero (Or.inl rfl), denotes_plus_iff, one_mul]
  · rw [if_pos hlo, readMagnitude_eq_ok_iff hzero (Or.inr rfl), denotes_minus_iff, neg_one_mul]
  · rename_i hplus hminus
    have hplus : s.head? ≠ some '+' := fun h => hplus _ (List.eq_cons_of_mem_head? h)
    have hminus : s.head? ≠ some '-' := fun h => hminus _ (List.eq_cons_of_mem_head? h)
    rw [readMagnitude_eq_ok_iff hzero (Or.inl rfl), denotes_iff_of_head_ne hplus hminus, one_mul]

end

/-- A text is read as the 64-bit integer that it denotes. -/
theorem readInt64_eq_ok_iff {s : List Char} {n : Int64} : readInt64 s = .ok n ↔ Denotes s n.toInt := by
  have hread (m : Int) : read .signed64 s = .ok m ↔ Denotes s m ∧ IntegerRange.signed64.contains m :=
    read_eq_ok_iff (by decide) (by decide)
  constructor
  · intro h
    unfold readInt64 at h
    cases hm : read .signed64 s with
    | error fault =>
      rw [hm] at h
      cases h
    | ok m =>
      rw [hm] at h
      cases h
      obtain ⟨hdenotes, hcontains⟩ := (hread m).1 hm
      rw [IntegerRange.contains_iff] at hcontains
      rwa [Int64.toInt_ofInt_of_le hcontains.1 (Int.lt_add_one_of_le hcontains.2)]
  · intro h
    unfold readInt64
    rw [(hread n.toInt).2 ⟨h, IntegerRange.contains_toInt n⟩]
    exact congrArg Except.ok n.ofInt_toInt

/-- Checking for a 64-bit integer is checking whether the text denotes one. -/
theorem isInt64_iff {s : List Char} : isInt64 s = true ↔ IsInt64Number s := by
  unfold isInt64
  constructor
  · intro h
    cases hn : readInt64 s with
    | error fault =>
      rw [hn] at h
      cases h
    | ok n => exact ⟨n, readInt64_eq_ok_iff.1 hn⟩
  · rintro ⟨n, hn⟩
    rw [readInt64_eq_ok_iff.2 hn]
    rfl

instance : DecidablePred IsInt64Number :=
  fun _ => decidable_of_iff _ isInt64_iff

/-- A text that denotes an integer in the range of 64 bits denotes a 64-bit integer. -/
theorem Denotes.isInt64Number {s : List Char} {n : Int} (h : Denotes s n) (hn : IntegerRange.signed64.contains n) :
    IsInt64Number s := by
  rw [IntegerRange.contains_iff] at hn
  refine ⟨Int64.ofInt n, ?_⟩
  rwa [Int64.toInt_ofInt_of_le hn.1 (Int.lt_add_one_of_le hn.2)]

end KeyedFlow.Text.Numeral
