import KeyedFlow.Proofs.NumeralValues

/-!
# Faults of numerals

A text that is no numeral of a range is refused for its size exactly if some beginning of it denotes an integer beyond
an end of the range, and the fault names this end (`Text.Numeral.read_eq_error_iff`).  So each reason for which a text
is no 64-bit integer is given by the text alone (`Text.Numeral.readInt64_eq_empty_iff` and its neighbours).
-/

namespace KeyedFlow.Text.Numeral

/-- No two faults have the same wording. -/
theorem Fault.message_injective : Function.Injective Fault.message := by
  intro fault other h
  cases fault <;> cases other <;> first | rfl | exact absurd h (by decide)

/-- The integers for which a range is left at an end. -/
def Fault.Excludes (range : IntegerRange) : Fault → Int → Prop
  | .tooLarge, n => range.hi < n
  | .tooSmall, n => n < range.lo
  | .empty, _ | .badDigit, _ => False

private theorem Fault.not_excludes {range : IntegerRange} {n : Int} (h : range.contains n) (fault : Fault) :
    ¬fault.Excludes range n := by
  rw [IntegerRange.contains_iff] at h
  cases fault with
  | tooLarge => exact not_lt.2 h.2
  | tooSmall => exact not_lt.2 h.1
  | empty | badDigit => exact id

private theorem Denotes.ne_nil {s : List Char} {n : Int} (h : Denotes s n) : s ≠ [] := by
  cases h with
  | unsigned hne => exact hne
  | plus | minus => exact List.cons_ne_nil _ _

section

variable {range : IntegerRange} {s : List Char} {fault : Fault}

/-- Behind digits of a value in the range, the fault is the size exactly if so many digits can be added to them that
they leave the range. -/
private theorem readDigits_eq_error_iff (hzero : range.contains 0) {sign : Int} (hsign : sign = 1 ∨ sign = -1)
    (hfault : fault = .tooLarge ∨ fault = .tooSmall) {digits : List Char} {value : Nat}
    (hvalue : range.contains (sign * value)) :
    readDigits range sign (sign * value) digits = .error fault ↔
      ∃ ds, ds <+: digits ∧ (∀ c ∈ ds, c.isDigit = true) ∧
        fault.Excludes range (sign * Nat.ofDigitChars 10 ds value) := by
  induction digits generalizing value with
  | nil =>
    constructor
    · intro h
      cases h
    · rintro ⟨ds, hds, -, hexcludes⟩
      rw [List.prefix_nil.1 hds] at hexcludes
      exact absurd hexcludes (Fault.not_excludes hvalue fault)
  | cons c rest ih =>
    -- the value is still in the range, so it takes at least one more digit to leave it
    have hbegins : (∃ ds, ds <+: c :: rest ∧ (∀ d ∈ ds, d.isDigit = true) ∧
          fault.Excludes range (sign * Nat.ofDigitChars 10 ds value)) ↔
        c.isDigit = true ∧ ∃ ds, ds <+: rest ∧ (∀ d ∈ ds, d.isDigit = true) ∧
          fault.Excludes range (sign * Nat.ofDigitChars 10 ds (10 * value + (c.toNat - '0'.toNat))) := by
      constructor
      · rintro ⟨ds, hds, hdigits, hexcludes⟩
        rcases List.prefix_cons_iff.1 hds with rfl | ⟨ds, rfl, hrest⟩
        · exact absurd hexcludes (Fault.not_excludes hvalue fault)
        · obtain ⟨hc, hdigits⟩ := List.forall_mem_cons.1 hdigits
          exact ⟨hc, ds, hrest, hdigits, by rwa [Nat.ofDigitChars_cons] at hexcludes⟩
      · rintro ⟨hc, ds, hds, hdigits, hexcludes⟩
        exact ⟨c :: ds, List.prefix_cons_iff.2 (Or.inr ⟨ds, rfl, hds⟩), List.forall_mem_cons.2 ⟨hc, hdigits⟩,
          by rwa [Nat.ofDigitChars_cons]⟩
    rw [hbegins]
    by_cases hc : c.isDigit = true
    · rw [readDigits_cons range sign value hc]
      generalize 10 * value + (c.toNat - '0'.toNat) = next at ih ⊢
      have hzero := IntegerRange.contains_iff.1 hzero
      split
      · rename_i hhi
        -- the sign is positive, so no digits lead to the other end
        obtain rfl : sign = 1 := by rcases hsign with rfl | rfl <;> omega
        constructor
        · rintro ⟨⟩
          exact ⟨hc, [], List.nil_prefix, by simp, hhi⟩
        · rintro ⟨-, ds, -, -, hexcludes⟩
          rcases hfault with rfl | rfl
          · rfl
          · have : 1 * (Nat.ofDigitChars 10 ds next : Int) < range.lo := hexcludes
            omega
      · split
        · rename_i hlo
          obtain rfl : sign = -1 := by rcases hsign with rfl | rfl <;> omega
          constructor
          · rintro ⟨⟩
            exact ⟨hc, [], List.nil_prefix, by simp, hlo⟩
          · rintro ⟨-, ds, -, -, hexcludes⟩
            rcases hfault with rfl | rfl
            · have : range.hi < -1 * (Nat.ofDigitChars 10 ds next : Int) := hexcludes
              omega
            · rfl
        · rename_i hhi hlo
          rw [ih (IntegerRange.contains_iff.2 ⟨not_lt.1 hlo, not_lt.1 hhi⟩), and_iff_right hc]
    · rw [readDigits, if_neg hc]
      rcases hfault with rfl | rfl <;> simp [hc]

private theorem readMagnitude_eq_error_iff (hzero : range.contains 0) {sign : Int} (hsign : sign = 1 ∨ sign = -1)
    (hfault : fault = .tooLarge ∨ fault = .tooSmall) {digits : List Char} :
    readMagnitude range sign digits = .error fault ↔
      ∃ ds, ds <+: digits ∧ (ds ≠ [] ∧ ∀ c ∈ ds, c.isDigit = true) ∧
        fault.Excludes range (sign * Nat.ofDigitChars 10 ds 0) := by
  have hvalue : range.contains (sign * (0 : Nat)) := by rwa [Nat.cast_zero, mul_zero]
  have hne (ds : List Char) (h : fault.Excludes range (sign * Nat.ofDigitChars 10 ds 0)) : ds ≠ [] := by
    rintro rfl
    exact Fault.not_excludes hvalue fault h
  have hstart : readMagnitude range sign digits = .error fault ↔
      readDigits range sign (sign * (0 : Nat)) digits = .error fault := by
    rw [Nat.cast_zero, mul_zero]
    cases digits with
    | nil => rcases hfault with rfl | rfl <;> simp [readMagnitude, readDigits]
    | cons c rest => rfl
  rw [hstart, readDigits_eq_error_iff hzero hsign hfault hvalue]
  refine exists_congr fun ds => and_congr_right fun _ => ?_
  rw [and_assoc, and_iff_right_of_imp fun h => hne ds h.2]

/-- Behind a sign, the beginnings that denote an integer are the sign with beginnings of what follows it. -/
private theorem exists_denotes_cons_iff {c : Char} (sign : Int) {digits : List Char} (P : Int → Prop)
    (hdenotes : ∀ ds n, Denotes (c :: ds) n ↔
      (ds ≠ [] ∧ ∀ d ∈ ds, d.isDigit = true) ∧ n = sign * Nat.ofDigitChars 10 ds 0) :
    (∃ head n, head <+: c :: digits ∧ Denotes head n ∧ P n) ↔
      ∃ ds, ds <+: digits ∧ (ds ≠ [] ∧ ∀ d ∈ ds, d.isDigit = true) ∧ P (sign * Nat.ofDigitChars 10 ds 0) := by
  constructor
  · rintro ⟨head, n, hhead, hn, hP⟩
    rcases List.prefix_cons_iff.1 hhead with rfl | ⟨ds, rfl, hds⟩
    · exact absurd rfl hn.ne_nil
    · obtain ⟨hdigits, rfl⟩ := (hdenotes ds n).1 hn
      exact ⟨ds, hds, hdigits, hP⟩
  · rintro ⟨ds, hds, hdigits, hP⟩
    exact ⟨c :: ds, _, List.prefix_cons_iff.2 (Or.inr ⟨ds, rfl, hds⟩), (hdenotes ds _).2 ⟨hdigits, rfl⟩, hP⟩

/-- A text is refused for its size exactly if a beginning of it denotes an integer at which the range has been left. -/
theorem read_eq_error_iff (hlo : range.lo < 0) (hhi : 0 ≤ range.hi) (hfault : fault = .tooLarge ∨ fault = .tooSmall) :
    read range s = .error fault ↔ ∃ head n, head <+: s ∧ Denotes head n ∧ fault.Excludes range n := by
  have hzero : range.contains 0 := IntegerRange.contains_iff.2 ⟨by omega, hhi⟩
  unfold read
  split
  · constructor
    · rintro ⟨⟩
      rcases hfault with hfault | hfault <;> cases hfault
    · rintro ⟨head, n, hhead, hn, -⟩
      exact absurd (List.prefix_nil.1 hhead) hn.ne_nil
  · rw [readMagnitude_eq_error_iff hzero (Or.inl rfl) hfault,
      exists_denotes_cons_iff 1 _ fun ds n => by rw [one_mul, denotes_plus_iff]]
  · rw [if_pos hlo, readMagnitude_eq_error_iff hzero (Or.inr rfl) hfault,
      exists_denotes_cons_iff (-1) _ fun ds n => by rw [neg_one_mul, denotes_minus_iff]]
  · rename_i hplus hminus
    rw [readMagnitude_eq_error_iff hzero (Or.inl rfl) hfault]
    refine exists_congr fun head => ?_
    simp only [exists_and_left]
    refine and_congr_right fun hhead => ?_
    have hne {c : Char} (hc : ∀ digits, s = c :: digits → False) : head.head? ≠ some c := by
      intro h
      obtain ⟨rest, rfl⟩ := hhead
      exact hc _ (List.eq_cons_of_mem_head? (by rw [List.head?_append, h]; rfl))
    simp only [denotes_iff_of_head_ne (hne hplus) (hne hminus), one_mul]
    constructor
    · rintro ⟨hdigits, hexcludes⟩
      exact ⟨_, ⟨hdigits, rfl⟩, hexcludes⟩
    · rintro ⟨n, ⟨hdigits, rfl⟩, hexcludes⟩
      exact ⟨hdigits, hexcludes⟩

private theorem readDigits_ne_empty (sign value : Int) (digits : List Char) :
    readDigits range sign value digits ≠ .error .empty := by
  fun_induction readDigits range sign value digits with
  | case4 _ _ _ _ _ _ _ ih => exact ih
  | case1 | case2 | case3 | case5 => nofun

private theorem readMagnitude_ne_empty (sign : Int) (digits : List Char) :
    readMagnitude range sign digits ≠ .error .empty := by
  cases digits with
  | nil => nofun
  | cons => exact readDigits_ne_empty sign 0 _

private theorem read_eq_empty_iff : read range s = .error .empty ↔ s = [] := by
  constructor
  · intro h
    unfold read at h
    split at h
    · rfl
    · exact absurd h (readMagnitude_ne_empty _ _)
    · split at h
      · exact absurd h (readMagnitude_ne_empty _ _)
      · cases h
    · exact absurd h (readMagnitude_ne_empty _ _)
  · rintro rfl
    rfl

end

section

variable {s : List Char} {fault : Fault}

private theorem readInt64_eq_error_iff_read : readInt64 s = .error fault ↔ read .signed64 s = .error fault := by
  unfold readInt64
  cases read .signed64 s with
  | error => simp [Except.map]
  | ok => exact iff_of_false nofun nofun

private theorem readInt64_eq_error_iff (hfault : fault = .tooLarge ∨ fault = .tooSmall) :
    readInt64 s = .error fault ↔ ∃ head n, head <+: s ∧ Denotes head n ∧ fault.Excludes .signed64 n := by
  rw [readInt64_eq_error_iff_read, read_eq_error_iff (by decide) (by decide) hfault]

/-- Only the empty text is refused as empty. -/
theorem readInt64_eq_empty_iff : readInt64 s = .error .empty ↔ s = [] := by
  rw [readInt64_eq_error_iff_read, read_eq_empty_iff]

/-- A text is refused as too large when a beginning of it denotes an integer beyond the largest. -/
theorem readInt64_eq_tooLarge_iff :
    readInt64 s = .error .tooLarge ↔ ∃ head n, head <+: s ∧ Denotes head n ∧ IntegerRange.signed64.hi < n :=
  readInt64_eq_error_iff (Or.inl rfl)

/-- A text is refused as too small when a beginning of it denotes an integer below the smallest. -/
theorem readInt64_eq_tooSmall_iff :
    readInt64 s = .error .tooSmall ↔ ∃ head n, head <+: s ∧ Denotes head n ∧ n < IntegerRange.signed64.lo :=
  readInt64_eq_error_iff (Or.inr rfl)

/-- A text that is not empty and no number is refused for a character, unless it has left the range before it. -/
theorem readInt64_eq_badDigit_iff :
    readInt64 s = .error .badDigit ↔
      s ≠ [] ∧ ¬IsNumber s ∧ ∀ head n, head <+: s → Denotes head n → IntegerRange.signed64.contains n := by
  constructor
  · intro h
    have hrange (head : List Char) (n : Int) (hhead : head <+: s) (hn : Denotes head n) :
        IntegerRange.signed64.contains n := by
      rw [IntegerRange.contains_iff]
      constructor
      · refine not_lt.1 fun hlo => ?_
        rw [readInt64_eq_tooSmall_iff.2 ⟨head, n, hhead, hn, hlo⟩] at h
        cases h
      · refine not_lt.1 fun hhi => ?_
        rw [readInt64_eq_tooLarge_iff.2 ⟨head, n, hhead, hn, hhi⟩] at h
        cases h
    refine ⟨?_, ?_, hrange⟩
    · rintro rfl
      cases h
    · rintro ⟨n, hn⟩
      obtain ⟨m, hm⟩ := hn.isInt64Number (hrange s n (List.prefix_refl s) hn)
      rw [readInt64_eq_ok_iff.2 hm] at h
      cases h
  · rintro ⟨hne, hnumber, hrange⟩
    cases h : readInt64 s with
    | ok n => exact absurd ⟨_, readInt64_eq_ok_iff.1 h⟩ hnumber
    | error fault =>
      cases fault with
      | badDigit => rfl
      | empty => exact absurd (readInt64_eq_empty_iff.1 h) hne
      | tooLarge =>
        obtain ⟨head, n, hhead, hn, hhi⟩ := readInt64_eq_tooLarge_iff.1 h
        exact absurd (IntegerRange.contains_iff.1 (hrange head n hhead hn)).2 (not_le.2 hhi)
      | tooSmall =>
        obtain ⟨head, n, hhead, hn, hlo⟩ := readInt64_eq_tooSmall_iff.1 h
        exact absurd (IntegerRange.contains_iff.1 (hrange head n hhead hn)).1 (not_le.2 hlo)

end

end KeyedFlow.Text.Numeral
