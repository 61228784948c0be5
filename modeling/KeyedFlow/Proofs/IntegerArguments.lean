import KeyedFlow.Proofs.DividedCalls
import KeyedFlow.Proofs.NumeralFaults
import KeyedFlow.Proofs.Vocabulary

/-!
# Integer arguments of calls

A call has an integer argument exactly if its argument, without the blanks around it (`Text.TrimsTo`), denotes a 64-bit
integer.  If it has none, the failure holds the name and the argument as they were written, and its reason tells an
empty text from a text that begins with an integer beyond either end of the 64-bit integers, and both from all other
texts (`Call.requireInteger_reads`).
-/

namespace KeyedFlow

namespace Text

/-- Whether `core` is what a text is without the blanks around it. -/
structure TrimsTo (s core : List Char) : Prop where
  around : ∃ before after, s = before ++ core ++ after ∧ (∀ c ∈ before, isBlank c = true) ∧
    ∀ c ∈ after, isBlank c = true
  head : ∀ c ∈ core.head?, isBlank c = false
  last : ∀ c ∈ core.getLast?, isBlank c = false

private theorem trimsTo_trim (s : List Char) : TrimsTo s (trim s) := by
  have hs := List.takeWhile_append_dropWhile (p := isBlank) (l := s)
  have hrest := List.takeWhile_append_dropWhile (p := isBlank) (l := (s.dropWhile isBlank).reverse)
  have hsplit : s.dropWhile isBlank = trim s ++ ((s.dropWhile isBlank).reverse.takeWhile isBlank).reverse := by
    conv_lhs => rw [← List.reverse_reverse (s.dropWhile isBlank), ← hrest, List.reverse_append]
    rfl
  refine ⟨⟨s.takeWhile isBlank, ((s.dropWhile isBlank).reverse.takeWhile isBlank).reverse, ?_, ?_, ?_⟩, ?_, ?_⟩
  · rw [List.append_assoc, ← hsplit, hs]
  · exact fun c hc => List.mem_takeWhile_imp hc
  · exact fun c hc => List.mem_takeWhile_imp (List.mem_reverse.1 hc)
  · intro c hc
    have hhead := List.head?_dropWhile_not isBlank s
    rw [hsplit, List.head?_append, hc] at hhead
    exact hhead
  · intro c hc
    have hhead := List.head?_dropWhile_not isBlank (s.dropWhile isBlank).reverse
    rw [trim, List.getLast?_reverse] at hc
    rw [hc] at hhead
    exact hhead

private theorem trimsTo_iff {s core : List Char} : TrimsTo s core ↔ core = trim s := by
  constructor
  · rintro ⟨⟨before, after, rfl, hbefore, hafter⟩, hhead, hlast⟩
    rw [trim_append_right _ hafter, trim_append_left hbefore, trim_eq_self hhead hlast]
  · rintro rfl
    exact trimsTo_trim s

end Text

namespace Call

open Text.Numeral (Denotes)

variable {call : Call} {p : String}

private theorem requireInteger_eq_badArgument_iff {reason : String} (hargument : call.argument = some p) :
    call.requireInteger = .error (.badArgument call.name (some p) reason) ↔
      ∃ fault : Text.Numeral.Fault, Text.Numeral.readInt64 (Text.trim p.toList) = .error fault ∧
        fault.message = reason := by
  unfold requireInteger integer
  rw [mapError_eq_error_iff, hargument]
  simp only [mapError_eq_error_iff, argumentFailure, hargument]
  constructor
  · rintro ⟨_, ⟨fault, hfault, rfl⟩, h⟩
    cases h
    exact ⟨fault, hfault, rfl⟩
  · rintro ⟨fault, hfault, rfl⟩
    exact ⟨_, ⟨fault, hfault, rfl⟩, rfl⟩

private theorem requireInteger_eq_message_iff (hargument : call.argument = some p) (fault : Text.Numeral.Fault) :
    call.requireInteger = .error (.badArgument call.name (some p) fault.message) ↔
      Text.Numeral.readInt64 (Text.trim p.toList) = .error fault := by
  rw [requireInteger_eq_badArgument_iff hargument]
  constructor
  · rintro ⟨other, hother, hmessage⟩
    rwa [← Text.Numeral.Fault.message_injective hmessage]
  · exact fun h => ⟨fault, h, rfl⟩

private theorem exists_requireInteger_eq_error_iff (hargument : call.argument = some p) :
    (∃ reason, call.requireInteger = .error (.badArgument call.name (some p) reason)) ↔
      ¬Text.Numeral.IsInt64Number (Text.trim p.toList) := by
  simp only [requireInteger_eq_badArgument_iff hargument]
  cases h : Text.Numeral.readInt64 (Text.trim p.toList) with
  | ok n => exact iff_of_false nofun fun hnumber => hnumber ⟨n, Text.Numeral.readInt64_eq_ok_iff.1 h⟩
  | error fault =>
    refine iff_of_true ⟨_, fault, rfl, rfl⟩ ?_
    rintro ⟨n, hn⟩
    rw [Text.Numeral.readInt64_eq_ok_iff.2 hn] at h
    cases h

/-- A number between blanks is the integer of the call in whose argument it stands. -/
private theorem requireInteger_between_blanks (n : Int64) {name before after : String} (hname : '(' ∉ name.toList)
    (hbefore : ∀ c ∈ before.toList, Text.isBlank c = true) (hafter : ∀ c ∈ after.toList, Text.isBlank c = true) :
    (parse (name ++ "(" ++ (before ++ toString n ++ after) ++ ")")).requireInteger = .ok n := by
  have hblank {s : String} (hs : ∀ c ∈ s.toList, Text.isBlank c = true) : '(' ∉ s.toList :=
    fun hmem => absurd (hs _ hmem) (by decide)
  have hargument : '(' ∉ (before ++ toString n ++ after).toList := by
    simp [hblank hbefore, hblank hafter, not_mem_toString n]
  have hparse : parse (name ++ "(" ++ (before ++ toString n ++ after) ++ ")") = ⟨name, _⟩ :=
    parse_text hname hargument
  have hspells := Text.Numeral.spells_toString n
  rw [hparse, requireInteger_eq_ok_iff, ← hasNumber_iff]
  refine ⟨_, rfl, ?_⟩
  rw [String.toList_append, String.toList_append, Text.trim_append_right _ hafter, Text.trim_append_left hbefore,
    hspells.trim_eq]
  exact Text.Numeral.readInt64_eq_ok_iff.1 (Text.Numeral.readInt64_of_spells hspells)

/-- A call has an integer exactly if its argument denotes one of 64 bits, blanks around it apart.  Otherwise the failure
carries the name and the argument as written, if there is one, and says why: nothing is left of the argument, or what is
left begins with an integer that is too large or too small, or else it has a character that is no digit.  An integer
that is written as an argument, with blanks around it, is read again. -/
theorem requireInteger_reads (call : Call) :
    (∀ n, call.requireInteger = .ok n ↔
      ∃ p core, call.argument = some p ∧ Text.TrimsTo p.toList core ∧ Denotes core n.toInt) ∧
    (call.argument = none →
      call.requireInteger = .error (.badArgument call.name none "missing integer parameter")) ∧
    (∀ p core, call.argument = some p → Text.TrimsTo p.toList core →
      let fails := fun reason => call.requireInteger = .error (.badArgument call.name (some p) reason)
      ((∃ reason, fails reason) ↔ ¬∃ n : Int64, Denotes core n.toInt) ∧
      (fails "cannot parse integer from empty string" ↔ core = []) ∧
      (fails "number too large to fit in target type" ↔
        ∃ head n, head <+: core ∧ Denotes head n ∧ IntegerRange.signed64.hi < n) ∧
      (fails "number too small to fit in target type" ↔
        ∃ head n, head <+: core ∧ Denotes head n ∧ n < IntegerRange.signed64.lo) ∧
      (fails "invalid digit found in string" ↔ core ≠ [] ∧ ¬Text.Numeral.IsNumber core ∧
        ∀ head n, head <+: core → Denotes head n → IntegerRange.signed64.contains n)) ∧
    ∀ (n : Int64) (name before after : String), '(' ∉ name.toList → (∀ c ∈ before.toList, Text.isBlank c = true) →
      (∀ c ∈ after.toList, Text.isBlank c = true) →
      (parse (name ++ "(" ++ (before ++ toString n ++ after) ++ ")")).requireInteger = .ok n := by
  refine ⟨fun n => ?_, fun hargument => ?_, ?_, fun n _ _ _ => requireInteger_between_blanks n⟩
  · rw [requireInteger_eq_ok_iff, ← hasNumber_iff]
    unfold HasNumber
    simp only [Text.trimsTo_iff, exists_and_left, exists_eq_left]
  · unfold requireInteger integer argumentFailure
    rw [hargument]
    rfl
  · intro p core hargument hcore fails
    have hfails (fault : Text.Numeral.Fault) : fails fault.message ↔ Text.Numeral.readInt64 core = .error fault := by
      rw [Text.trimsTo_iff.1 hcore]
      exact requireInteger_eq_message_iff hargument fault
    refine ⟨?_, (hfails .empty).trans Text.Numeral.readInt64_eq_empty_iff,
      (hfails .tooLarge).trans Text.Numeral.readInt64_eq_tooLarge_iff,
      (hfails .tooSmall).trans Text.Numeral.readInt64_eq_tooSmall_iff,
      (hfails .badDigit).trans Text.Numeral.readInt64_eq_badDigit_iff⟩
    rw [Text.trimsTo_iff.1 hcore]
    exact exists_requireInteger_eq_error_iff hargument

/-- The least integer between blanks, a number below it, nothing but blanks, and no argument at all. -/
theorem requireInteger_reads_smallest :
    (parse "ADD(\u2003-9223372036854775808 )").requireInteger = .ok Int64.minValue ∧
    requireInteger ⟨"LT", some " -09223372036854775809"⟩ =
      .error (.badArgument "LT" (some " -09223372036854775809") "number too small to fit in target type") ∧
    requireInteger ⟨"LT", some "\u2003 "⟩ =
      .error (.badArgument "LT" (some "\u2003 ") "cannot parse integer from empty string") ∧
    requireInteger ⟨"LT", none⟩ = .error (.badArgument "LT" none "missing integer parameter") := by
  obtain ⟨-, hmissing, -, hwritten⟩ := requireInteger_reads ⟨"LT", none⟩
  obtain ⟨-, -, hsmall, -⟩ := requireInteger_reads ⟨"LT", some " -09223372036854775809"⟩
  obtain ⟨-, -, hempty, -⟩ := requireInteger_reads ⟨"LT", some "\u2003 "⟩
  obtain ⟨-, -, -, hsmall, -⟩ := hsmall _ "-09223372036854775809".toList rfl (Text.trimsTo_iff.2 (by decide +kernel))
  obtain ⟨-, hempty, -⟩ := hempty _ [] rfl (Text.trimsTo_iff.2 (by decide +kernel))
  have hblanks {s : String} (h : s.toList.all Text.isBlank = true) : ∀ c ∈ s.toList, Text.isBlank c = true :=
    List.all_eq_true.1 h
  have hdigits : ∀ c ∈ "09223372036854775809".toList, c.isDigit = true := by simp
  exact ⟨hwritten Int64.minValue "ADD" "\u2003" " " (by decide) (hblanks (by decide)) (hblanks (by decide)),
    hsmall.2 ⟨_, _, List.prefix_refl _, .minus (by decide) hdigits, by decide +kernel⟩, hempty.2 rfl, hmissing rfl⟩

end Call

end KeyedFlow
