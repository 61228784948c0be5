import KeyedFlow.Call
import KeyedFlow.Proofs.Spelling

/-!
# Written calls

A call with an argument is read as it was written, unless its name or its argument holds an opening parenthesis
(`Call.parse_text`), and a number that is written as an argument is read as that number (`Call.parse_toString`,
`Call.integer_toString`).
-/

namespace KeyedFlow.Call

/-- A name and an argument without opening parentheses are divided where they have been joined. -/
theorem split?_append {name argument : List Char} (hname : '(' ∉ name) (hargument : '(' ∉ argument) :
    split? (name ++ '(' :: (argument ++ [')'])) = some (name, argument) := by
  have hne : ∀ c ∈ name, decide (c ≠ '(') = true := fun c hc => decide_eq_true fun h => hname (h ▸ hc)
  have hdrop : (name ++ '(' :: (argument ++ [')'])).dropWhile (· ≠ '(') = '(' :: (argument ++ [')']) := by
    rw [List.dropWhile_append_of_pos hne]
    rfl
  have htake : (name ++ '(' :: (argument ++ [')'])).takeWhile (· ≠ '(') = name := by
    rw [List.takeWhile_append_of_pos hne]
    exact List.append_nil name
  have hrest : '(' ∉ argument ++ [')'] := by simp [hargument]
  unfold split?
  rw [hdrop, htake]
  simp [hrest]

/-- The text of a call is parsed as the call. -/
theorem parse_text {name argument : String} (hname : '(' ∉ name.toList) (hargument : '(' ∉ argument.toList) :
    parse (text ⟨name, some argument⟩) = ⟨name, some argument⟩ := by
  have htext : (text ⟨name, some argument⟩).toList = name.toList ++ '(' :: (argument.toList ++ [')']) := by
    simp [text]
  unfold parse
  rw [htext, split?_append hname hargument]
  simp

theorem not_mem_toString (n : Int64) : '(' ∉ (toString n).toList := by
  intro h
  -- the characters of a numeral are its digits and a sign
  have := (Text.Numeral.spells_toString n).toNat_of_mem h
  revert this
  decide

/-- The text of a call with an integer is parsed as the call. -/
theorem parse_toString (name : String) (hname : '(' ∉ name.toList) (n : Int64) :
    parse (text ⟨name, some (toString n)⟩) = ⟨name, some (toString n)⟩ :=
  parse_text hname (not_mem_toString n)

/-- An integer that is written as the argument of a call is its integer. -/
theorem integer_toString (name : String) (n : Int64) : integer ⟨name, some (toString n)⟩ = .ok n := by
  have hspells := Text.Numeral.spells_toString n
  show (Text.Numeral.readInt64 (Text.trim (toString n).toList)).mapError ArgumentFault.numeral = .ok n
  rw [hspells.trim_eq, Text.Numeral.readInt64_of_spells hspells]
  rfl

end KeyedFlow.Call
