/-!
# Blank characters

The blank characters are those with the Unicode property White_Space.  Texts that are read as numbers are trimmed of
them at both ends; a blank inside a text is kept.
-/

namespace KeyedFlow.Text

/-- The characters with the Unicode property White_Space.  The zero-width space and the byte order mark are not
among them. -/
def isBlank (c : Char) : Bool :=
  let n := c.toNat
  (0x09 ≤ n && n ≤ 0x0D) || n == 0x20 || n == 0x85 || n == 0xA0 || n == 0x1680 || (0x2000 ≤ n && n ≤ 0x200A) ||
    n == 0x2028 || n == 0x2029 || n == 0x202F || n == 0x205F || n == 0x3000

/-- The characters from the first that is not blank to the last that is not blank. -/
def trim (s : List Char) : List Char :=
  ((s.dropWhile isBlank).reverse.dropWhile isBlank).reverse

@[simp]
theorem trim_nil : trim [] = [] := rfl

/-- A text that neither begins nor ends with a blank is its own trimmed form. -/
theorem trim_eq_self {s : List Char} (hhead : ∀ c ∈ s.head?, isBlank c = false)
    (hlast : ∀ c ∈ s.getLast?, isBlank c = false) : trim s = s := by
  have dropWhile_eq : ∀ t : List Char, (∀ c ∈ t.head?, isBlank c = false) → t.dropWhile isBlank = t := by
    intro t ht
    cases t with
    | nil => rfl
    | cons c r => simp [ht c (by simp)]
  rw [trim, dropWhile_eq s hhead, dropWhile_eq s.reverse (by simpa using hlast), List.reverse_reverse]

/-- Blanks in front of a text are trimmed away. -/
theorem trim_append_left {before : List Char} (h : ∀ c ∈ before, isBlank c = true) (s : List Char) :
    trim (before ++ s) = trim s := by
  unfold trim
  rw [List.dropWhile_append_of_pos h]

/-- Blanks behind a text are trimmed away. -/
theorem trim_append_right (s : List Char) {after : List Char} (h : ∀ c ∈ after, isBlank c = true) :
    trim (s ++ after) = trim s := by
  have hafter : (after ++ []).dropWhile isBlank = [].dropWhile isBlank := List.dropWhile_append_of_pos h
  rw [List.append_nil, List.dropWhile_nil] at hafter
  unfold trim
  rw [List.dropWhile_append]
  split
  · rename_i hs
    rw [hafter, List.isEmpty_iff.1 hs]
  · rw [List.reverse_append, List.dropWhile_append_of_pos (fun c hc => h c (List.mem_reverse.1 hc))]

end KeyedFlow.Text
