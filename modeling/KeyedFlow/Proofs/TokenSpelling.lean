import KeyedFlow.Json.Scan

/-!
# Spellings of tokens

A token can be written in several ways: the characters of a text may be escaped, and the exponent of a number may stand
after a letter of either case.  Between tokens there may be white space.  What can be written for some tokens is
described without a reader (`Json.Spells`), and whatever is written is divided into these tokens again
(`Json.scan_of_spells`).
-/

namespace KeyedFlow.Json

/-! ### Texts -/

/-- The spellings of a character in a text: itself, an escape by letter, its number in four hexadecimal digits, or the
numbers of a pair of surrogates. -/
inductive SpellsChar : Char → List Char → Prop where
  | plain {c : Char} (hcontrol : 0x20 ≤ c.toNat) (hquote : c ≠ '"') (hbackslash : c ≠ '\\') : SpellsChar c [c]
  | letter {letter c : Char} (h : escapeLetter? letter = some c) : SpellsChar c ['\\', letter]
  | number {c x₁ x₂ x₃ x₄ : Char} (h : hexQuad? x₁ x₂ x₃ x₄ = some c.toNat) : SpellsChar c ['\\', 'u', x₁, x₂, x₃, x₄]
  | surrogates {high low : Nat} {x₁ x₂ x₃ x₄ y₁ y₂ y₃ y₄ : Char} (hx : hexQuad? x₁ x₂ x₃ x₄ = some high)
      (hhigh : 0xD800 ≤ high ∧ high ≤ 0xDBFF) (hy : hexQuad? y₁ y₂ y₃ y₄ = some low)
      (hlow : 0xDC00 ≤ low ∧ low ≤ 0xDFFF) :
      SpellsChar (surrogatePair high low) ['\\', 'u', x₁, x₂, x₃, x₄, '\\', 'u', y₁, y₂, y₃, y₄]

/-- The spellings of a text between its quotes. -/
inductive SpellsText : List Char → List Char → Prop where
  | nil : SpellsText [] []
  | cons {c : Char} {content s rest : List Char} (hc : SpellsChar c s) (hrest : SpellsText content rest) :
      SpellsText (c :: content) (s ++ rest)

private theorem ne_u_of_escapeLetter {letter c : Char} (h : escapeLetter? letter = some c) : letter ≠ 'u' := by
  rintro rfl
  cases h

/-- A spelling of a character adds the character to the content of what follows. -/
theorem SpellsChar.textContent_append {c : Char} {s : List Char} (h : SpellsChar c s) (rest : List Char) :
    textContent (s ++ rest) = (textContent rest).map (c :: ·) := by
  cases h with
  | plain hcontrol hquote hbackslash =>
    rw [List.singleton_append, textContent, if_neg (by omega)]
    · exact hquote
    · exact fun h _ => hbackslash h
    · exact fun _ _ _ _ _ h _ => hbackslash h
    · exact fun _ h _ => hbackslash h
    · exact fun _ _ h _ => hbackslash h
  | @letter letter c h =>
    have hu := ne_u_of_escapeLetter h
    show textContent ('\\' :: letter :: rest) = _
    rw [textContent, h]
    · exact fun _ _ _ _ _ h _ => hu h
    · exact hu
  | @number c x₁ x₂ x₃ x₄ h =>
    -- the number of a character is never that of a surrogate
    have hvalid : c.toNat < 0xD800 ∨ 0xDFFF < c.toNat ∧ c.toNat < 0x110000 := c.valid
    show textContent ('\\' :: 'u' :: x₁ :: x₂ :: x₃ :: x₄ :: rest) = _
    rw [textContent, h]
    dsimp only
    rw [if_neg (by omega), if_neg (by omega), Char.ofNat_toNat]
  | @surrogates high low x₁ x₂ x₃ x₄ y₁ y₂ y₃ y₄ hx hhigh hy hlow =>
    show textContent ('\\' :: 'u' :: x₁ :: x₂ :: x₃ :: x₄ :: '\\' :: 'u' :: y₁ :: y₂ :: y₃ :: y₄ :: rest) = _
    rw [textContent, hx]
    dsimp only
    rw [if_neg (by omega), if_pos hhigh]
    simp only [hy, if_pos hlow]

/-- Four hexadecimal digits behind a `u` are passed over. -/
theorem afterText_quad {x₁ x₂ x₃ x₄ : Char} {n : Nat} (h : hexQuad? x₁ x₂ x₃ x₄ = some n) (rest : List Char) :
    afterText ('\\' :: 'u' :: x₁ :: x₂ :: x₃ :: x₄ :: rest) = afterText rest := by
  rw [afterText, h]
  rfl

/-- A spelling of a character is passed over. -/
theorem SpellsChar.afterText_append {c : Char} {s : List Char} (h : SpellsChar c s) (rest : List Char) :
    afterText (s ++ rest) = afterText rest := by
  cases h with
  | plain hcontrol hquote hbackslash =>
    rw [List.singleton_append, afterText, if_neg (by omega)]
    · exact hquote
    · exact fun h _ => hbackslash h
    · exact fun _ _ _ _ _ h _ => hbackslash h
    · exact fun _ h _ => hbackslash h
    · exact fun _ _ h _ => hbackslash h
  | @letter letter c h =>
    have hu := ne_u_of_escapeLetter h
    show afterText ('\\' :: letter :: rest) = _
    rw [afterText, h]
    · rfl
    · exact fun _ _ _ _ _ h _ => hu h
    · exact hu
  | number h => exact afterText_quad h rest
  | surrogates hx _ hy _ => exact (afterText_quad hx _).trans (afterText_quad hy rest)

/-- The content of a text ends at its closing quote. -/
theorem SpellsText.textContent_eq {content s : List Char} (h : SpellsText content s) (rest : List Char) :
    textContent (s ++ '"' :: rest) = .ok content := by
  induction h with
  | nil => rw [List.nil_append, textContent]
  | cons hc _ ih =>
    rw [List.append_assoc, hc.textContent_append, ih]
    rfl

private theorem SpellsText.afterText_eq {content s : List Char} (h : SpellsText content s) (rest : List Char) :
    afterText (s ++ '"' :: rest) = .ok rest := by
  induction h with
  | nil => rw [List.nil_append, afterText]
  | cons hc _ ih => rw [List.append_assoc, hc.afterText_append, ih]

private theorem token_text {content s : List Char} (h : SpellsText content s) (rest : List Char) :
    token '"' (s ++ '"' :: rest) = (.text ⟨.ok (String.ofList content), .ok ()⟩, some rest) := by
  show textToken (s ++ '"' :: rest) = _
  unfold textToken
  rw [h.textContent_eq, h.afterText_eq]
  rfl

/-! ### Numbers -/

/-- Whether some characters are digits, one at least. -/
def IsDigits (ds : List Char) : Prop :=
  ds ≠ [] ∧ ∀ c ∈ ds, c.isDigit = true

/-- The spellings of the digits behind the point, with the point. -/
inductive SpellsFraction : List Char → List Char → Prop where
  | absent : SpellsFraction [] []
  | digits {ds : List Char} (h : IsDigits ds) : SpellsFraction ds ('.' :: ds)

/-- The spellings of the sign of an exponent. -/
inductive SpellsSign : Bool → List Char → Prop where
  | none : SpellsSign false []
  | plus : SpellsSign false ['+']
  | minus : SpellsSign true ['-']

/-- The spellings of an exponent. -/
inductive SpellsExponent : Option (Bool × List Char) → List Char → Prop where
  | absent : SpellsExponent none []
  | digits {e : Char} (he : e = 'e' ∨ e = 'E') {negative : Bool} {sign ds : List Char}
      (hsign : SpellsSign negative sign) (h : IsDigits ds) : SpellsExponent (some (negative, ds)) (e :: (sign ++ ds))

/-- The spellings of a number.  Before the point, a zero stands alone. -/
inductive SpellsFigure : Figure → List Char → Prop where
  | mk (negative : Bool) {whole fraction : List Char} {exponent : Option (Bool × List Char)} {s t : List Char}
      (hwhole : IsDigits whole) (hzero : whole.head? = some '0' → whole.length = 1) (hs : SpellsFraction fraction s)
      (ht : SpellsExponent exponent t) :
      SpellsFigure ⟨negative, whole, fraction, exponent⟩ ((if negative then ['-'] else []) ++ (whole ++ (s ++ t)))

/-- Whether no number goes on with some characters. -/
def EndsNumber (rest : List Char) : Prop :=
  ∀ c ∈ rest.head?, c.isDigit = false ∧ c ≠ '.' ∧ c ≠ 'e' ∧ c ≠ 'E'

private theorem digits1_append {ds rest : List Char} (h : IsDigits ds) (hrest : ∀ c ∈ rest.head?, c.isDigit = false) :
    digits1 (ds ++ rest) = .ok (ds, rest) := by
  have htake : (ds ++ rest).takeWhile Char.isDigit = ds := by
    rw [List.takeWhile_append_of_pos h.2]
    cases rest with
    | nil => exact List.append_nil ds
    | cons c rest => rw [List.takeWhile_cons_of_neg (by simp [hrest c rfl]), List.append_nil]
  have hdrop : (ds ++ rest).dropWhile Char.isDigit = rest := by
    rw [List.dropWhile_append_of_pos h.2]
    cases rest with
    | nil => rfl
    | cons c rest => rw [List.dropWhile_cons_of_neg (by simp [hrest c rfl])]
  unfold digits1
  rw [htake, hdrop]
  cases ds with
  | nil => exact absurd rfl h.1
  | cons d ds => rfl

private theorem wholePart_append {ds rest : List Char} (h : IsDigits ds) (hzero : ds.head? = some '0' → ds.length = 1)
    (hrest : ∀ c ∈ rest.head?, c.isDigit = false) : wholePart (ds ++ rest) = .ok (ds, rest) := by
  unfold wholePart
  rw [digits1_append h hrest]
  refine if_neg ?_
  rintro ⟨hhead, hlength⟩
  have := hzero hhead
  omega

private theorem fractionPart_append {ds s rest : List Char} (h : SpellsFraction ds s)
    (hrest : ∀ c ∈ rest.head?, c.isDigit = false ∧ c ≠ '.') : fractionPart (s ++ rest) = .ok (ds, rest) := by
  cases h with
  | absent =>
    cases rest with
    | nil => rfl
    | cons c rest =>
      rw [List.nil_append, fractionPart]
      rintro s ⟨⟩
      exact (hrest '.' rfl).2 rfl
  | digits h => exact digits1_append h fun c hc => (hrest c hc).1

private theorem exponentSign_append {negative : Bool} {sign ds : List Char} (h : SpellsSign negative sign)
    (hds : IsDigits ds) (rest : List Char) : exponentSign (sign ++ (ds ++ rest)) = (negative, ds ++ rest) := by
  cases h with
  | plus | minus => rfl
  | none =>
    obtain ⟨hne, hdigits⟩ := hds
    cases ds with
    | nil => exact absurd rfl hne
    | cons d ds =>
      have hd := hdigits d List.mem_cons_self
      rw [List.nil_append, List.cons_append, exponentSign]
      · rintro s ⟨⟩
        exact absurd hd (by decide)
      · rintro s ⟨⟩
        exact absurd hd (by decide)

private theorem exponentPart_append {exponent : Option (Bool × List Char)} {t rest : List Char}
    (h : SpellsExponent exponent t) (hrest : EndsNumber rest) : exponentPart (t ++ rest) = .ok (exponent, rest) := by
  cases h with
  | absent =>
    cases rest with
    | nil => rfl
    | cons c rest =>
      obtain ⟨-, -, he, hE⟩ := hrest c rfl
      rw [List.nil_append, exponentPart, if_neg (not_or.2 ⟨he, hE⟩)]
  | @digits e he negative sign ds hsign hds =>
    rw [List.cons_append, List.append_assoc, exponentPart, if_pos he, exponentSign_append hsign hds]
    dsimp only
    rw [digits1_append hds fun c hc => (hrest c hc).1]
    rfl

/-- Behind the digits before the point, the spelling of a number goes on without a digit. -/
private theorem isDigit_head_append {exponent : Option (Bool × List Char)} {t rest : List Char}
    (h : SpellsExponent exponent t) (hrest : EndsNumber rest) :
    ∀ c ∈ (t ++ rest).head?, c.isDigit = false ∧ c ≠ '.' := by
  cases h with
  | absent => exact fun c hc => ⟨(hrest c hc).1, (hrest c hc).2.1⟩
  | digits he =>
    rintro c ⟨⟩
    rcases he with rfl | rfl <;> decide

private theorem figure_append {negative : Bool} {whole fraction : List Char} {exponent : Option (Bool × List Char)}
    {s t rest : List Char} (hwhole : IsDigits whole) (hzero : whole.head? = some '0' → whole.length = 1)
    (hs : SpellsFraction fraction s) (ht : SpellsExponent exponent t) (hrest : EndsNumber rest) :
    figure negative (whole ++ (s ++ (t ++ rest))) = .ok (⟨negative, whole, fraction, exponent⟩, rest) := by
  have hhead := isDigit_head_append ht hrest
  have hbehind : ∀ c ∈ (s ++ (t ++ rest)).head?, c.isDigit = false := by
    cases hs with
    | absent => exact fun c hc => (hhead c hc).1
    | digits h =>
      rintro c ⟨⟩
      rfl
  unfold figure
  rw [wholePart_append hwhole hzero hbehind]
  show (fractionPart (s ++ (t ++ rest)) >>= _) = _
  rw [fractionPart_append hs hhead]
  show (exponentPart (t ++ rest) >>= _) = _
  rw [exponentPart_append ht hrest]
  rfl

private theorem numberToken_append (negative : Bool) {whole fraction : List Char} {exponent : Option (Bool × List Char)}
    {s t rest : List Char} (hwhole : IsDigits whole) (hzero : whole.head? = some '0' → whole.length = 1)
    (hs : SpellsFraction fraction s) (ht : SpellsExponent exponent t) (hrest : EndsNumber rest) :
    numberToken negative (whole ++ (s ++ (t ++ rest))) =
      (.atom ⟨(Figure.mk negative whole fraction exponent).atom, .ok ()⟩, some rest) := by
  unfold numberToken
  rw [figure_append hwhole hzero hs ht hrest]

/-! ### Tokens -/

/-- White space between tokens is skipped. -/
theorem scan_space {c : Char} (h : isSpace c = true) (s : List Char) : scan (c :: s) = scan s := by
  rw [scan, if_pos h]

/-- A token that is taken stands in front of those that follow. -/
theorem scan_token {c : Char} {s rest : List Char} {t : Token} (hspace : isSpace c = false)
    (h : token c s = (t, some rest)) : scan (c :: s) = t :: scan rest := by
  rw [scan, if_neg (by rw [hspace]; decide)]
  split
  · rename_i h'
    rw [h] at h'
    cases h'
  · rename_i h'
    rw [h] at h'
    cases h'
    rfl

/-- Brackets, commas and colons are tokens. -/
theorem scan_mark {c : Char} (h : c ∈ ['[', ']', '\x7b', '\x7d', ',', ':']) (s : List Char) :
    scan (c :: s) = .mark c :: scan s := by
  simp only [List.mem_cons, List.not_mem_nil, or_false] at h
  refine scan_token ?_ (if_pos h)
  rcases h with rfl | rfl | rfl | rfl | rfl | rfl <;> decide

private theorem token_digit {d : Char} (hd : d.isDigit = true) (s : List Char) :
    isSpace d = false ∧ token d s = numberToken false (d :: s) := by
  have hne : ∀ c : Char, c.isDigit = false → d ≠ c := by
    rintro c hc rfl
    rw [hd] at hc
    cases hc
  have hspace : isSpace d = false := by
    simp [isSpace, hne ' ' rfl, hne '\t' rfl, hne '\n' rfl, hne '\r' rfl]
  refine ⟨hspace, ?_⟩
  simp [token, hne '[' rfl, hne ']' rfl, hne '\x7b' rfl, hne '\x7d' rfl, hne ',' rfl, hne ':' rfl, hne '"' rfl,
    hne 'n' rfl, hne 't' rfl, hne 'f' rfl, hne '-' rfl, hd]

/-- A number is a token, if what follows does not go on with it. -/
theorem scan_number {f : Figure} {s rest : List Char} (h : SpellsFigure f s) (hrest : EndsNumber rest) :
    scan (s ++ rest) = .atom ⟨f.atom, .ok ()⟩ :: scan rest := by
  obtain ⟨negative, hwhole, hzero, hs, ht⟩ := h
  have hnumber := numberToken_append negative hwhole hzero hs ht hrest
  simp only [List.append_assoc]
  -- a number begins with its sign or else with its first digit
  cases negative with
  | true => exact scan_token (by decide) hnumber
  | false =>
    rename_i whole fraction exponent s t
    cases whole with
    | nil => exact absurd rfl hwhole.1
    | cons d ds =>
      obtain ⟨hspace, htoken⟩ := token_digit (hwhole.2 d List.mem_cons_self) (ds ++ (s ++ (t ++ rest)))
      exact scan_token hspace (htoken.trans hnumber)

/-- The words. -/
inductive SpellsWord : Atom → List Char → Prop where
  | null : SpellsWord .null "null".toList
  | true : SpellsWord (.bool true) "true".toList
  | false : SpellsWord (.bool false) "false".toList

/-- A word is a token. -/
theorem scan_word {atom : Atom} {s : List Char} (h : SpellsWord atom s) (rest : List Char) :
    scan (s ++ rest) = .atom ⟨.ok atom, .ok ()⟩ :: scan rest := by
  cases h with
  | null | true | false => exact scan_token (by decide) rfl

/-- The spellings of tokens. -/
inductive Spells : List Token → List Char → Prop where
  | nil : Spells [] []
  | space {c : Char} {tokens : List Token} {rest : List Char} (hc : isSpace c = true) (hrest : Spells tokens rest) :
      Spells tokens (c :: rest)
  | mark (c : Char) {tokens : List Token} {rest : List Char} (hc : c ∈ ['[', ']', '\x7b', '\x7d', ',', ':'])
      (hrest : Spells tokens rest) : Spells (.mark c :: tokens) (c :: rest)
  | text {content s : List Char} {tokens : List Token} {rest : List Char} (hs : SpellsText content s)
      (hrest : Spells tokens rest) :
      Spells (.text ⟨.ok (String.ofList content), .ok ()⟩ :: tokens) ('"' :: (s ++ '"' :: rest))
  | word {atom : Atom} {s : List Char} {tokens : List Token} {rest : List Char} (hs : SpellsWord atom s)
      (hrest : Spells tokens rest) : Spells (.atom ⟨.ok atom, .ok ()⟩ :: tokens) (s ++ rest)
  | number {f : Figure} {s : List Char} {tokens : List Token} {rest : List Char} (hs : SpellsFigure f s)
      (hend : EndsNumber rest) (hrest : Spells tokens rest) : Spells (.atom ⟨f.atom, .ok ()⟩ :: tokens) (s ++ rest)

/-- Every spelling of tokens is divided into these tokens. -/
theorem scan_of_spells {tokens : List Token} {s : List Char} (h : Spells tokens s) : scan s = tokens := by
  induction h with
  | nil => rw [scan]
  | space hc _ ih => rw [scan_space hc, ih]
  | mark c hc _ ih => rw [scan_mark hc, ih]
  | text hs _ ih => rw [scan_token (by decide) (token_text hs _), ih]
  | word hs _ ih => rw [scan_word hs, ih]
  | number hs hend _ ih => rw [scan_number hs hend, ih]

end KeyedFlow.Json
