import KeyedFlow.Json.Token

/-!
# Dividing a text into tokens

Every token leaves less of the text than there was (`length_of_token`), which is why the division ends.
-/

namespace KeyedFlow.Json

private theorem length_of_afterWord {word s rest : List Char} (h : afterWord word s = .ok rest) :
    rest.length ≤ s.length := by
  fun_induction afterWord word s <;> grind

private theorem length_of_afterText {s rest : List Char} (h : afterText s = .ok rest) : rest.length ≤ s.length := by
  fun_induction afterText s <;> simp_all <;> omega

private theorem length_of_digits1 {s ds rest : List Char} (h : digits1 s = .ok (ds, rest)) :
    rest.length < s.length := by
  have hlen := congrArg List.length (List.takeWhile_append_dropWhile (p := Char.isDigit) (l := s))
  unfold digits1 at h
  split at h
  · simp at h
  · rename_i hd
    simp only [Except.ok.injEq, Prod.mk.injEq] at h
    rw [hd, List.length_append] at hlen
    rw [← h.2]
    simp at hlen; omega

private theorem length_of_wholePart {s ds rest : List Char} (h : wholePart s = .ok (ds, rest)) :
    rest.length < s.length := by
  unfold wholePart at h
  cases hd : digits1 s with
  | error e => simp [hd, bind, Except.bind] at h
  | ok p =>
    simp only [hd, bind, Except.bind] at h
    split at h
    · simp at h
    · exact length_of_digits1 (by rw [hd]; exact h)

private theorem length_of_fractionPart {s ds rest : List Char} (h : fractionPart s = .ok (ds, rest)) :
    rest.length ≤ s.length := by
  unfold fractionPart at h
  split at h
  · have := length_of_digits1 h
    simp; omega
  · simp_all

private theorem length_exponentSign (s : List Char) : (exponentSign s).2.length ≤ s.length := by
  unfold exponentSign
  split <;> simp

private theorem length_of_exponentPart {s rest : List Char} {e : Option (Bool × List Char)}
    (h : exponentPart s = .ok (e, rest)) : rest.length ≤ s.length := by
  unfold exponentPart at h
  split at h
  · rename_i c s
    split at h
    · cases hd : digits1 (exponentSign s).2 with
      | error e => simp [hd, bind, Except.bind] at h
      | ok p =>
        obtain ⟨ds, tail⟩ := p
        have := length_of_digits1 hd
        have := length_exponentSign s
        simp only [hd, bind, Except.bind, Except.ok.injEq, Prod.mk.injEq] at h
        rw [← h.2]
        simp; omega
    · simp_all
  · simp_all

private theorem length_of_figure {negative : Bool} {s rest : List Char} {f : Figure}
    (h : figure negative s = .ok (f, rest)) : rest.length < s.length := by
  unfold figure at h
  cases h1 : wholePart s with
  | error e => simp [h1, bind, Except.bind] at h
  | ok p =>
    obtain ⟨whole, s1⟩ := p
    cases h2 : fractionPart s1 with
    | error e => simp [h1, h2, bind, Except.bind] at h
    | ok q =>
      obtain ⟨places, s2⟩ := q
      cases h3 : exponentPart s2 with
      | error e => simp [h1, h2, h3, bind, Except.bind] at h
      | ok r =>
        obtain ⟨exponent, s3⟩ := r
        have l1 := length_of_wholePart h1
        have l2 := length_of_fractionPart h2
        have l3 := length_of_exponentPart h3
        simp only [h1, h2, h3, bind, Except.bind, Except.ok.injEq, Prod.mk.injEq] at h
        rw [← h.2]
        omega

private theorem length_of_wordToken {atom : Atom} {word s rest : List Char} {t : Token}
    (h : wordToken atom word s = (t, some rest)) : rest.length ≤ s.length := by
  unfold wordToken at h
  split at h
  · rename_i r hr
    simp only [Prod.mk.injEq, Option.some.injEq] at h
    exact h.2 ▸ length_of_afterWord hr
  · simp at h

private theorem length_of_numberToken {negative : Bool} {s rest : List Char} {t : Token}
    (h : numberToken negative s = (t, some rest)) : rest.length < s.length := by
  unfold numberToken at h
  split at h
  · rename_i f r hr
    simp only [Prod.mk.injEq, Option.some.injEq] at h
    exact h.2 ▸ length_of_figure hr
  · simp at h
  · simp at h

private theorem length_of_textToken {s rest : List Char} {t : Token} (h : textToken s = (t, some rest)) :
    rest.length ≤ s.length := by
  unfold textToken at h
  simp only at h
  split at h
  · rename_i r hr
    simp only [Prod.mk.injEq, Option.some.injEq] at h
    exact h.2 ▸ length_of_afterText hr
  · simp at h

/-- Behind its first character, a token leaves no more of a text than there is. -/
theorem length_of_token {c : Char} {s rest : List Char} {t : Token} (h : token c s = (t, some rest)) :
    rest.length ≤ s.length := by
  unfold token at h
  split at h
  · simp_all
  split at h
  · exact length_of_textToken h
  split at h
  · exact length_of_wordToken h
  split at h
  · exact length_of_wordToken h
  split at h
  · exact length_of_wordToken h
  split at h
  · exact Nat.le_of_lt (length_of_numberToken h)
  split at h
  · have := length_of_numberToken h
    simp at this; omega
  · simp at h

/-- The tokens of a text, up to the first that cannot be passed over. -/
def scan : List Char → List Token
  | [] => []
  | c :: s =>
    if isSpace c then scan s
    else
      match _h : token c s with
      | (t, none) => [t]
      | (t, some rest) => t :: scan rest
termination_by s => s.length
decreasing_by
  · simp
  · have := length_of_token _h
    simp; omega

end KeyedFlow.Json
