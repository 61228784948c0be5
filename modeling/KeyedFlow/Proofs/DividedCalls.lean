import KeyedFlow.Proofs.WrittenCalls

/-!
# How texts are divided into calls

A text is divided into a name and an argument exactly if it is a name, an opening parenthesis, an argument and a closing
parenthesis, where neither name nor argument holds an opening parenthesis (`Call.split?_eq_some_iff`).  These are the
texts with one opening parenthesis that end with a closing one (`Call.isSome_split?_iff`).  Whatever a text is, it is
the text of the call that is read from it (`Call.parse_divides`).
-/

namespace KeyedFlow.Call

/-- A call is divided at the only opening parenthesis, and the last character closes its argument. -/
theorem split?_eq_some_iff {s name argument : List Char} :
    split? s = some (name, argument) ↔
      s = name ++ '(' :: (argument ++ [')']) ∧ '(' ∉ name ∧ '(' ∉ argument := by
  constructor
  · intro h
    have hs := List.takeWhile_append_dropWhile (p := (· ≠ '(')) (l := s)
    have hname : '(' ∉ s.takeWhile (· ≠ '(') := fun hmem => by simpa using List.mem_takeWhile_imp hmem
    unfold split? at h
    split at h
    · cases h
    · rename_i c rest hdrop
      have hc : c = '(' := by
        have hhead := List.head?_dropWhile_not (· ≠ '(') s
        rw [hdrop] at hhead
        simpa using hhead
      split at h
      · cases h
      · rename_i hrest
        have hrest : '(' ∉ rest := by simpa using hrest
        split at h
        · rename_i hlast
          cases h
          rw [hdrop, hc] at hs
          refine ⟨?_, hname, fun hmem => hrest (List.mem_of_mem_dropLast hmem)⟩
          rw [List.dropLast_append_getLast? _ hlast, hs]
        · cases h
  · rintro ⟨rfl, hname, hargument⟩
    exact split?_append hname hargument

/-- A text is divided exactly when it has one opening parenthesis and ends with a closing one. -/
theorem isSome_split?_iff {s : List Char} : (split? s).isSome ↔ s.count '(' = 1 ∧ s.getLast? = some ')' := by
  rw [Option.isSome_iff_exists, Prod.exists]
  constructor
  · rintro ⟨name, argument, h⟩
    obtain ⟨rfl, hname, hargument⟩ := split?_eq_some_iff.1 h
    constructor
    · simp [List.count_append, List.count_eq_zero.2 hname, List.count_eq_zero.2 hargument]
    · rw [← List.cons_append, ← List.append_assoc, List.getLast?_concat]
  · rintro ⟨hcount, hlast⟩
    have hmem : '(' ∈ s := List.count_pos_iff.1 (by omega)
    obtain ⟨name, rest, rfl⟩ := List.append_of_mem hmem
    rw [List.count_append, List.count_cons_self] at hcount
    have hname : '(' ∉ name := List.count_eq_zero.1 (by omega)
    have hrest : '(' ∉ rest := List.count_eq_zero.1 (by omega)
    -- the last character stands behind the parenthesis, which is not a closing one
    have hlast : rest.getLast? = some ')' := by
      rw [List.getLast?_append_of_ne_nil _ (List.cons_ne_nil _ _)] at hlast
      cases rest with
      | nil => cases hlast
      | cons c rest => rwa [List.getLast?_cons_cons] at hlast
    refine ⟨name, rest.dropLast, split?_eq_some_iff.2 ⟨?_, hname, fun h => hrest (List.mem_of_mem_dropLast h)⟩⟩
    rw [List.dropLast_append_getLast? _ hlast]

private theorem parse_of_split? {s : String} {name argument : List Char} (h : split? s.toList = some (name, argument)) :
    parse s = ⟨String.ofList name, some (String.ofList argument)⟩ := by
  unfold parse
  rw [h]

private theorem parse_of_split?_eq_none {s : String} (h : split? s.toList = none) : parse s = ⟨s, none⟩ := by
  unfold parse
  rw [h]

private theorem isSome_argument_parse (s : String) : (parse s).argument.isSome = (split? s.toList).isSome := by
  cases h : split? s.toList with
  | none =>
    rw [parse_of_split?_eq_none h]
    rfl
  | some parts =>
    rw [parse_of_split? h]
    rfl

/-- A text with an argument is taken apart at its only opening parenthesis, and nothing of it is lost. -/
private theorem parse_eq_some_iff {s name argument : String} :
    parse s = ⟨name, some argument⟩ ↔
      s = name ++ "(" ++ argument ++ ")" ∧ '(' ∉ name.toList ∧ '(' ∉ argument.toList := by
  constructor
  · intro h
    cases hsplit : split? s.toList with
    | none =>
      rw [parse_of_split?_eq_none hsplit] at h
      cases h
    | some parts =>
      rw [parse_of_split? hsplit] at h
      cases h
      obtain ⟨hs, hname, hargument⟩ := split?_eq_some_iff.1 hsplit
      refine ⟨?_, by rwa [String.toList_ofList], by rwa [String.toList_ofList]⟩
      apply String.toList_injective
      simp [hs]
  · rintro ⟨rfl, hname, hargument⟩
    exact parse_text hname hargument

/-- A text without an argument is a bare name. -/
private theorem parse_eq_of_argument_eq_none {s : String} (h : (parse s).argument = none) : parse s = ⟨s, none⟩ := by
  cases hsplit : split? s.toList with
  | none => exact parse_of_split?_eq_none hsplit
  | some parts =>
    rw [parse_of_split? hsplit] at h
    cases h

private theorem text_parse (s : String) : (parse s).text = s := by
  cases hparse : parse s with
  | mk name argument =>
    cases argument with
    | none =>
      have hname := parse_eq_of_argument_eq_none (s := s) (by rw [hparse])
      rw [hparse] at hname
      cases hname
      rfl
    | some argument => exact (parse_eq_some_iff.1 hparse).1.symm

/-- No text loses anything by being read as a call: the call has the text that it was read from.  A text has an argument
exactly if it holds one opening parenthesis and ends with a closing one, and is a bare name otherwise; conversely a name
and an argument without opening parentheses are read from their text. -/
theorem parse_divides (s : String) :
    (parse s).text = s ∧
    ((parse s).argument.isSome ↔ s.toList.count '(' = 1 ∧ s.toList.getLast? = some ')') ∧
    (∀ argument, (parse s).argument = some argument → '(' ∉ (parse s).name.toList ∧ '(' ∉ argument.toList) ∧
    ((parse s).argument = none → (parse s).name = s) ∧
    ('(' ∉ s.toList → parse s = ⟨s, none⟩) ∧
    ∀ name argument : String, '(' ∉ name.toList → '(' ∉ argument.toList →
      parse (name ++ "(" ++ argument ++ ")") = ⟨name, some argument⟩ := by
  have hargument : (parse s).argument.isSome ↔ s.toList.count '(' = 1 ∧ s.toList.getLast? = some ')' := by
    rw [isSome_argument_parse, isSome_split?_iff]
  refine ⟨text_parse s, hargument, fun argument h => ?_, fun h => ?_, fun h => ?_, fun _ _ hname hp => ?_⟩
  · have hparse : parse s = ⟨(parse s).name, some argument⟩ := by rw [← h]
    exact (parse_eq_some_iff.1 hparse).2
  · rw [parse_eq_of_argument_eq_none h]
  · refine parse_eq_of_argument_eq_none (Option.not_isSome_iff_eq_none.1 fun hsome => ?_)
    have hcount := (hargument.1 hsome).1
    rw [List.count_eq_zero.2 h] at hcount
    cases hcount
  · exact parse_text hname hp

/-- A second opening parenthesis keeps a text in one piece; a second closing one belongs to the argument. -/
theorem parse_divides_nested :
    (parse "ADD((1))").text = "ADD((1))" ∧ (parse "ADD((1))").argument = none ∧
      parse "ADD(1))" = ⟨"ADD", some "1)"⟩ ∧ parse "ADD)" = ⟨"ADD)", none⟩ := by
  obtain ⟨htext, hargument, -, -, -, happlied⟩ := parse_divides "ADD((1))"
  obtain ⟨-, -, -, -, hbare, -⟩ := parse_divides "ADD)"
  refine ⟨htext, Option.not_isSome_iff_eq_none.1 fun hsome => ?_, happlied "ADD" "1)" (by decide) (by decide),
    hbare (by decide)⟩
  exact absurd (hargument.1 hsome).1 (by decide)

end KeyedFlow.Call
