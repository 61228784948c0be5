import KeyedFlow.Proofs.TokenSpelling
import Mathlib

/-!
# Texts of documents

How JSON values can be written, whatever is said about them: characters of a text stand for themselves or are escaped
(`Json.CharText`), items and members stand between brackets with commas between them and white space anywhere
(`Json.ListText`, `Json.ObjectText`), and lists and objects hold values of any kind (`Json.IsValue`).  A text need not
make sense to be a value: an escape may be half a pair of surrogates, and a number may be of any size.

Nothing here looks at a reader.  What is written for a content is a spelling of it (`Json.ContentText.spellsText`).
-/

namespace KeyedFlow.Json

/-! ### Texts between quotes -/

/-- The hexadecimal digits, in either case. -/
def IsHexDigit (d : Nat) (x : Char) : Prop :=
  "0123456789abcdef".toList[d]? = some x ∨ "0123456789ABCDEF".toList[d]? = some x

/-- The escapes of a 16-bit unit by its number. -/
inductive UnitText : Nat → List Char → Prop where
  | mk {d₁ d₂ d₃ d₄ : Nat} {x₁ x₂ x₃ x₄ : Char} (h₁ : IsHexDigit d₁ x₁) (h₂ : IsHexDigit d₂ x₂)
      (h₃ : IsHexDigit d₃ x₃) (h₄ : IsHexDigit d₄ x₄) :
      UnitText (((d₁ * 16 + d₂) * 16 + d₃) * 16 + d₄) ['\\', 'u', x₁, x₂, x₃, x₄]

/-- The 16-bit units of a character: its number, or a pair of surrogates. -/
def units (c : Char) : List Nat :=
  if c.toNat < 0x10000 then [c.toNat]
  else [0xD800 + (c.toNat - 0x10000) / 0x400, 0xDC00 + (c.toNat - 0x10000) % 0x400]

/-- The letters that stand for a character behind a backslash, with the character. -/
def letters : List (Char × Char) :=
  [('"', '"'), ('\\', '\\'), ('/', '/'), ('b', '\x08'), ('f', '\x0c'), ('n', '\n'), ('r', '\r'), ('t', '\t')]

/-- Whether a character of a text may stand for itself. -/
def IsPlain (c : Char) : Prop :=
  0x20 ≤ c.toNat ∧ c ≠ '"' ∧ c ≠ '\\'

/-- What can be written for a character in a text. -/
inductive CharText (c : Char) : List Char → Prop where
  | plain (h : IsPlain c) : CharText c [c]
  | letter {x : Char} (h : (x, c) ∈ letters) : CharText c ['\\', x]
  | number {escapes : List (List Char)} (h : List.Forall₂ UnitText (units c) escapes) : CharText c escapes.flatten

/-- What can be written between quotes for a content. -/
def ContentText (content : String) (body : List Char) : Prop :=
  ∃ pieces, List.Forall₂ CharText content.toList pieces ∧ body = pieces.flatten

/-- What can be written for a content with its quotes. -/
inductive QuotedText (content : String) : List Char → Prop where
  | mk {body : List Char} (h : ContentText content body) : QuotedText content ('"' :: (body ++ ['"']))

/-- Whether some characters can stand between quotes, be there a content for them or not. -/
inductive IsBody : List Char → Prop where
  | nil : IsBody []
  | plain {c : Char} {rest : List Char} (h : IsPlain c) (hrest : IsBody rest) : IsBody (c :: rest)
  | letter {x c : Char} {rest : List Char} (h : (x, c) ∈ letters) (hrest : IsBody rest) : IsBody ('\\' :: x :: rest)
  | unit {n : Nat} {escape rest : List Char} (h : UnitText n escape) (hrest : IsBody rest) : IsBody (escape ++ rest)

/-! ### Values -/

/-- Whether some characters are white space. -/
def IsSpaces (s : List Char) : Prop :=
  ∀ c ∈ s, c ∈ [' ', '\t', '\n', '\r']

/-- Pieces with commas between them. -/
inductive Separated {α : Type} (piece : α → List Char → Prop) : List α → List Char → Prop where
  | last {a : α} {s : List Char} (h : piece a s) : Separated piece [a] s
  | cons {a : α} {more : List α} {s rest : List Char} (h : piece a s) (hrest : Separated piece more rest) :
      Separated piece (a :: more) (s ++ ',' :: rest)

/-- Any number of pieces between an opening and a closing bracket. -/
inductive Bracketed {α : Type} (opening closing : Char) (piece : α → List Char → Prop) : List α → List Char → Prop where
  | nil {spaces : List Char} (h : IsSpaces spaces) :
      Bracketed opening closing piece [] (opening :: (spaces ++ [closing]))
  | cons {as : List α} {s : List Char} (h : Separated piece as s) :
      Bracketed opening closing piece as (opening :: (s ++ [closing]))

/-- A value with white space around it. -/
inductive SpacedText (value : List Char) : List Char → Prop where
  | mk {before after : List Char} (hbefore : IsSpaces before) (hafter : IsSpaces after) :
      SpacedText value (before ++ (value ++ after))

/-- A member with white space around its key and around its value. -/
inductive MemberText (body value : List Char) : List Char → Prop where
  | mk {before behind s : List Char} (hbefore : IsSpaces before) (hbehind : IsSpaces behind) (hs : SpacedText value s) :
      MemberText body value (before ++ '"' :: (body ++ '"' :: (behind ++ ':' :: s)))

/-- The texts of a list, given the texts of its items. -/
def ListText : List (List Char) → List Char → Prop :=
  Bracketed '[' ']' SpacedText

/-- The texts of an object, given its keys and the texts of their values. -/
def ObjectText : List (String × List Char) → List Char → Prop :=
  Bracketed '\x7b' '\x7d' fun member s => ∃ body, ContentText member.1 body ∧ MemberText body member.2 s

/-- The texts of an object, given what stands between the quotes of its keys and the texts of its values. -/
def KeyedText : List (List Char × List Char) → List Char → Prop :=
  Bracketed '\x7b' '\x7d' fun member => MemberText member.1 member.2

/-- Whether a text is a value. -/
inductive IsValue : List Char → Prop where
  | word {s : List Char} (h : s ∈ ["null".toList, "true".toList, "false".toList]) : IsValue s
  | number {f : Figure} {s : List Char} (h : SpellsFigure f s) : IsValue s
  | text {body : List Char} (h : IsBody body) : IsValue ('"' :: (body ++ ['"']))
  | list {items : List (List Char)} {s : List Char} (h : ListText items s) (hitems : ∀ item ∈ items, IsValue item) :
      IsValue s
  | object {members : List (List Char × List Char)} {s : List Char} (h : KeyedText members s)
      (hkeys : ∀ member ∈ members, IsBody member.1) (hvalues : ∀ member ∈ members, IsValue member.2) : IsValue s

/-- The text of an integer, which has no other. -/
def IntegerText (n : Int) (s : List Char) : Prop :=
  s = (toString n).toList

/-- A whole document, with white space around its value. -/
def DocumentText (value : List Char → Prop) (text : String) : Prop :=
  ∃ s, value s ∧ SpacedText s text.toList

/-! ### Plain texts -/

/-- A value need not have white space around it. -/
theorem SpacedText.self (value : List Char) : SpacedText value value := by
  have h : SpacedText value ([] ++ (value ++ [])) := .mk nofun nofun
  rwa [List.nil_append, List.append_nil] at h

/-- A member without white space. -/
theorem MemberText.self (body value : List Char) : MemberText body value ('"' :: (body ++ '"' :: ':' :: value)) :=
  @MemberText.mk body value [] [] value nofun nofun (.self value)

/-- A list of one item, without white space. -/
theorem listText_singleton {item s : List Char} (h : s = '[' :: (item ++ [']'])) : ListText [item] s := by
  rw [h]
  exact .cons (.last (.self item))

/-- An object with one member, without white space. -/
theorem keyedText_singleton {key value s : List Char}
    (h : s = '\x7b' :: ('"' :: (key ++ '"' :: ':' :: value) ++ ['\x7d'])) : KeyedText [(key, value)] s := by
  rw [h]
  exact .cons (.last (.self key value))

/-- A character can be written in front of a content. -/
theorem ContentText.cons {content rest : String} {c : Char} {s body : List Char} (h : ContentText rest body)
    (hc : CharText c s) (hcontent : content.toList = c :: rest.toList) : ContentText content (s ++ body) := by
  obtain ⟨pieces, hpieces, rfl⟩ := h
  refine ⟨s :: pieces, ?_, rfl⟩
  rw [hcontent]
  exact .cons hc hpieces

/-- A content without quotes, backslashes and control characters can be written as it is. -/
theorem contentText_self {content : String} (h : ∀ c ∈ content.toList, IsPlain c) :
    ContentText content content.toList := by
  refine ⟨content.toList.map ([·]), ?_, ?_⟩
  · generalize content.toList = cs at h
    induction cs with
    | nil => exact .nil
    | cons c cs ih =>
      obtain ⟨hc, hcs⟩ := List.forall_mem_cons.1 h
      exact .cons (.plain hc) (ih hcs)
  · rw [← List.flatMap_def, List.flatMap_singleton']

/-- A text of plain characters can be written as it is between quotes. -/
theorem quotedText_self {content : String} {s : List Char} (hcontent : ∀ c ∈ content.toList, IsPlain c)
    (h : s = '"' :: (content.toList ++ ['"'])) : QuotedText content s := by
  rw [h]
  exact .mk (contentText_self hcontent)

/-- An object with one member whose key is plain, without white space. -/
theorem objectText_singleton {key : String} {value s : List Char} (hkey : ∀ c ∈ key.toList, IsPlain c)
    (h : s = '\x7b' :: ('"' :: (key.toList ++ '"' :: ':' :: value) ++ ['\x7d'])) : ObjectText [(key, value)] s := by
  rw [h]
  exact .cons (.last ⟨_, contentText_self hkey, .self _ _⟩)

/-! ### Spellings -/

private theorem IsHexDigit.lt {d : Nat} {x : Char} (h : IsHexDigit d x) : d < 16 := by
  rcases h with h | h <;> exact (List.getElem?_eq_some_iff.1 h).1

private theorem IsHexDigit.hexValue? {d : Nat} {x : Char} (h : IsHexDigit d x) : Text.hexValue? x = some d := by
  have hlt := h.lt
  unfold IsHexDigit at h
  interval_cases d <;> (rcases h with h | h <;> (cases h; rfl))

/-- An escape of a unit is four hexadecimal digits that give its number. -/
theorem UnitText.exists_eq {n : Nat} {s : List Char} (h : UnitText n s) :
    ∃ x₁ x₂ x₃ x₄, s = ['\\', 'u', x₁, x₂, x₃, x₄] ∧ hexQuad? x₁ x₂ x₃ x₄ = some n := by
  obtain ⟨h₁, h₂, h₃, h₄⟩ := h
  refine ⟨_, _, _, _, rfl, ?_⟩
  unfold hexQuad?
  rw [h₁.hexValue?, h₂.hexValue?, h₃.hexValue?, h₄.hexValue?]
  rfl

/-- The letters are those that the scanner knows. -/
theorem escapeLetter?_of_mem {x c : Char} (h : (x, c) ∈ letters) : escapeLetter? x = some c := by
  unfold letters at h
  simp only [List.mem_cons, Prod.mk.injEq, List.not_mem_nil, or_false] at h
  rcases h with ⟨rfl, rfl⟩ | ⟨rfl, rfl⟩ | ⟨rfl, rfl⟩ | ⟨rfl, rfl⟩ | ⟨rfl, rfl⟩ | ⟨rfl, rfl⟩ | ⟨rfl, rfl⟩ | ⟨rfl, rfl⟩
  all_goals rfl

theorem UnitText.length_pos {n : Nat} {s : List Char} (h : UnitText n s) : 0 < s.length := by
  cases h
  exact Nat.succ_pos _

private theorem UnitText.lt {n : Nat} {s : List Char} (h : UnitText n s) : n < 0x10000 := by
  obtain ⟨h₁, h₂, h₃, h₄⟩ := h
  have := h₁.lt
  have := h₂.lt
  have := h₃.lt
  have := h₄.lt
  omega

/-- The number of a character is an escape of it. -/
theorem UnitText.charText {n : Nat} {s : List Char} (h : UnitText n s) (hn : n < 0xD800 ∨ 0xDFFF < n) :
    CharText (Char.ofNat n) s := by
  have hlt := h.lt
  have hunits : units (Char.ofNat n) = [n] := by
    have hvalid : n.isValidChar := hn.imp_right fun hn => ⟨hn, by omega⟩
    unfold units
    rw [Char.toNat_ofNat, if_pos hvalid, if_pos hlt]
  have htext : CharText (Char.ofNat n) [s].flatten := .number (by rw [hunits]; exact .cons h .nil)
  rwa [List.flatten_singleton] at htext

/-- Two halves of a pair are an escape of the character the pair stands for. -/
theorem UnitText.charText_pair {n m : Nat} {s t : List Char} (h : UnitText n s) (hn : 0xD800 ≤ n ∧ n ≤ 0xDBFF)
    (h' : UnitText m t) (hm : 0xDC00 ≤ m ∧ m ≤ 0xDFFF) : CharText (surrogatePair n m) (s ++ t) := by
  have hunits : units (surrogatePair n m) = [n, m] := by
    have hvalid : (0x10000 + (n - 0xD800) * 0x400 + (m - 0xDC00)).isValidChar := Or.inr ⟨by omega, by omega⟩
    unfold units surrogatePair
    rw [Char.toNat_ofNat, if_pos hvalid, if_neg (by omega),
      show 0xD800 + (0x10000 + (n - 0xD800) * 0x400 + (m - 0xDC00) - 0x10000) / 0x400 = n by omega,
      show 0xDC00 + (0x10000 + (n - 0xD800) * 0x400 + (m - 0xDC00) - 0x10000) % 0x400 = m by omega]
  have htext : CharText (surrogatePair n m) [s, t].flatten :=
    .number (by rw [hunits]; exact .cons h (.cons h' .nil))
  rwa [List.flatten_cons, List.flatten_singleton] at htext

/-- What can be written for a character is a spelling of it. -/
theorem CharText.spellsChar {c : Char} {s : List Char} (h : CharText c s) : SpellsChar c s := by
  cases h with
  | plain h => exact .plain h.1 h.2.1 h.2.2
  | letter h => exact .letter (escapeLetter?_of_mem h)
  | @number escapes h =>
    unfold units at h
    split at h
    · obtain ⟨escape, _, hescape, hnil, rfl⟩ := List.forall₂_cons_left_iff.1 h
      obtain rfl := List.forall₂_nil_left_iff.1 hnil
      obtain ⟨x₁, x₂, x₃, x₄, rfl, hquad⟩ := hescape.exists_eq
      exact .number hquad
    · rename_i hlarge
      obtain ⟨high, _, hhigh, hrest, rfl⟩ := List.forall₂_cons_left_iff.1 h
      obtain ⟨low, _, hlow, hnil, rfl⟩ := List.forall₂_cons_left_iff.1 hrest
      obtain rfl := List.forall₂_nil_left_iff.1 hnil
      obtain ⟨x₁, x₂, x₃, x₄, rfl, hx⟩ := hhigh.exists_eq
      obtain ⟨y₁, y₂, y₃, y₄, rfl, hy⟩ := hlow.exists_eq
      have hvalid : c.toNat < 0xD800 ∨ 0xDFFF < c.toNat ∧ c.toNat < 0x110000 := c.valid
      have hpair : surrogatePair (0xD800 + (c.toNat - 0x10000) / 0x400) (0xDC00 + (c.toNat - 0x10000) % 0x400) = c := by
        unfold surrogatePair
        rw [show 0x10000 + (0xD800 + (c.toNat - 0x10000) / 0x400 - 0xD800) * 0x400 +
          (0xDC00 + (c.toNat - 0x10000) % 0x400 - 0xDC00) = c.toNat by omega, Char.ofNat_toNat]
      have hspells := SpellsChar.surrogates hx (by omega) hy (by omega)
      rw [hpair] at hspells
      exact hspells

/-- What can be written between quotes for a content spells its characters. -/
theorem ContentText.spellsText {content : String} {body : List Char} (h : ContentText content body) :
    SpellsText content.toList body := by
  obtain ⟨pieces, hpieces, rfl⟩ := h
  generalize content.toList = cs at hpieces ⊢
  induction hpieces with
  | nil => exact .nil
  | cons hc _ ih => exact .cons hc.spellsChar ih

private theorem CharText.isBody_append {c : Char} {s rest : List Char} (h : CharText c s) (hrest : IsBody rest) :
    IsBody (s ++ rest) := by
  cases h with
  | plain h => exact .plain h hrest
  | letter h => exact .letter h hrest
  | @number escapes h =>
    generalize units c = numbers at h
    induction h with
    | nil => exact hrest
    | cons hescape _ ih =>
      rw [List.flatten_cons, List.append_assoc]
      exact .unit hescape ih

/-- What can be written for a content can stand between quotes. -/
theorem ContentText.isBody {content : String} {body : List Char} (h : ContentText content body) : IsBody body := by
  obtain ⟨pieces, hpieces, rfl⟩ := h
  generalize content.toList = cs at hpieces
  induction hpieces with
  | nil => exact .nil
  | cons hc _ ih => exact hc.isBody_append ih

/-- A quoted text is a value. -/
theorem QuotedText.isValue {content : String} {s : List Char} (h : QuotedText content s) : IsValue s := by
  obtain ⟨hbody⟩ := h
  exact .text hbody.isBody

end KeyedFlow.Json
