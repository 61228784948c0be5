import KeyedFlow.Json.Reader
import KeyedFlow.Proofs.DocumentText
import KeyedFlow.Proofs.WrittenTrees

/-!
# Trees of documents

The text of a value has a tree, which does not depend on what follows the value (`Json.HasTree`).  The tree of a list
is made of the trees of its items, and that of an object of the trees of its values (`Json.hasTree_list`,
`Json.hasTree_object`).  So every value can be passed over (`Json.IsValue.skip_textTree`), and a document is read as the
tree of its value is (`Json.HasTree.ofText_eq`).

Between quotes there may stand what has no content.  Where it has one, it is written for it (`Json.IsBody.contentText`),
and for no other (`Json.ContentText.unique`).
-/

namespace KeyedFlow.Json

/-- Whether a tree is that of a value, whatever follows the value. -/
structure HasTree (s : List Char) (t : Tree) : Prop where
  whole : t.IsWhole
  scan_append : ∀ rest, EndsNumber rest → scan (s ++ rest) = t.tokens (scan rest)

/-- The tree that is read from the text of a value. -/
def textTree (s : List Char) : Tree :=
  (read .value [] (scan s)).tree

/-- The text of a value has only one tree, the one that is read from it. -/
theorem HasTree.textTree_eq {s : List Char} {t : Tree} (h : HasTree s t) : textTree s = t := by
  have hscan := h.scan_append [] nofun
  rw [List.append_nil, show scan [] = [] by rw [scan]] at hscan
  unfold textTree
  rw [hscan, read_tokens t h.whole, read]

/-- If the text of a value has a tree, it has the one that is read from it. -/
theorem HasTree.self {s : List Char} {t : Tree} (h : HasTree s t) : HasTree s (textTree s) := by
  rwa [h.textTree_eq]

/-! ### Texts between quotes -/

/-- A text of which only its characters between the quotes are known. -/
def bodyLexeme (body : List Char) : Lexeme String :=
  ⟨(textContent (body ++ ['"'])).map String.ofList, .ok ()⟩

private theorem IsBody.afterText_eq {body : List Char} (h : IsBody body) (rest : List Char) :
    afterText (body ++ '"' :: rest) = .ok rest := by
  induction h with
  | nil => rw [List.nil_append, afterText]
  | plain h _ ih => exact ((SpellsChar.plain h.1 h.2.1 h.2.2).afterText_append _).trans ih
  | letter h _ ih => exact ((SpellsChar.letter (escapeLetter?_of_mem h)).afterText_append _).trans ih
  | unit h _ ih =>
    obtain ⟨x₁, x₂, x₃, x₄, rfl, hquad⟩ := h.exists_eq
    exact (afterText_quad hquad _).trans ih

private theorem ne_u_of_mem_letters {x c : Char} (h : (x, c) ∈ letters) : x ≠ 'u' := by
  rintro rfl
  have hletter := escapeLetter?_of_mem h
  cases hletter

/-- Where no number follows half a pair of surrogates, there is no content. -/
private theorem textContent_unpaired {n : Nat} {x₁ x₂ x₃ x₄ : Char} (hquad : hexQuad? x₁ x₂ x₃ x₄ = some n)
    (hhigh : 0xD800 ≤ n ∧ n ≤ 0xDBFF) {s : List Char}
    (hs : (∃ c more, s = c :: more ∧ c ≠ '\\') ∨ ∃ x more, s = '\\' :: x :: more ∧ x ≠ 'u') :
    textContent ('\\' :: 'u' :: x₁ :: x₂ :: x₃ :: x₄ :: s) = .error .unpairedEscape := by
  rw [textContent, hquad]
  dsimp only
  rw [if_neg (by omega), if_pos hhigh]
  split
  case h_5 => rfl
  all_goals
    rcases hs with ⟨c, more, hs, hc⟩ | ⟨x, more, hs, hx⟩ <;> cases hs
    all_goals contradiction

/-- Whether `content` is what is read of a text between quotes, whatever follows the closing quote, and the text is
written for it. -/
structure IsRead (body : List Char) (content : Except Fault (List Char)) : Prop where
  textContent_eq : ∀ rest, textContent (body ++ '"' :: rest) = content
  contentText : ∀ cs, content = .ok cs → ContentText (String.ofList cs) body

private theorem isRead_error {body : List Char} {fault : Fault}
    (h : ∀ rest, textContent (body ++ '"' :: rest) = .error fault) : IsRead body (.error fault) :=
  ⟨h, nofun⟩

private theorem IsRead.cons {body : List Char} {content : Except Fault (List Char)} (h : IsRead body content) {c : Char}
    {s : List Char} (hc : CharText c s) : IsRead (s ++ body) (content.map (c :: ·)) := by
  refine ⟨fun rest => ?_, fun cs hcs => ?_⟩
  · rw [List.append_assoc, hc.spellsChar.textContent_append, h.textContent_eq]
  · cases content with
    | error => cases hcs
    | ok more =>
      cases hcs
      exact (h.contentText more rfl).cons hc (by rw [String.toList_ofList, String.toList_ofList])

/-- What follows the first half of a pair decides whether there is a second half. -/
private theorem IsBody.exists_isRead_of_high {n : Nat} {escape more : List Char} (h : UnitText n escape)
    (hhigh : 0xD800 ≤ n ∧ n ≤ 0xDBFF) (hmore : IsBody more)
    (ih : ∀ body, IsBody body → body.length < more.length → ∃ content, IsRead body content) :
    ∃ content, IsRead (escape ++ more) content := by
  obtain ⟨x₁, x₂, x₃, x₄, rfl, hquad⟩ := h.exists_eq
  cases hmore with
  | nil => exact ⟨_, isRead_error fun rest => textContent_unpaired hquad hhigh (Or.inl ⟨_, _, rfl, by decide⟩)⟩
  | plain h => exact ⟨_, isRead_error fun rest => textContent_unpaired hquad hhigh (Or.inl ⟨_, _, rfl, h.2.2⟩)⟩
  | letter h =>
    exact ⟨_, isRead_error fun rest => textContent_unpaired hquad hhigh (Or.inr ⟨_, _, rfl, ne_u_of_mem_letters h⟩)⟩
  | @unit m other more hother hmore =>
    by_cases hlow : 0xDC00 ≤ m ∧ m ≤ 0xDFFF
    · obtain ⟨content, hcontent⟩ := ih more hmore (by rw [List.length_append]; have := hother.length_pos; omega)
      have hpair := hcontent.cons (h.charText_pair hhigh hother hlow)
      rw [List.append_assoc] at hpair
      exact ⟨_, hpair⟩
    · obtain ⟨y₁, y₂, y₃, y₄, rfl, hotherQuad⟩ := hother.exists_eq
      refine ⟨.error .loneSurrogate, isRead_error fun rest => ?_⟩
      show textContent ('\\' :: 'u' :: x₁ :: x₂ :: x₃ :: x₄ :: '\\' :: 'u' :: y₁ :: y₂ :: y₃ :: y₄ ::
        (more ++ '"' :: rest)) = _
      rw [textContent, hquad]
      dsimp only
      rw [if_neg (by omega), if_pos hhigh]
      simp only [hotherQuad, if_neg hlow]

/-- The content of a text does not depend on what follows its closing quote. -/
private theorem IsBody.exists_isRead {body : List Char} (h : IsBody body) : ∃ content, IsRead body content := by
  -- on the length, since a pair of surrogates is read as two escapes at once
  induction hlength : body.length using Nat.strongRecOn generalizing body with
  | ind length ih =>
    subst hlength
    cases h with
    | nil => exact ⟨.ok [], fun rest => by rw [List.nil_append, textContent], by rintro _ ⟨⟩; exact ⟨[], .nil, rfl⟩⟩
    | plain h hmore =>
      obtain ⟨content, hcontent⟩ := ih _ (by simp) hmore rfl
      exact ⟨_, hcontent.cons (.plain h)⟩
    | letter h hmore =>
      obtain ⟨content, hcontent⟩ := ih _ (by simp) hmore rfl
      exact ⟨_, hcontent.cons (.letter h)⟩
    | @unit n escape more h hmore =>
      obtain ⟨x₁, x₂, x₃, x₄, rfl, hquad⟩ := h.exists_eq
      by_cases hlow : 0xDC00 ≤ n ∧ n ≤ 0xDFFF
      · refine ⟨.error .loneSurrogate, isRead_error fun rest => ?_⟩
        show textContent ('\\' :: 'u' :: x₁ :: x₂ :: x₃ :: x₄ :: (more ++ '"' :: rest)) = _
        rw [textContent, hquad]
        dsimp only
        rw [if_pos hlow]
      · by_cases hhigh : 0xD800 ≤ n ∧ n ≤ 0xDBFF
        · exact IsBody.exists_isRead_of_high h hhigh hmore fun body hbody hlength =>
            ih _ (by simp; omega) hbody rfl
        · obtain ⟨content, hcontent⟩ := ih _ (by simp; omega) hmore rfl
          exact ⟨_, hcontent.cons (h.charText (by omega))⟩

/-- If a text between quotes has a content, it is written for it. -/
theorem IsBody.contentText {body : List Char} (h : IsBody body) {content : String}
    (hcontent : (bodyLexeme body).content = .ok content) : ContentText content body := by
  obtain ⟨read, hread⟩ := h.exists_isRead
  unfold bodyLexeme at hcontent
  dsimp only at hcontent
  rw [hread.textContent_eq] at hcontent
  cases read with
  | error => cases hcontent
  | ok cs =>
    cases hcontent
    exact hread.contentText cs rfl

private theorem IsBody.scan_append {body : List Char} (h : IsBody body) (rest : List Char) :
    scan ('"' :: (body ++ '"' :: rest)) = .text (bodyLexeme body) :: scan rest := by
  obtain ⟨content, hcontent⟩ := h.exists_isRead
  refine scan_token (by decide) ?_
  show textToken (body ++ '"' :: rest) = _
  unfold textToken bodyLexeme
  rw [h.afterText_eq, hcontent.textContent_eq, hcontent.textContent_eq]

/-- The content of what is written between quotes is the one it is written for. -/
theorem ContentText.bodyLexeme_eq {content : String} {body : List Char} (h : ContentText content body) :
    bodyLexeme body = ⟨.ok content, .ok ()⟩ := by
  unfold bodyLexeme
  rw [h.spellsText.textContent_eq]
  exact congrArg (Lexeme.mk · (.ok ())) (congrArg Except.ok String.ofList_toList)

/-- What is written between quotes has one content. -/
theorem ContentText.unique {content other : String} {body : List Char} (h : ContentText content body)
    (h' : ContentText other body) : content = other := by
  have heq := h.bodyLexeme_eq.symm.trans h'.bodyLexeme_eq
  cases heq
  rfl

/-! ### White space -/

private theorem IsSpaces.scan_append {spaces : List Char} (h : IsSpaces spaces) (rest : List Char) :
    scan (spaces ++ rest) = scan rest := by
  induction spaces with
  | nil => rfl
  | cons c spaces ih =>
    obtain ⟨hc, hspaces⟩ := List.forall_mem_cons.1 h
    have hspace : isSpace c = true := by
      simp only [List.mem_cons, List.not_mem_nil, or_false] at hc
      rcases hc with rfl | rfl | rfl | rfl <;> decide
    rw [List.cons_append, scan_space hspace, ih hspaces]

private theorem IsSpaces.endsNumber_append {spaces rest : List Char} (h : IsSpaces spaces) (hrest : EndsNumber rest) :
    EndsNumber (spaces ++ rest) := by
  cases spaces with
  | nil => exact hrest
  | cons c spaces =>
    have hc := h c List.mem_cons_self
    simp only [List.mem_cons, List.not_mem_nil, or_false] at hc
    rintro _ ⟨⟩
    rcases hc with rfl | rfl | rfl | rfl <;> decide

private theorem HasTree.scan_spaced {value s : List Char} {t : Tree} (h : HasTree value t) (hs : SpacedText value s)
    {rest : List Char} (hrest : EndsNumber rest) : scan (s ++ rest) = t.tokens (scan rest) := by
  obtain ⟨hbefore, hafter⟩ := hs
  rw [List.append_assoc, List.append_assoc, hbefore.scan_append, h.scan_append _ (hafter.endsNumber_append hrest),
    hafter.scan_append]

/-! ### Values -/

/-- The tree of a word. -/
theorem hasTree_word {atom : Atom} {s : List Char} (h : SpellsWord atom s) : HasTree s (.atom ⟨.ok atom, .ok ()⟩) :=
  ⟨trivial, fun rest _ => by rw [scan_word h, Tree.tokens]⟩

private theorem hasTree_number {f : Figure} {s : List Char} (h : SpellsFigure f s) :
    HasTree s (.atom ⟨f.atom, .ok ()⟩) :=
  ⟨trivial, fun rest hrest => by rw [scan_number h hrest, Tree.tokens]⟩

private theorem hasTree_body {body : List Char} (h : IsBody body) :
    HasTree ('"' :: (body ++ ['"'])) (.text (bodyLexeme body)) := by
  refine ⟨trivial, fun rest _ => ?_⟩
  rw [List.cons_append, List.append_assoc, List.singleton_append, h.scan_append, Tree.tokens]

/-- The tree of a quoted text. -/
theorem hasTree_quoted {content : String} {s : List Char} (h : QuotedText content s) :
    HasTree s (.text ⟨.ok content, .ok ()⟩) := by
  obtain ⟨hbody⟩ := h
  rw [← hbody.bodyLexeme_eq]
  exact hasTree_body hbody.isBody

/-- Pieces that stand between commas are divided into tokens one after the other. -/
private theorem Separated.scan_append {α β : Type} {piece : α → List Char → Prop} {node : α → β}
    {tokensOf : List β → List Token → List Token} (one : β → List Token → List Token) {closing : Char}
    (hlast : ∀ b rest, tokensOf [b] rest = one b (.mark closing :: rest))
    (hcons : ∀ b next more rest, tokensOf (b :: next :: more) rest = one b (.mark ',' :: tokensOf (next :: more) rest))
    (hclosing : closing ∈ [']', '\x7d']) {as : List α} {s : List Char} (hs : Separated piece as s)
    (hpieces : ∀ a ∈ as, ∀ s, piece a s → ∀ rest, EndsNumber rest → scan (s ++ rest) = one (node a) (scan rest))
    (rest : List Char) : scan (s ++ closing :: rest) = tokensOf (as.map node) (scan rest) := by
  simp only [List.mem_cons, List.not_mem_nil, or_false] at hclosing
  have hends (c : Char) (hc : c = ',' ∨ c = closing) (rest : List Char) : EndsNumber (c :: rest) := by
    rintro _ ⟨⟩
    rcases hc with rfl | rfl
    · decide
    · rcases hclosing with rfl | rfl <;> decide
  have hmark : closing ∈ ['[', ']', '\x7b', '\x7d', ',', ':'] := by
    rcases hclosing with rfl | rfl <;> decide
  induction hs with
  | last h =>
    rw [hpieces _ List.mem_cons_self _ h _ (hends _ (Or.inr rfl) rest), scan_mark hmark, List.map_singleton, hlast]
  | @cons a more s t h ht ih =>
    have ih := ih fun b hb => hpieces b (List.mem_cons_of_mem _ hb)
    obtain ⟨next, others, rfl⟩ : ∃ next others, more = next :: others := by
      cases ht <;> exact ⟨_, _, rfl⟩
    rw [List.append_assoc, List.cons_append, hpieces _ List.mem_cons_self _ h _ (hends _ (Or.inl rfl) _),
      scan_mark (by decide), ih]
    simp only [List.map_cons, hcons]

/-- The tree of a list is made of the trees of its items. -/
theorem hasTree_list {items : List (List Char)} {s : List Char} (h : ListText items s)
    (hitems : ∀ item ∈ items, HasTree item (textTree item)) : HasTree s (.list (items.map textTree)) := by
  refine ⟨itemsWhole_iff.2 fun t ht => ?_, fun rest _ => ?_⟩
  · obtain ⟨item, hitem, rfl⟩ := List.mem_map.1 ht
    exact (hitems item hitem).whole
  · rw [Tree.tokens]
    cases h with
    | nil hspaces =>
      rw [List.cons_append, List.append_assoc, scan_mark (by decide), hspaces.scan_append, List.singleton_append,
        scan_mark (by decide), List.map_nil, itemTokens]
    | cons h =>
      rw [List.cons_append, List.append_assoc, scan_mark (by decide), List.singleton_append]
      refine congrArg _ (h.scan_append Tree.tokens (fun b rest => by rw [itemTokens])
        (fun b next more rest => by rw [itemTokens]; rintro ⟨⟩) (by decide) (fun item hitem s hs rest hrest => ?_) rest)
      exact (hitems item hitem).scan_spaced hs hrest

private theorem membersWhole_iff {members : List (Lexeme String × Tree)} :
    MembersWhole members ↔ ∀ member ∈ members, member.2.IsWhole := by
  induction members with
  | nil => simp [MembersWhole]
  | cons member more ih => rw [MembersWhole, ih, List.forall_mem_cons]

/-- The tree of an object is made of its keys and the trees of its values. -/
private theorem hasTree_members {α : Type} {piece : α → List Char → Prop} {node : α → Lexeme String × Tree}
    {members : List α} {s : List Char} (h : Bracketed '\x7b' '\x7d' piece members s)
    (hwhole : ∀ member ∈ members, (node member).2.IsWhole)
    (hpieces : ∀ member ∈ members, ∀ s, piece member s → ∃ body value,
      MemberText body value s ∧ IsBody body ∧ bodyLexeme body = (node member).1 ∧ HasTree value (node member).2) :
    HasTree s (.object (members.map node)) := by
  refine ⟨membersWhole_iff.2 fun t ht => ?_, fun rest _ => ?_⟩
  · obtain ⟨member, hmember, rfl⟩ := List.mem_map.1 ht
    exact hwhole member hmember
  · rw [Tree.tokens]
    cases h with
    | nil hspaces =>
      rw [List.cons_append, List.append_assoc, scan_mark (by decide), hspaces.scan_append, List.singleton_append,
        scan_mark (by decide), List.map_nil, memberTokens]
    | cons h =>
      rw [List.cons_append, List.append_assoc, scan_mark (by decide), List.singleton_append]
      refine congrArg _ (h.scan_append (fun b rest => .text b.1 :: .mark ':' :: b.2.tokens rest)
        (fun b rest => by rw [memberTokens]) (fun b next more rest => by rw [memberTokens]; rintro ⟨⟩) (by decide)
        (fun member hmember s hs rest hrest => ?_) rest)
      obtain ⟨body, value, ⟨hbefore, hbehind, hspaced⟩, hbody, hkey, hvalue⟩ := hpieces member hmember s hs
      simp only [List.append_assoc, List.cons_append]
      rw [hbefore.scan_append, hbody.scan_append, hbehind.scan_append, scan_mark (by decide),
        hvalue.scan_spaced hspaced hrest, hkey]

/-- The tree of an object whose keys are known contents. -/
theorem hasTree_object {members : List (String × List Char)} {s : List Char} (h : ObjectText members s)
    (hvalues : ∀ member ∈ members, HasTree member.2 (textTree member.2)) :
    HasTree s (.object (members.map fun member => (⟨.ok member.1, .ok ()⟩, textTree member.2))) := by
  refine hasTree_members h (fun member hmember => (hvalues member hmember).whole) ?_
  rintro member hmember s ⟨body, hbody, hs⟩
  exact ⟨body, member.2, hs, hbody.isBody, hbody.bodyLexeme_eq, hvalues member hmember⟩

/-- A member of an object with its key and the tree of its value. -/
def keyedTree (member : List Char × List Char) : Lexeme String × Tree :=
  (bodyLexeme member.1, textTree member.2)

/-- The tree of an object whose keys may have no content. -/
theorem hasTree_keyed {members : List (List Char × List Char)} {s : List Char} (h : KeyedText members s)
    (hkeys : ∀ member ∈ members, IsBody member.1)
    (hvalues : ∀ member ∈ members, HasTree member.2 (textTree member.2)) :
    HasTree s (.object (members.map keyedTree)) :=
  hasTree_members h (fun member hmember => (hvalues member hmember).whole) fun member hmember _ hs =>
    ⟨member.1, member.2, hs, hkeys member hmember, rfl, hvalues member hmember⟩

private theorem skipItems_eq_ok {items : List Tree} (h : ∀ t ∈ items, t.skip = .ok ()) : skipItems items = .ok () := by
  induction items with
  | nil => rw [skipItems]
  | cons t more ih =>
    obtain ⟨ht, hmore⟩ := List.forall_mem_cons.1 h
    rw [skipItems, ht]
    exact ih hmore

private theorem skipMembers_eq_ok {members : List (Lexeme String × Tree)}
    (h : ∀ member ∈ members, member.1.skipped = .ok () ∧ member.2.skip = .ok ()) : skipMembers members = .ok () := by
  induction members with
  | nil => rw [skipMembers]
  | cons member more ih =>
    obtain ⟨⟨hkey, hvalue⟩, hmore⟩ := List.forall_mem_cons.1 h
    rw [skipMembers, hkey]
    dsimp only
    rw [hvalue]
    exact ih hmore

/-- Every value has a tree, and can be passed over. -/
private theorem IsValue.exists_tree {s : List Char} (h : IsValue s) : ∃ t, HasTree s t ∧ t.skip = .ok () := by
  induction h with
  | word h =>
    simp only [List.mem_cons, List.not_mem_nil, or_false] at h
    rcases h with rfl | rfl | rfl
    · exact ⟨_, hasTree_word .null, by rw [Tree.skip]⟩
    · exact ⟨_, hasTree_word .true, by rw [Tree.skip]⟩
    · exact ⟨_, hasTree_word .false, by rw [Tree.skip]⟩
  | number h => exact ⟨_, hasTree_number h, by rw [Tree.skip]⟩
  | text h => exact ⟨_, hasTree_body h, by rw [Tree.skip]; rfl⟩
  | @list items s h _ ih =>
    have hitems (item : List Char) (hitem : item ∈ items) :
        HasTree item (textTree item) ∧ (textTree item).skip = .ok () := by
      obtain ⟨t, ht, hskip⟩ := ih item hitem
      exact ⟨ht.self, by rwa [ht.textTree_eq]⟩
    refine ⟨_, hasTree_list h fun item hitem => (hitems item hitem).1, ?_⟩
    rw [Tree.skip]
    refine skipItems_eq_ok fun t ht => ?_
    obtain ⟨item, hitem, rfl⟩ := List.mem_map.1 ht
    exact (hitems item hitem).2
  | @object members s h hkeys _ ih =>
    have hvalues (member : List Char × List Char) (hmember : member ∈ members) :
        HasTree member.2 (textTree member.2) ∧ (textTree member.2).skip = .ok () := by
      obtain ⟨t, ht, hskip⟩ := ih member hmember
      exact ⟨ht.self, by rwa [ht.textTree_eq]⟩
    refine ⟨_, hasTree_keyed h hkeys fun member hmember => (hvalues member hmember).1, ?_⟩
    rw [Tree.skip]
    refine skipMembers_eq_ok fun t ht => ?_
    obtain ⟨member, hmember, rfl⟩ := List.mem_map.1 ht
    exact ⟨rfl, (hvalues member hmember).2⟩

/-- Every value has the tree that is read from it. -/
theorem IsValue.hasTree {s : List Char} (h : IsValue s) : HasTree s (textTree s) := by
  obtain ⟨t, ht, -⟩ := h.exists_tree
  exact ht.self

/-- Every value can be passed over. -/
theorem IsValue.skip_textTree {s : List Char} (h : IsValue s) : (textTree s).skip = .ok () := by
  obtain ⟨t, ht, hskip⟩ := h.exists_tree
  rwa [ht.textTree_eq]

/-! ### Readers -/

/-- A document is read as the tree of its value is. -/
theorem HasTree.ofText_eq {α : Type} {reader : Reader α} {value : List Char} {t : Tree} (h : HasTree value t)
    {text : String} (htext : SpacedText value text.toList) : ofText reader text = reader t := by
  have hscan := h.scan_spaced htext (show EndsNumber [] from nofun)
  rw [List.append_nil, show scan [] = [] by rw [scan]] at hscan
  have hdocument : Document.ofText text = ⟨t, false⟩ := by
    unfold Document.ofText
    rw [hscan, read_tokens t h.whole, read]
    rfl
  unfold ofText
  rw [hdocument]
  dsimp only
  cases reader t <;> rfl

/-- Whether the text of a value is read as `a`, wherever it stands. -/
structure Reads {α : Type} (reader : Reader α) (s : List Char) (a : α) : Prop where
  hasTree : HasTree s (textTree s)
  read_eq : reader (textTree s) = .ok a

section

variable {α : Type} {reader : Reader α} {s : List Char}

/-- The text of a value is read as its tree is. -/
theorem HasTree.reads {t : Tree} (h : HasTree s t) {a : α} (hread : reader t = .ok a) : Reads reader s a :=
  ⟨h.self, by rwa [h.textTree_eq]⟩

/-- What the text of a value is read as, a document with this value is read as. -/
theorem Reads.ofText_eq {a : α} (h : Reads reader s a) {text : String} (htext : SpacedText s text.toList) :
    ofText reader text = .ok a :=
  (h.hasTree.ofText_eq htext).trans h.read_eq

/-- A quoted text is read as its content. -/
theorem reads_quoted {content : String} (h : QuotedText content s) (expected : String) :
    Reads (readTextAs expected) s content :=
  (hasTree_quoted h).reads rfl

/-- The text of an integer has the tree with which the integer is written. -/
theorem hasTree_integer {n : Int} (h : IntegerText n s) : HasTree s (tree (.integer n)) := by
  subst h
  rw [tree]
  exact hasTree_number (spellsFigure_toString n)

/-- A list is read if each of its items is. -/
theorem reads_list {items : List (List Char)} {as : List α} (h : ListText items s)
    (hitems : List.Forall₂ (fun a item => Reads reader item a) as items) : Reads (readList reader) s as := by
  have htrees : ∀ item ∈ items, HasTree item (textTree item) := by
    clear h
    induction hitems with
    | nil => nofun
    | cons hitem _ ih => exact List.forall_mem_cons.2 ⟨hitem.hasTree, ih⟩
  refine (hasTree_list h htrees).reads ?_
  show (items.map textTree).mapM reader = .ok as
  clear h htrees
  induction hitems with
  | nil => rfl
  | cons hitem _ ih =>
    rw [List.map_cons, List.mapM_cons, hitem.read_eq, ih]
    rfl

end

end KeyedFlow.Json
