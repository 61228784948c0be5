import KeyedFlow.Json.Tree
import KeyedFlow.Proofs.TokenSpelling

/-!
# Whole trees

A tree in which reading has stopped nowhere is whole (`Json.Tree.IsWhole`).  From the tokens of a whole tree that tree
is read (`Json.read_tokens`), so every text that spells these tokens is a document of it (`Json.ofText_of_spells`).
-/

namespace KeyedFlow.Json

mutual

/-- The tokens of a whole tree, in front of those that follow. -/
def Tree.tokens (t : Tree) (rest : List Token) : List Token :=
  match t with
  | .atom lexeme => .atom lexeme :: rest
  | .text lexeme => .text lexeme :: rest
  | .list items => .mark '[' :: itemTokens items rest
  | .object members => .mark '\x7b' :: memberTokens members rest
  | .stop _ _ => rest

/-- The tokens of the items of a list and its closing bracket. -/
def itemTokens (items : List Tree) (rest : List Token) : List Token :=
  match items with
  | [] => .mark ']' :: rest
  | [t] => t.tokens (.mark ']' :: rest)
  | t :: more => t.tokens (.mark ',' :: itemTokens more rest)

/-- The tokens of the members of an object and its closing brace. -/
def memberTokens (members : List (Lexeme String × Tree)) (rest : List Token) : List Token :=
  match members with
  | [] => .mark '\x7d' :: rest
  | [(key, t)] => .text key :: .mark ':' :: t.tokens (.mark '\x7d' :: rest)
  | (key, t) :: more => .text key :: .mark ':' :: t.tokens (.mark ',' :: memberTokens more rest)

end

mutual

/-- Whether reading has stopped nowhere in a tree. -/
def Tree.IsWhole : Tree → Prop
  | .atom _ => True
  | .text _ => True
  | .list items => ItemsWhole items
  | .object members => MembersWhole members
  | .stop _ _ => False

/-- Whether reading has stopped nowhere in some items. -/
def ItemsWhole : List Tree → Prop
  | [] => True
  | t :: more => t.IsWhole ∧ ItemsWhole more

/-- Whether reading has stopped nowhere in the values of some members. -/
def MembersWhole : List (Lexeme String × Tree) → Prop
  | [] => True
  | (_, t) :: more => t.IsWhole ∧ MembersWhole more

end

theorem itemsWhole_iff {items : List Tree} : ItemsWhole items ↔ ∀ t ∈ items, t.IsWhole := by
  induction items with
  | nil => simp [ItemsWhole]
  | cons t more ih => rw [ItemsWhole, ih, List.forall_mem_cons]

/-- The first token of a whole tree closes no list. -/
private theorem Tree.IsWhole.exists_first {t : Tree} (h : t.IsWhole) (rest : List Token) :
    ∃ first more, t.tokens rest = first :: more ∧ first ≠ .mark ']' := by
  cases t with
  | atom lexeme => exact ⟨.atom lexeme, rest, by rw [Tree.tokens], nofun⟩
  | text lexeme => exact ⟨.text lexeme, rest, by rw [Tree.tokens], nofun⟩
  | list items => exact ⟨.mark '[', itemTokens items rest, by rw [Tree.tokens], by rintro ⟨⟩⟩
  | object members => exact ⟨.mark '\x7b', memberTokens members rest, by rw [Tree.tokens], by rintro ⟨⟩⟩
  | stop => exact absurd h id

private theorem exists_itemTokens_cons (t : Tree) (more : List Tree) (rest : List Token) :
    ∃ behind, itemTokens (t :: more) rest = t.tokens behind := by
  cases more with
  | nil => exact ⟨_, by rw [itemTokens]⟩
  | cons => exact ⟨_, by rw [itemTokens]; nofun⟩

private theorem memberTokens_cons (key : Lexeme String) (t : Tree) (more : List (Lexeme String × Tree))
    (rest : List Token) :
    memberTokens ((key, t) :: more) rest = .text key :: (memberTokens ((key, t) :: more) rest).tail := by
  cases more with
  | nil => rw [memberTokens, List.tail_cons]
  | cons => rw [memberTokens, List.tail_cons]; nofun

/-- A value behind an opening bracket is the first item of a list. -/
private theorem read_list {t : Tree} (h : t.IsWhole) (outer : List Frame) (rest : List Token) :
    read .value outer (.mark '[' :: t.tokens rest) = read .value (.list [] :: outer) (t.tokens rest) := by
  obtain ⟨first, more, htokens, hfirst⟩ := h.exists_first rest
  rw [htokens, read]
  · nofun
  · rintro rest ⟨⟩
    exact hfirst rfl

/-- A value behind a comma is the next item of a list. -/
private theorem read_nextItem {t : Tree} (h : t.IsWhole) (last : Tree) (before : List Tree) (outer : List Frame)
    (rest : List Token) :
    read (.after last) (.list before :: outer) (.mark ',' :: t.tokens rest) =
      read .value (.list (last :: before) :: outer) (t.tokens rest) := by
  obtain ⟨first, more, htokens, hfirst⟩ := h.exists_first rest
  rw [htokens]
  generalize hnext : read .value (.list (last :: before) :: outer) (first :: more) = next
  rw [read, hnext]
  · rintro rest ⟨⟩
    exact hfirst rfl

mutual

/-- From the tokens of a whole tree that tree is read, wherever it stands. -/
theorem read_tokens (t : Tree) (h : t.IsWhole) (outer : List Frame) (rest : List Token) :
    read .value outer (t.tokens rest) = read (.after t) outer rest := by
  match t with
  | .atom lexeme => rw [Tree.tokens, read]
  | .text lexeme => rw [Tree.tokens, read]
  | .list [] => rw [Tree.tokens, itemTokens, read]
  | .list (t :: more) =>
    -- the first item is read inside a list that has nothing before it yet
    obtain ⟨behind, hbehind⟩ := exists_itemTokens_cons t more rest
    have hlist := read_list h.1 outer behind
    rw [Tree.tokens, hbehind, hlist, ← hbehind]
    exact read_itemTokens (t :: more) t more rfl h [] outer rest
  | .object [] => rw [Tree.tokens, memberTokens, read]
  | .object ((key, t) :: more) =>
    have hmembers := read_memberTokens ((key, t) :: more) key t more rfl h [] outer rest
    rw [Tree.tokens, memberTokens_cons, read]
    exact hmembers

/-- The items of a list are read one after the other. -/
private theorem read_itemTokens (items : List Tree) (t : Tree) (more : List Tree) (hitems : items = t :: more)
    (h : ItemsWhole items) (before : List Tree) (outer : List Frame) (rest : List Token) :
    read .value (.list before :: outer) (itemTokens items rest) =
      read (.after (.list (before.reverse ++ items))) outer rest := by
  match items with
  | [] => cases hitems
  | [t] => rw [itemTokens, read_tokens t h.1, read, List.reverse_cons]
  | t :: next :: more =>
    obtain ⟨behind, hbehind⟩ := exists_itemTokens_cons next more rest
    rw [itemTokens, read_tokens t h.1, hbehind, read_nextItem h.2.1, ← hbehind,
      read_itemTokens (next :: more) next more rfl h.2, List.reverse_cons, List.append_assoc]
    · rfl
    · nofun

/-- The members of an object are read one after the other. -/
private theorem read_memberTokens (members : List (Lexeme String × Tree)) (key : Lexeme String) (t : Tree)
    (more : List (Lexeme String × Tree)) (hmembers : members = (key, t) :: more) (h : MembersWhole members)
    (before : List (Lexeme String × Tree)) (outer : List Frame) (rest : List Token) :
    read (.colon before key) outer (memberTokens members rest).tail =
      read (.after (.object (before.reverse ++ members))) outer rest := by
  match members with
  | [] => cases hmembers
  | [(key, t)] =>
    cases hmembers
    rw [memberTokens, List.tail_cons, read, read_tokens t h.1, read, List.reverse_cons]
  | (key, t) :: (next, u) :: more =>
    cases hmembers
    -- what has been read stands in reverse before what is still to be read
    have hrest := read_memberTokens ((next, u) :: more) next u more rfl h.2 ((key, t) :: before) outer rest
    rw [memberTokens, List.tail_cons, read, read_tokens t h.1, memberTokens_cons next u more, read, hrest,
      List.reverse_cons, List.append_assoc]
    · rfl
    · nofun

end

/-- A text that spells the tokens of a whole tree is a document of that tree, behind which nothing follows. -/
theorem ofText_of_spells {t : Tree} (h : t.IsWhole) {text : String} (hspells : Spells (t.tokens []) text.toList) :
    Document.ofText text = ⟨t, false⟩ := by
  unfold Document.ofText
  rw [scan_of_spells hspells, read_tokens t h, read]
  rfl

end KeyedFlow.Json
