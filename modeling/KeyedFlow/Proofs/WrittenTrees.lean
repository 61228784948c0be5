import KeyedFlow.Json.Reader
import KeyedFlow.Json.Writer
import KeyedFlow.Proofs.WholeTrees
import Mathlib

/-!
# The trees of written values

What is written for a value is, in one line or over several, a spelling of the same tokens, which are those of a tree
(`Json.tree`).  So the value is found in its text as that tree (`Json.ofText_compact`, `Json.ofText_indented`).
Integers are written exactly.  Decimals are not looked into: there is no tree for a value with a decimal in it.
-/

namespace KeyedFlow.Json

/-! ### Texts -/

private theorem spellsChar_control {c : Char} (h : c.toNat < 0x20) :
    SpellsChar c ('\\' :: 'u' :: Text.hexPadded 4 c.toNat) := by
  have hquads : ∀ n < 0x20, ∃ x₁ x₂ x₃ x₄, Text.hexPadded 4 n = [x₁, x₂, x₃, x₄] ∧
      hexQuad? x₁ x₂ x₃ x₄ = some n := by
    intro n hn
    interval_cases n <;> exact ⟨_, _, _, _, rfl, rfl⟩
  obtain ⟨x₁, x₂, x₃, x₄, hdigits, hquad⟩ := hquads c.toNat h
  rw [hdigits]
  exact .number hquad

/-- What is written for a character is one of its spellings. -/
private theorem spellsChar_escapedChar (c : Char) : SpellsChar c (escapedChar c) := by
  unfold escapedChar
  split_ifs with h₁ h₂ h₃ h₄ h₅ h₆ h₇ h₈
  · subst h₁
    exact .letter rfl
  · subst h₂
    exact .letter rfl
  · subst h₃
    exact .letter rfl
  · subst h₄
    exact .letter rfl
  · subst h₅
    exact .letter rfl
  · subst h₆
    exact .letter rfl
  · subst h₇
    exact .letter rfl
  · exact spellsChar_control h₈
  · exact .plain (Nat.not_lt.1 h₈) h₁ h₂

private theorem spellsText_flatMap (content : List Char) : SpellsText content (content.flatMap escapedChar) := by
  induction content with
  | nil => exact .nil
  | cons c rest ih => exact .cons (spellsChar_escapedChar c) ih

/-! ### Integers -/

/-- An integer as it is written. -/
def Figure.ofInt (n : Int) : Figure :=
  ⟨n < 0, Nat.toDigits 10 n.natAbs, [], none⟩

private theorem isDigits_toDigits (n : Nat) : IsDigits (Nat.toDigits 10 n) :=
  ⟨Nat.toDigits_ne_nil, fun _ hc => Nat.isDigit_of_mem_toDigits (by decide) (by decide) hc⟩

private theorem head?_toDigits {n : Nat} (h : 0 < n) : (Nat.toDigits 10 n).head? ≠ some '0' := by
  induction n using Nat.strongRecOn with
  | ind n ih =>
    by_cases hn : n < 10
    · rw [Nat.toDigits_of_lt_base hn]
      interval_cases n <;> decide
    · rw [Nat.toDigits_of_base_le (by decide) (by omega), List.head?_append_of_ne_nil _ Nat.toDigits_ne_nil]
      exact ih (n / 10) (by omega) (by omega)

private theorem toList_toString (n : Int) :
    (toString n).toList = (if n < 0 then ['-'] else []) ++ Nat.toDigits 10 n.natAbs := by
  show n.repr.toList = _
  rw [Int.repr_eq_if]
  by_cases hn : n < 0
  · rw [if_neg (by omega), if_pos hn, String.toList_append, Nat.toList_repr, show (-n).toNat = n.natAbs by omega]
    rfl
  · rw [if_pos (by omega), if_neg hn, Nat.toList_repr, show n.toNat = n.natAbs by omega]
    rfl

/-- An integer is written as a spelling of its figure. -/
theorem spellsFigure_toString (n : Int) : SpellsFigure (.ofInt n) (toString n).toList := by
  have hzero : (Nat.toDigits 10 n.natAbs).head? = some '0' → (Nat.toDigits 10 n.natAbs).length = 1 := by
    intro hhead
    by_cases hn : n.natAbs = 0
    · rw [hn]
      rfl
    · exact absurd hhead (head?_toDigits (by omega))
  have h := SpellsFigure.mk (n < 0) (isDigits_toDigits n.natAbs) hzero .absent .absent
  rw [List.append_nil, List.append_nil] at h
  rw [toList_toString]
  simp only [decide_eq_true_eq] at h
  exact h

private theorem digitsValue_toDigits (n : Nat) : digitsValue (Nat.toDigits 10 n) = n := by
  have h : digitsValue (Nat.toDigits 10 n) = Nat.ofDigitChars 10 (Nat.toDigits 10 n) 0 := by
    unfold digitsValue
    rw [Nat.ofDigitChars_eq_foldl]
    simp only [Nat.mul_comm]
  rw [h, Nat.ofDigitChars_ten_toDigits]

/-- The value of the figure of an integer. -/
theorem wholeValue_ofInt (n : Int) : (Figure.ofInt n).wholeValue = n := by
  unfold Figure.wholeValue Figure.ofInt
  dsimp only
  rw [digitsValue_toDigits]
  by_cases hn : n < 0
  · rw [if_pos (decide_eq_true hn)]
    omega
  · rw [if_neg (by simpa using hn)]
    omega

/-- An integer of 64 bits, signed or unsigned, is read as it has been written. -/
theorem atom_ofInt {n : Int} (h : IntegerRange.signed64.contains n ∨ IntegerRange.unsigned64.contains n) :
    (Figure.ofInt n).atom = .ok (.integer n) := by
  have hzero : ((Figure.ofInt n).negative && n == 0) = false := by
    unfold Figure.ofInt
    by_cases hn : n = 0
    · subst hn
      rfl
    · simp [hn]
  have hinteger : (Figure.ofInt n).isInteger = true := by
    unfold Figure.isInteger
    rw [wholeValue_ofInt, hzero, Bool.or_eq_true_iff.2 h]
    rfl
  unfold Figure.atom
  rw [if_pos hinteger, wholeValue_ofInt]

/-! ### Values -/

mutual

/-- The tree of a value.  It is not whole where there is a decimal. -/
def tree : Json → Tree
  | .null => .atom ⟨.ok .null, .ok ()⟩
  | .bool b => .atom ⟨.ok (.bool b), .ok ()⟩
  | .integer n => .atom ⟨(Figure.ofInt n).atom, .ok ()⟩
  | .decimal _ => .stop .noValue .noValue
  | .text s => .text ⟨.ok s, .ok ()⟩
  | .list items => .list (trees items)
  | .object members => .object (memberTrees members)

/-- The trees of some items. -/
def trees : List Json → List Tree
  | [] => []
  | v :: more => v.tree :: trees more

/-- The keys of some members, with the trees of their values. -/
def memberTrees : List (String × Json) → List (Lexeme String × Tree)
  | [] => []
  | (key, v) :: more => (⟨.ok key, .ok ()⟩, v.tree) :: memberTrees more

end

theorem trees_eq_map (items : List Json) : trees items = items.map tree := by
  induction items with
  | nil => rw [trees, List.map_nil]
  | cons v more ih => rw [trees, ih, List.map_cons]

/-- Whether some characters spell tokens, and may stand behind a value. -/
structure SpellsBehind (tokens : List Token) (rest : List Char) : Prop where
  ends : EndsNumber rest
  spells : Spells tokens rest

private theorem SpellsBehind.nil : SpellsBehind [] [] :=
  ⟨nofun, .nil⟩

private theorem SpellsBehind.mark (c : Char) (hc : c ∈ [',', ']', '\x7d']) {tokens : List Token} {rest : List Char}
    (h : Spells tokens rest) : SpellsBehind (.mark c :: tokens) (c :: rest) := by
  simp only [List.mem_cons, List.not_mem_nil, or_false] at hc
  refine ⟨?_, .mark c ?_ h⟩
  · rintro c ⟨⟩
    rcases hc with rfl | rfl | rfl <;> decide
  · rcases hc with rfl | rfl | rfl <;> decide

private theorem Spells.writeText {tokens : List Token} {rest : List Char} (h : Spells tokens rest) (s : String) :
    Spells (.text ⟨.ok s, .ok ()⟩ :: tokens) (writeText s rest) := by
  have htext := Spells.text (spellsText_flatMap s.toList) h
  rw [String.ofList_toList] at htext
  exact htext

/-- A key in front of its value. -/
private theorem Spells.member {tokens : List Token} {rest : List Char} (h : Spells tokens rest) (key : String) :
    Spells (.text ⟨.ok key, .ok ()⟩ :: .mark ':' :: tokens) (Json.writeText key (':' :: rest)) :=
  (Spells.mark ':' (by decide) h).writeText key

private theorem SpellsBehind.writeScalar {v : Json} (hv : v.tree.IsWhole)
    (hscalar : (∀ items, v ≠ .list items) ∧ ∀ members, v ≠ .object members) {tokens : List Token} {rest : List Char}
    (h : SpellsBehind tokens rest) : Spells (v.tree.tokens tokens) (v.writeScalar rest) := by
  cases v with
  | null =>
    rw [tree, Tree.tokens]
    exact .word .null h.spells
  | bool b =>
    rw [tree, Tree.tokens]
    cases b with
    | true => exact .word .true h.spells
    | false => exact .word .false h.spells
  | integer n =>
    rw [tree, Tree.tokens]
    exact .number (spellsFigure_toString n) h.ends h.spells
  | decimal =>
    rw [tree] at hv
    cases hv
  | text s =>
    rw [tree, Tree.tokens]
    exact h.spells.writeText s
  | list items => exact absurd rfl (hscalar.1 items)
  | object members => exact absurd rfl (hscalar.2 members)

/-! ### One line -/

mutual

/-- What is written for a value in one line spells the tokens of its tree. -/
private theorem spells_write (v : Json) (hv : v.tree.IsWhole) {tokens : List Token} {rest : List Char}
    (h : SpellsBehind tokens rest) : Spells (v.tree.tokens tokens) (v.write rest) := by
  match v with
  | .list items =>
    rw [tree, Tree.tokens, write]
    rw [tree] at hv
    exact .mark '[' (by decide) (spells_writeItems items hv h.spells)
  | .object members =>
    rw [tree, Tree.tokens, write]
    rw [tree] at hv
    exact .mark '\x7b' (by decide) (spells_writeMembers members hv h.spells)
  | .null | .bool b | .integer n | .decimal d | .text s =>
    rw [write]
    · exact h.writeScalar hv ⟨nofun, nofun⟩
    · nofun
    · nofun

private theorem spells_writeItems (items : List Json) (hitems : ItemsWhole (trees items)) {tokens : List Token}
    {rest : List Char} (h : Spells tokens rest) : Spells (itemTokens (trees items) tokens) (writeItems items rest) := by
  match items with
  | [] =>
    rw [trees, itemTokens, writeItems]
    exact .mark ']' (by decide) h
  | [v] =>
    rw [trees, trees] at hitems ⊢
    rw [itemTokens, writeItems]
    exact spells_write v hitems.1 (.mark ']' (by decide) h)
  | v :: next :: more =>
    have hrest := spells_writeItems (next :: more) hitems.2 h
    rw [trees] at hitems ⊢
    rw [itemTokens, writeItems]
    · exact spells_write v hitems.1 (.mark ',' (by decide) hrest)
    · nofun
    · rw [trees]
      nofun

private theorem spells_writeMembers (members : List (String × Json)) (hmembers : MembersWhole (memberTrees members))
    {tokens : List Token} {rest : List Char} (h : Spells tokens rest) :
    Spells (memberTokens (memberTrees members) tokens) (writeMembers members rest) := by
  match members with
  | [] =>
    rw [memberTrees, memberTokens, writeMembers]
    exact .mark '\x7d' (by decide) h
  | [(key, v)] =>
    rw [memberTrees, memberTrees] at hmembers ⊢
    rw [memberTokens, writeMembers]
    exact (spells_write v hmembers.1 (.mark '\x7d' (by decide) h)).member key
  | (key, v) :: next :: more =>
    have hrest := spells_writeMembers (next :: more) hmembers.2 h
    rw [memberTrees] at hmembers ⊢
    rw [memberTokens, writeMembers]
    · exact (spells_write v hmembers.1 (.mark ',' (by decide) hrest)).member key
    · nofun
    · rw [memberTrees]
      nofun

end

/-! ### Several lines -/

private theorem SpellsBehind.newline {tokens : List Token} {rest : List Char} (h : Spells tokens rest) (depth : Nat) :
    SpellsBehind tokens (newline depth rest) := by
  refine ⟨?_, .space (by decide) ?_⟩
  · rintro c ⟨⟩
    decide
  · induction 2 * depth with
    | zero => exact h
    | succ n ih => exact .space (by decide) ih

private theorem Spells.newline {tokens : List Token} {rest : List Char} (h : Spells tokens rest) (depth : Nat) :
    Spells tokens (newline depth rest) :=
  (SpellsBehind.newline h depth).spells

mutual

/-- What is written for a value over several lines spells the tokens of its tree. -/
private theorem spells_writeIndented (depth : Nat) (v : Json) (hv : v.tree.IsWhole) {tokens : List Token}
    {rest : List Char} (h : SpellsBehind tokens rest) : Spells (v.tree.tokens tokens) (v.writeIndented depth rest) := by
  match v with
  | .list [] =>
    rw [tree, Tree.tokens, writeIndented]
    exact .mark '[' (by decide) (.mark ']' (by decide) h.spells)
  | .list (v :: more) =>
    rw [tree, Tree.tokens, writeIndented]
    rw [tree] at hv
    · exact .mark '[' (by decide) (spells_writeIndentedItems depth (v :: more) hv h.spells)
    · nofun
  | .object [] =>
    rw [tree, Tree.tokens, writeIndented]
    exact .mark '\x7b' (by decide) (.mark '\x7d' (by decide) h.spells)
  | .object (member :: more) =>
    rw [tree, Tree.tokens, writeIndented]
    rw [tree] at hv
    · exact .mark '\x7b' (by decide) (spells_writeIndentedMembers depth (member :: more) hv h.spells)
    · nofun
  | .null | .bool b | .integer n | .decimal d | .text s =>
    rw [writeIndented]
    · exact h.writeScalar hv ⟨nofun, nofun⟩
    all_goals nofun

private theorem spells_writeIndentedItems (depth : Nat) (items : List Json) (hitems : ItemsWhole (trees items))
    {tokens : List Token} {rest : List Char} (h : Spells tokens rest) :
    Spells (itemTokens (trees items) tokens) (writeIndentedItems depth items rest) := by
  match items with
  | [] =>
    rw [trees, itemTokens, writeIndentedItems]
    exact (Spells.mark ']' (by decide) h).newline depth
  | [v] =>
    rw [trees, trees] at hitems ⊢
    rw [itemTokens, writeIndentedItems]
    have hclose := SpellsBehind.newline (.mark ']' (by decide) h) depth
    exact (spells_writeIndented (depth + 1) v hitems.1 hclose).newline (depth + 1)
  | v :: next :: more =>
    have hrest := spells_writeIndentedItems depth (next :: more) hitems.2 h
    rw [trees] at hitems ⊢
    rw [itemTokens, writeIndentedItems]
    · exact (spells_writeIndented (depth + 1) v hitems.1 (.mark ',' (by decide) hrest)).newline (depth + 1)
    · nofun
    · rw [trees]
      nofun

private theorem spells_writeIndentedMembers (depth : Nat) (members : List (String × Json))
    (hmembers : MembersWhole (memberTrees members)) {tokens : List Token} {rest : List Char} (h : Spells tokens rest) :
    Spells (memberTokens (memberTrees members) tokens) (writeIndentedMembers depth members rest) := by
  match members with
  | [] =>
    rw [memberTrees, memberTokens, writeIndentedMembers]
    exact (Spells.mark '\x7d' (by decide) h).newline depth
  | [(key, v)] =>
    rw [memberTrees, memberTrees] at hmembers ⊢
    rw [memberTokens, writeIndentedMembers]
    have hclose := SpellsBehind.newline (.mark '\x7d' (by decide) h) depth
    have hvalue := spells_writeIndented (depth + 1) v hmembers.1 hclose
    exact ((Spells.space (by decide) hvalue).member key).newline (depth + 1)
  | (key, v) :: next :: more =>
    have hrest := spells_writeIndentedMembers depth (next :: more) hmembers.2 h
    rw [memberTrees] at hmembers ⊢
    rw [memberTokens, writeIndentedMembers]
    · have hvalue := spells_writeIndented (depth + 1) v hmembers.1 (.mark ',' (by decide) hrest)
      exact ((Spells.space (by decide) hvalue).member key).newline (depth + 1)
    · nofun
    · rw [memberTrees]
      nofun

end

/-! ### Documents -/

/-- A value is read from its compact text as its tree. -/
theorem ofText_compact {v : Json} (h : v.tree.IsWhole) : Document.ofText v.compact = ⟨v.tree, false⟩ := by
  refine ofText_of_spells h ?_
  unfold compact
  rw [String.toList_ofList]
  exact spells_write v h .nil

/-- A value is read from its indented text as its tree. -/
theorem ofText_indented {v : Json} (h : v.tree.IsWhole) : Document.ofText v.indented = ⟨v.tree, false⟩ := by
  refine ofText_of_spells h ?_
  unfold indented
  rw [String.toList_ofList]
  exact spells_writeIndented 0 v h .nil

/-! ### Readers -/

/-- A list is read from the trees of its items if each of these can be read. -/
theorem readList_tree {α : Type} {reader : Reader α} {toJson : α → Json}
    (h : ∀ a, reader (toJson a).tree = .ok a) (as : List α) :
    readList reader (tree (.list (as.map toJson))) = .ok as := by
  rw [tree, trees_eq_map, List.map_map]
  show (as.map fun a => (toJson a).tree).mapM reader = _
  induction as with
  | nil => rfl
  | cons a more ih =>
    rw [List.map_cons, List.mapM_cons, h, ih]
    rfl

private theorem contains_toNat (n : UInt64) : IntegerRange.unsigned64.contains (n.toNat : Int) = true := by
  have hlt := n.toNat_lt
  rw [IntegerRange.contains_iff]
  show (0 : Int) ≤ n.toNat ∧ (n.toNat : Int) ≤ 0xFFFFFFFFFFFFFFFF
  omega

theorem tree_count (n : UInt64) : tree (.count n.toNat) = .atom ⟨.ok (.integer n.toNat), .ok ()⟩ := by
  rw [Json.count, tree, atom_ofInt (Or.inr (contains_toNat n))]

/-- A count is read as it is written. -/
theorem readCount_tree (n : UInt64) : readCount (tree (.count n.toNat)) = .ok n := by
  have hread : readIntegerAs "usize" .unsigned64 (tree (.count n.toNat)) = .ok (n.toNat : Int) := by
    rw [tree_count]
    exact if_pos (contains_toNat n)
  rw [readCount, hread]
  show Except.ok (UInt64.ofNat (n.toNat : Int).toNat) = _
  rw [Int.toNat_natCast, UInt64.ofNat_toNat]

/-- A member whose field is read leads to the next. -/
theorem readMembers_cons {δ : Type} {field : δ → String → Tree → Option (Except Fault δ)} {draft next : δ}
    {key : Lexeme String} {name : String} {t : Tree} (hkey : key.content = .ok name)
    (h : field draft name t = some (.ok next)) (rest : List (Lexeme String × Tree)) :
    readMembers field draft ((key, t) :: rest) = readMembers field next rest := by
  rw [readMembers, hkey]
  dsimp only
  rw [h]

/-- A text is read as a value if that is read from its document. -/
theorem ofText_eq {α : Type} {reader : Reader α} {text : String} {t : Tree}
    (hdocument : Document.ofText text = ⟨t, false⟩) {a : α} (h : reader t = .ok a) : ofText reader text = .ok a := by
  unfold ofText
  rw [hdocument]
  dsimp only
  rw [h]
  rfl

end KeyedFlow.Json
