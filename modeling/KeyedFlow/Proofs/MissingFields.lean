import KeyedFlow.Proofs.FieldReading

/-!
# Values that cannot be read

The text of a value may hold nothing for a field of a structure (`Json.Lacks`), or something that cannot be read
(`Json.Writes`, `Json.Rejects`).  In an object members count by their names, whatever else stands between them, and in a
list items by their places.  A reader that needs the field gives nothing in either case (`Json.Needs.rejects_of_lacks`,
`Json.Needs.rejects_of_writes`), and no list is read one of whose items is not (`Json.rejects_list`).
-/

namespace KeyedFlow.Json

/-! ### Fields in texts -/

/-- Whether the text of a value holds nothing for a field: an object without a member of its name, or a list that ends
before it. -/
inductive Lacks (name : String) (index : Nat) : List Char → Prop where
  | object {members : List (List Char × List Char)} {s : List Char} (h : KeyedText members s)
      (hkeys : ∀ member ∈ members, IsBody member.1) (hvalues : ∀ member ∈ members, IsValue member.2)
      (habsent : ∀ member ∈ members, ¬ ContentText name member.1) : Lacks name index s
  | list {items : List (List Char)} {s : List Char} (h : ListText items s) (hitems : ∀ item ∈ items, IsValue item)
      (hlength : items.length ≤ index) : Lacks name index s

/-- Whether the text of a value holds `value` for a field. -/
inductive Writes (name : String) (index : Nat) (value : List Char) : List Char → Prop where
  | object {members : List (List Char × List Char)} {s key : List Char} (h : KeyedText members s)
      (hkeys : ∀ member ∈ members, IsBody member.1) (hvalues : ∀ member ∈ members, IsValue member.2)
      (hkey : ContentText name key) (hmember : (key, value) ∈ members) : Writes name index value s
  | list {items : List (List Char)} {s : List Char} (h : ListText items s) (hitems : ∀ item ∈ items, IsValue item)
      (hvalue : items[index]? = some value) : Writes name index value s

variable {name : String} {index : Nat} {s value : List Char}

private theorem Lacks.isValue (h : Lacks name index s) : IsValue s := by
  cases h with
  | object h hkeys hvalues _ => exact .object h hkeys hvalues
  | list h hitems _ => exact .list h hitems

private theorem Writes.isValue (h : Writes name index value s) : IsValue s := by
  cases h with
  | object h hkeys hvalues _ _ => exact .object h hkeys hvalues
  | list h hitems _ => exact .list h hitems

/-- No member of the tree has the name of a field that is not written, and no item has its place. -/
private theorem Lacks.textTree_eq (h : Lacks name index s) :
    (∃ members, textTree s = .object members ∧ ∀ member ∈ members, member.1.content ≠ .ok name) ∨
      ∃ items, textTree s = .list items ∧ items.length ≤ index := by
  cases h with
  | @object members _ h hkeys hvalues habsent =>
    have htree := hasTree_keyed h hkeys fun member hmember => (hvalues member hmember).hasTree
    refine Or.inl ⟨_, htree.textTree_eq, fun t ht hname => ?_⟩
    obtain ⟨member, hmember, rfl⟩ := List.mem_map.1 ht
    exact habsent member hmember ((hkeys member hmember).contentText hname)
  | @list items _ h hitems hlength =>
    have htree := hasTree_list h fun item hitem => (hitems item hitem).hasTree
    exact Or.inr ⟨_, htree.textTree_eq, by rwa [List.length_map]⟩

/-- The tree of what is written for a field is that of a member with its name or of the item in its place. -/
private theorem Writes.textTree_eq (h : Writes name index value s) :
    (∃ members member, textTree s = .object members ∧ member ∈ members ∧ member.1.content = .ok name ∧
      member.2 = textTree value) ∨
      ∃ items, textTree s = .list items ∧ items[index]? = some (textTree value) := by
  cases h with
  | @object members _ key h hkeys hvalues hkey hmember =>
    have htree := hasTree_keyed h hkeys fun member hmember => (hvalues member hmember).hasTree
    refine Or.inl ⟨_, keyedTree (key, value), htree.textTree_eq, List.mem_map_of_mem hmember, ?_, rfl⟩
    show (bodyLexeme key).content = .ok name
    rw [hkey.bodyLexeme_eq]
  | @list items _ h hitems hvalue =>
    have htree := hasTree_list h fun item hitem => (hitems item hitem).hasTree
    exact Or.inr ⟨_, htree.textTree_eq, by rw [List.getElem?_map, hvalue]; rfl⟩

/-! ### Readers that fail -/

/-- Whether the text of a value cannot be read. -/
structure Rejects {α : Type} (reader : Reader α) (s : List Char) : Prop where
  hasTree : HasTree s (textTree s)
  ne_ok : ∀ a, reader (textTree s) ≠ .ok a

section

variable {α β ε : Type} {reader : Reader α}

/-- A document fails to be read if its value cannot be read. -/
theorem Rejects.exists_ofText_eq (h : Rejects reader s) {text : String} (htext : SpacedText s text.toList) :
    ∃ fault, ofText reader text = .error fault := by
  rw [h.hasTree.ofText_eq htext]
  cases hread : reader (textTree s) with
  | error fault => exact ⟨fault, rfl⟩
  | ok a => exact absurd hread (h.ne_ok a)

/-- What follows a step that has been taken starts from its result. -/
theorem exists_of_bind_eq_ok {x : Except ε α} {k : α → Except ε β} {b : β} (h : x >>= k = .ok b) :
    ∃ a, x = .ok a ∧ k a = .ok b := by
  cases x with
  | error => cases h
  | ok a => exact ⟨a, rfl, h⟩

private theorem exists_of_mapM_eq_ok {items : List Tree} {as : List α} (h : items.mapM reader = .ok as) {t : Tree}
    (ht : t ∈ items) : ∃ a, reader t = .ok a := by
  induction items generalizing as with
  | nil => cases ht
  | cons first rest ih =>
    rw [List.mapM_cons] at h
    obtain ⟨a, ha, h⟩ := exists_of_bind_eq_ok h
    obtain ⟨others, hothers, -⟩ := exists_of_bind_eq_ok h
    rcases List.mem_cons.1 ht with rfl | ht
    · exact ⟨a, ha⟩
    · exact ih hothers ht

/-- A list is not read if one of its items is not. -/
theorem rejects_list {items : List (List Char)} (h : ListText items s) (hitems : ∀ item ∈ items, IsValue item)
    {item : List Char} (hitem : item ∈ items) (hrejects : Rejects reader item) : Rejects (readList reader) s := by
  have htree := hasTree_list h fun item hitem => (hitems item hitem).hasTree
  refine ⟨htree.self, fun as has => ?_⟩
  rw [htree.textTree_eq] at has
  have hmapM : (items.map textTree).mapM reader = .ok as := has
  obtain ⟨a, ha⟩ := exists_of_mapM_eq_ok hmapM (List.mem_map_of_mem hitem)
  exact hrejects.ne_ok a ha

/-- The items that are read from a list stand in it. -/
theorem exists_of_item_eq_ok {expected : String} {k : α → Items β} {items : List Tree} {b : β × List Tree}
    (h : (item index expected reader >>= k) items = .ok b) :
    ∃ t rest a, items = t :: rest ∧ reader t = .ok a ∧ k a rest = .ok b := by
  obtain ⟨⟨a, rest⟩, ha, hk⟩ := exists_of_bind_eq_ok h
  cases items with
  | nil => cases ha
  | cons t items =>
    unfold item at ha
    dsimp only at ha
    cases ht : reader t with
    | error =>
      rw [ht] at ha
      cases ha
    | ok a =>
      rw [ht] at ha
      cases ha
      exact ⟨t, rest, a, rfl, ht, hk⟩

/-- An item that may be left off takes one item of the list, if there is one. -/
theorem exists_of_itemOr_eq_ok {default : α} {k : α → Items β} {items : List Tree} {b : β × List Tree}
    (h : (itemOr default reader >>= k) items = .ok b) : ∃ a, k a items.tail = .ok b := by
  obtain ⟨⟨a, rest⟩, ha, hk⟩ := exists_of_bind_eq_ok h
  cases items with
  | nil =>
    cases ha
    exact ⟨_, hk⟩
  | cons t items =>
    unfold itemOr at ha
    dsimp only at ha
    cases ht : reader t with
    | error =>
      rw [ht] at ha
      cases ha
    | ok a =>
      rw [ht] at ha
      cases ha
      exact ⟨a, hk⟩

/-- What is read from a list is read from its items. -/
theorem exists_of_readStructure_list {expected : String} {ofMembers : List (Lexeme String × Tree) → Except Fault α}
    {ofItems : Items α} {items : List Tree} {a : α}
    (h : readStructure expected ofMembers ofItems (.list items) = .ok a) :
    ∃ rest, ofItems items = .ok (a, rest) := by
  unfold readStructure at h
  obtain ⟨⟨b, rest⟩, hitems, h⟩ := exists_of_bind_eq_ok h
  obtain ⟨_, -, h⟩ := exists_of_bind_eq_ok h
  cases h
  exact ⟨rest, hitems⟩

/-- A required field that passes is there. -/
theorem required_eq_ok {o : Option α} {a : α} (h : required name o = .ok a) : o = some a := by
  cases o with
  | none => cases h
  | some b =>
    cases h
    rfl

end

section

variable {δ α : Type} {reader : Reader α} {field : δ → String → Tree → Option (Except Fault δ)}
  {slots : List (Slot δ)} {draft : δ} {slot : Slot δ}

/-- Whether a reader gives a result only where a slot is filled, from the members of an object or from one place in a
list. -/
structure Needs (reader : Reader α) (field : δ → String → Tree → Option (Except Fault δ)) (draft : δ) (slot : Slot δ)
    (index : Nat) : Prop where
  object : ∀ members a, reader (.object members) = .ok a →
    ∃ next b, readMembers field draft members = .ok next ∧ slot.get next = some b
  list : ∀ items a, reader (.list items) = .ok a → ∃ t b, items[index]? = some t ∧ slot.reader t = .ok b

/-- Nothing is read from a value without a field that is needed. -/
theorem Needs.rejects_of_lacks (hneeds : Needs reader field draft slot index) (h : IsForm field slots)
    (hslot : slot ∈ slots) (hempty : slot.get draft = none) (hs : Lacks slot.name index s) : Rejects reader s := by
  refine ⟨hs.isValue.hasTree, fun a ha => ?_⟩
  rcases hs.textTree_eq with ⟨members, htree, habsent⟩ | ⟨items, htree, hlength⟩
  · rw [htree] at ha
    obtain ⟨next, b, hnext, hb⟩ := hneeds.object members a ha
    rw [h.get_eq_of_readMembers hslot hnext habsent, hempty] at hb
    cases hb
  · rw [htree] at ha
    obtain ⟨t, b, ht, -⟩ := hneeds.list items a ha
    rw [List.getElem?_eq_none hlength] at ht
    cases ht

/-- Nothing is read from a value with a field that is needed and cannot be read. -/
theorem Needs.rejects_of_writes (hneeds : Needs reader field draft slot index) (h : IsForm field slots)
    (hslot : slot ∈ slots) (hs : Writes slot.name index value s) (hvalue : Rejects slot.reader value) :
    Rejects reader s := by
  refine ⟨hs.isValue.hasTree, fun a ha => ?_⟩
  rcases hs.textTree_eq with ⟨members, member, htree, hmember, hname, hmemberTree⟩ | ⟨items, htree, hitem⟩
  · rw [htree] at ha
    obtain ⟨next, -, hnext, -⟩ := hneeds.object members a ha
    obtain ⟨b, hb⟩ := h.exists_read_of_readMembers hslot hnext hmember hname
    rw [hmemberTree] at hb
    exact hvalue.ne_ok b hb
  · rw [htree] at ha
    obtain ⟨t, b, ht, hb⟩ := hneeds.list items a ha
    rw [hitem] at ht
    cases ht
    exact hvalue.ne_ok b hb

end

end KeyedFlow.Json
