import KeyedFlow.Proofs.TwoFields
import KeyedFlow.Record.Document

/-!
# Texts of tables

A table that has been written as a JSON document is read from it again, and so it is from every other text of it: a
record may stand as the object of its key and its value, in either order and among other members, or as the list of the
two (`Table.read_of_layout`).  Keys and values are read exactly: a text with one beyond 64 bits is not read at all,
whether its number is still an integer for the reader or a decimal already (`Json.rejects_int64`).
-/

namespace KeyedFlow

/-! ### Integers -/

namespace Json

variable {s : List Char}

private theorem tree_toInt (n : Int64) : tree (.integer n.toInt) = .atom ⟨.ok (.integer n.toInt), .ok ()⟩ := by
  rw [tree, atom_ofInt (Or.inl (IntegerRange.contains_toInt n))]

private theorem readInt64_tree (n : Int64) : readInt64 (tree (.integer n.toInt)) = .ok n := by
  have hread : readIntegerAs "i64" .signed64 (tree (.integer n.toInt)) = .ok n.toInt := by
    rw [tree_toInt]
    exact if_pos (IntegerRange.contains_toInt n)
  rw [readInt64, hread]
  exact congrArg Except.ok (Int64.ofInt_toInt n)

private theorem reads_int64 {n : Int64} (h : IntegerText n.toInt s) : Reads readInt64 s n :=
  (hasTree_integer h).reads (readInt64_tree n)

/-- An integer beyond 64 bits is not read, be it one without a sign or a decimal. -/
theorem rejects_int64 {n : Int} (h : IntegerText n s) (hn : ¬ IntegerRange.signed64.contains n) :
    Rejects readInt64 s := by
  have htree := hasTree_integer h
  refine ⟨htree.self, fun a ha => ?_⟩
  rw [htree.textTree_eq, tree] at ha
  unfold Figure.atom at ha
  rw [wholeValue_ofInt] at ha
  split at ha
  · -- an integer, but not of this range
    have hread : readIntegerAs "i64" .signed64 (.atom ⟨.ok (.integer n), .ok ()⟩) = .error (.wrongValue n "i64") :=
      if_neg hn
    unfold readInt64 at ha
    rw [hread] at ha
    cases ha
  · split at ha <;> cases ha

end Json

/-! ### Records -/

namespace Record

/-- What can be written for the fields of a record. -/
def fields (r : Record) : List (String × (List Char → Prop)) :=
  [("key", Json.IntegerText r.key.toInt), ("value", Json.IntegerText r.value.toInt)]

/-- The slot of the key in a draft. -/
def keySlot : Json.Slot Draft :=
  ⟨"key", Json.readInt64, Draft.key, fun draft a => { draft with key := a }⟩

/-- The slot of the value in a draft. -/
def valueSlot : Json.Slot Draft :=
  ⟨"value", Json.readInt64, Draft.value, fun draft a => { draft with value := a }⟩

private theorem isForm : Json.IsForm Draft.field [keySlot, valueSlot] where
  nodup := by decide
  known := by simp [keySlot, valueSlot, Draft.field]
  unknown name hname draft t := by
    simp only [keySlot, valueSlot, List.map_cons, List.map_nil, List.mem_cons, List.not_mem_nil, or_false,
      not_or] at hname
    unfold Draft.field
    split <;> simp_all
  get_set := by simp [keySlot, valueSlot]
  get_set_of_ne := by simp [keySlot, valueSlot]

private theorem read_eq_readPair :
    read = Json.readPair "struct Record" "struct Record with 2 elements" Draft.field ⟨none, none⟩ keySlot valueSlot
      Record.mk :=
  rfl

/-- A record is read from each of its texts. -/
private theorem reads_of_structureText (r : Record) (s : List Char) (h : Json.StructureText r.fields s) :
    Json.Reads read s r := by
  rw [read_eq_readPair]
  exact Json.reads_pair isForm rfl rfl (fun _ hs => Json.reads_int64 hs) (fun _ hs => Json.reads_int64 hs) h

/-- The texts of a record with a key or a value beyond 64 bits. -/
inductive BeyondText : List Char → Prop where
  | mk {s value : List Char} {n : Int} (h : Json.Writes "key" 0 value s ∨ Json.Writes "value" 1 value s)
      (hvalue : Json.IntegerText n value) (hn : ¬ IntegerRange.signed64.contains n) : BeyondText s

private theorem rejects_of_beyondText {s : List Char} (h : BeyondText s) : Json.Rejects read s := by
  obtain ⟨h, hvalue, hn⟩ := h
  have hrejects := Json.rejects_int64 hvalue hn
  rw [read_eq_readPair]
  rcases h with h | h
  · exact Json.needs_first.rejects_of_writes isForm (by simp) h hrejects
  · exact Json.needs_second.rejects_of_writes isForm (by simp) h hrejects

private theorem tree_toJson (r : Record) :
    r.toJson.tree = .object [(⟨.ok "key", .ok ()⟩, Json.tree (.integer r.key.toInt)),
      (⟨.ok "value", .ok ()⟩, Json.tree (.integer r.value.toInt))] := by
  unfold toJson
  simp only [Json.tree, Json.memberTrees]

private theorem isWhole_toJson (r : Record) : r.toJson.tree.IsWhole := by
  rw [tree_toJson, Json.tree_toInt, Json.tree_toInt]
  exact ⟨trivial, trivial, trivial⟩

private theorem read_toJson (r : Record) : read r.toJson.tree = .ok r := by
  have hfirst : keySlot ∈ [keySlot, valueSlot] := List.mem_cons_self
  have hsecond : valueSlot ∈ [keySlot, valueSlot] := List.mem_cons_of_mem _ List.mem_cons_self
  have hkey : Draft.field ⟨none, none⟩ "key" (Json.tree (.integer r.key.toInt)) = some (.ok ⟨some r.key, none⟩) :=
    isForm.field_eq hfirst rfl (Json.readInt64_tree r.key)
  have hvalue : Draft.field ⟨some r.key, none⟩ "value" (Json.tree (.integer r.value.toInt)) =
      some (.ok ⟨some r.key, some r.value⟩) :=
    isForm.field_eq hsecond rfl (Json.readInt64_tree r.value)
  rw [tree_toJson]
  unfold read Json.readStructure
  dsimp only
  rw [Json.readMembers_cons rfl hkey, Json.readMembers_cons rfl hvalue, Json.readMembers]
  rfl

end Record

/-! ### Tables -/

namespace Table

private theorem isWhole_toJson (t : Table) : t.toJson.tree.IsWhole := by
  unfold toJson
  rw [Json.tree, Json.Tree.IsWhole, Json.itemsWhole_iff, Json.trees_eq_map]
  intro u hu
  simp only [List.mem_map, exists_exists_and_eq_and] at hu
  obtain ⟨r, -, rfl⟩ := hu
  exact r.isWhole_toJson

/-- The texts of a table with a key or a value beyond 64 bits. -/
inductive BeyondText : List Char → Prop where
  | mk {s item : List Char} {items : List (List Char)} (h : Json.ListText items s)
      (hitems : ∀ item ∈ items, Json.IsValue item) (hitem : item ∈ items) (hbeyond : Record.BeyondText item) :
      BeyondText s

/-- A table is read from what has been written for it, and from each other text of it, in which records may be objects
or lists.  Where a key or a value is an integer beyond 64 bits, nothing is read. -/
theorem read_of_layout :
    (∀ t : Table, Json.ofText read t.toJson.compact = .ok t) ∧
    (∀ (t : Table) (text : String), Json.DocumentText (Json.StructuresText Record.fields t) text →
      Json.ofText read text = .ok t) ∧
    (∀ text : String, Json.DocumentText BeyondText text → ∃ fault, Json.ofText read text = .error fault) := by
  refine ⟨fun t => ?_, ?_, ?_⟩
  · exact Json.ofText_eq (Json.ofText_compact t.isWhole_toJson) (Json.readList_tree Record.read_toJson t)
  · rintro t text ⟨s, h, htext⟩
    exact (Json.reads_structures Record.reads_of_structureText h).ofText_eq htext
  · rintro text ⟨s, ⟨h, hitems, hitem, hbeyond⟩, htext⟩
    exact (Json.rejects_list h hitems hitem (Record.rejects_of_beyondText hbeyond)).exists_ofText_eq htext

/-- A table of a list and of an object in which the value stands before the key. -/
private theorem documentText_mixed :
    Json.DocumentText (Json.StructuresText Record.fields [⟨-9223372036854775808, 9223372036854775807⟩, ⟨5, -7⟩])
      "[[-9223372036854775808,9223372036854775807], \x7b\"value\":-7,\"key\":5\x7d]" := by
  have hlist : Json.StructureText (Record.fields ⟨-9223372036854775808, 9223372036854775807⟩)
      ('[' :: ("-9223372036854775808".toList ++ ',' :: "9223372036854775807".toList ++ [']'])) :=
    .list (.cons (.cons (.self _) (.last (.self _)))) (.cons rfl (.cons rfl .nil))
  have hobject : Json.ObjectText [("value", "-7".toList), ("key", "5".toList)] _ :=
    .cons (.cons ⟨_, Json.contentText_self (by simp [Json.IsPlain]), .self _ _⟩
      (.last ⟨_, Json.contentText_self (by simp [Json.IsPlain]), .self _ _⟩))
  have hfields : Json.Holds ((Record.fields ⟨5, -7⟩).map fun field => .present field.1 field.2)
      [("value", "-7".toList), ("key", "5".toList)] := by
    refine ⟨by decide, fun field hfield => ?_, fun member hmember hname => ?_⟩
    · simp only [Record.fields, List.map_cons, List.map_nil, List.mem_cons, List.not_mem_nil, or_false] at hfield
      rcases hfield with rfl | rfl
      · exact ⟨_, rfl, rfl⟩
      · exact ⟨_, rfl, rfl⟩
    · simp only [List.mem_cons, List.not_mem_nil, or_false] at hmember
      rcases hmember with rfl | rfl <;> exact absurd (by decide) hname
  have hblank : Json.IsSpaces [' '] := by simp [Json.IsSpaces]
  exact ⟨_, ⟨_, .cons (.cons (.self _) (.last (@Json.SpacedText.mk _ [' '] [] hblank nofun))),
    .cons hlist (.cons (.object ⟨_, hobject, hfields⟩) .nil)⟩, .self _⟩

/-- A table with a value beyond 64 bits. -/
private theorem documentText_beyond {n : Int} (hn : ¬ IntegerRange.signed64.contains n) {text : String}
    (h : text.toList = '[' :: ('[' :: ("0".toList ++ ',' :: (toString n).toList ++ [']']) ++ [']'])) :
    Json.DocumentText BeyondText text := by
  have hkey : Json.IsValue "0".toList := .number (Json.spellsFigure_toString 0)
  have hvalue : Json.IsValue (toString n).toList := .number (Json.spellsFigure_toString n)
  have hrecord : Json.ListText ["0".toList, (toString n).toList]
      ('[' :: ("0".toList ++ ',' :: (toString n).toList ++ [']'])) :=
    .cons (.cons (.self _) (.last (.self _)))
  have hitems : ∀ item ∈ ["0".toList, (toString n).toList], Json.IsValue item := by
    simp only [List.mem_cons, List.not_mem_nil, or_false, forall_eq_or_imp, forall_eq]
    exact ⟨hkey, hvalue⟩
  have hbeyond : Record.BeyondText ('[' :: ("0".toList ++ ',' :: (toString n).toList ++ [']'])) :=
    .mk (.inr (.list hrecord hitems rfl)) rfl hn
  refine ⟨_, .mk (Json.listText_singleton h) (fun item hitem => ?_) List.mem_cons_self hbeyond, .self _⟩
  obtain rfl := List.mem_singleton.1 hitem
  exact .list hrecord hitems

/-- Records written as lists and as an object, and integers just beyond the greatest and far below the least. -/
theorem read_of_layout_ends :
    Json.ofText read (Table.toJson [⟨-9223372036854775808, 9223372036854775807⟩]).compact =
      .ok [⟨-9223372036854775808, 9223372036854775807⟩] ∧
    Json.ofText read "[[-9223372036854775808,9223372036854775807], \x7b\"value\":-7,\"key\":5\x7d]" =
      .ok [⟨-9223372036854775808, 9223372036854775807⟩, ⟨5, -7⟩] ∧
    (∃ fault, Json.ofText read "[[0,9223372036854775808]]" = .error fault) ∧
    (∃ fault, Json.ofText read "[[0,-18446744073709551617]]" = .error fault) :=
  ⟨read_of_layout.1 _, read_of_layout.2.1 _ _ documentText_mixed,
    read_of_layout.2.2 _ (documentText_beyond (n := 9223372036854775808) (by decide) rfl),
    read_of_layout.2.2 _ (documentText_beyond (n := -18446744073709551617) (by decide) rfl)⟩

end Table

end KeyedFlow
