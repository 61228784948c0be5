import KeyedFlow.Proofs.ProgramRoundTrip
import KeyedFlow.Proofs.TwoFields
import KeyedFlow.Setup

/-!
# Texts of programs and setups

The text of a program or of a setup is an object that holds its fields, among any others, in any order and in any
spelling (`Program.fields`, `Setup.fields`).  From each such text it is read again, a field that is left out being as
usual whatever is said about the others.  A program needs its operations, and each operation an operator and a function
(`parse_of_layout`).
-/

namespace KeyedFlow

/-! ### Operations -/

namespace Operation

/-- What can be written for the fields of an operation. -/
def fields (operation : Operation) : List (String × (List Char → Prop)) :=
  [("operator", Json.QuotedText operation.operator), ("function", Json.QuotedText operation.function)]

/-- The slot of the operator in a draft. -/
def operatorSlot : Json.Slot Draft :=
  ⟨"operator", Json.readText, Draft.operator, fun draft a => { draft with operator := a }⟩

/-- The slot of the function in a draft. -/
def functionSlot : Json.Slot Draft :=
  ⟨"function", Json.readText, Draft.function, fun draft a => { draft with function := a }⟩

/-- The slots of a draft of an operation. -/
def slots : List (Json.Slot Draft) :=
  [operatorSlot, functionSlot]

private theorem isForm : Json.IsForm Draft.field slots where
  nodup := by decide
  known := by simp [slots, operatorSlot, functionSlot, Draft.field]
  unknown name hname draft t := by
    simp only [slots, operatorSlot, functionSlot, List.map_cons, List.map_nil, List.mem_cons, List.not_mem_nil,
      or_false, not_or] at hname
    unfold Draft.field
    split <;> simp_all
  get_set := by simp [slots, operatorSlot, functionSlot]
  get_set_of_ne := by simp [slots, operatorSlot, functionSlot]

private theorem read_eq_readPair :
    read = Json.readPair "struct OperationSpec" "struct OperationSpec with 2 elements" Draft.field ⟨none, none⟩
      operatorSlot functionSlot Operation.mk :=
  rfl

/-- An operation is read from each of its texts. -/
private theorem reads_of_structureText (operation : Operation) (s : List Char)
    (h : Json.StructureText operation.fields s) : Json.Reads read s operation := by
  rw [read_eq_readPair]
  exact Json.reads_pair isForm rfl rfl (fun _ hs => Json.reads_quoted hs _) (fun _ hs => Json.reads_quoted hs _) h

/-- An operation without an operator or without a function is not read. -/
private theorem rejects_of_lacks {s : List Char} (h : Json.Lacks "operator" 0 s ∨ Json.Lacks "function" 1 s) :
    Json.Rejects read s := by
  rw [read_eq_readPair]
  exact Json.rejects_pair_of_lacks isForm rfl rfl h

end Operation

/-! ### Programs -/

namespace Program

/-- What can be written for the number of partitions. -/
def PartitionsText : Option UInt64 → List Char → Prop
  | none, s => s = "null".toList
  | some n, s => Json.IntegerText n.toNat s

/-- What can be written for the fields of a program. -/
def fields (program : Program) : List Json.Field :=
  [.optional "partitions" (program.partitions = none) (PartitionsText program.partitions),
    .present "operations" (Json.StructuresText Operation.fields program.operations)]

/-- The slot of the number of partitions in a draft. -/
def partitionsSlot : Json.Slot Draft :=
  ⟨"partitions", Json.readOption Json.readCount, Draft.partitions, fun draft a => { draft with partitions := a }⟩

/-- The slot of the operations in a draft. -/
def operationsSlot : Json.Slot Draft :=
  ⟨"operations", Json.readList Operation.read, Draft.operations, fun draft a => { draft with operations := a }⟩

/-- The slots of a draft of a program. -/
def slots : List (Json.Slot Draft) :=
  [partitionsSlot, operationsSlot]

private theorem isForm : Json.IsForm Draft.field slots where
  nodup := by decide
  known := by simp [slots, partitionsSlot, operationsSlot, Draft.field]
  unknown name hname draft t := by
    simp only [slots, partitionsSlot, operationsSlot, List.map_cons, List.map_nil, List.mem_cons, List.not_mem_nil,
      or_false, not_or] at hname
    unfold Draft.field
    split <;> simp_all
  get_set := by simp [slots, partitionsSlot, operationsSlot]
  get_set_of_ne := by simp [slots, partitionsSlot, operationsSlot]

private theorem reads_of_partitionsText {partitions : Option UInt64} {s : List Char} (h : PartitionsText partitions s) :
    Json.Reads (Json.readOption Json.readCount) s partitions := by
  cases partitions with
  | none =>
    obtain rfl : s = "null".toList := h
    exact (Json.hasTree_word .null).reads rfl
  | some n => exact (Json.hasTree_integer h).reads (readOption_tree n)

/-- A program is read from each of its texts. -/
private theorem reads_of_fieldsText {program : Program} {s : List Char} (h : Json.FieldsText program.fields s) :
    Json.Reads read s program := by
  obtain ⟨members, h, hholds⟩ := h
  have hfits : List.Forall₂ Json.Fits program.fields slots :=
    .cons (Json.fits_optional rfl fun s hs => ⟨_, reads_of_partitionsText hs⟩)
      (.cons (Json.fits_present rfl fun s hs => ⟨_, Json.reads_structures Operation.reads_of_structureText hs⟩) .nil)
  obtain ⟨htree, next, hread, hfrom⟩ := isForm.exists_readFrom hfits h hholds ⟨none, none⟩
    (by simp [slots, partitionsSlot, operationsSlot])
  have hpartitions : next.partitions.getD none = program.partitions :=
    hfrom.getD_of_optional hholds List.mem_cons_self List.mem_cons_self rfl (fun s hs => reads_of_partitionsText hs) id
  have hoperations : next.operations = some program.operations :=
    hfrom.get_of_present hholds (List.mem_cons_of_mem _ List.mem_cons_self) (List.mem_cons_of_mem _ List.mem_cons_self)
      rfl fun s hs => Json.reads_structures Operation.reads_of_structureText hs
  have hjoin : next.partitions.join = program.partitions := by
    rw [← hpartitions]
    cases next.partitions <;> rfl
  refine htree.reads ?_
  unfold read Json.readStructure
  dsimp only
  rw [hread]
  show (Json.required "operations" next.operations).map (Program.mk next.partitions.join) = _
  rw [hjoin, hoperations]
  rfl

private theorem needs_operations : Json.Needs read Draft.field ⟨none, none⟩ operationsSlot 1 where
  object _ _ h := by
    obtain ⟨next, hnext, h⟩ := Json.exists_of_bind_eq_ok h
    obtain ⟨operations, hoperations, -⟩ := Json.exists_of_bind_eq_ok h
    exact ⟨next, operations, hnext, Json.required_eq_ok hoperations⟩
  list items _ h := by
    obtain ⟨rest, h⟩ := Json.exists_of_readStructure_list h
    obtain ⟨_, h⟩ := Json.exists_of_itemOr_eq_ok h
    obtain ⟨t, more, operations, htail, hoperations, -⟩ := Json.exists_of_item_eq_ok h
    refine ⟨t, operations, ?_, hoperations⟩
    rw [← List.getElem?_tail, htail]
    rfl

/-- The texts of a program with an operation that has no operator or no function. -/
inductive PartialText : List Char → Prop where
  | mk {s value item : List Char} {items : List (List Char)} (h : Json.Writes "operations" 1 value s)
      (hvalue : Json.ListText items value) (hitems : ∀ item ∈ items, Json.IsValue item) (hitem : item ∈ items)
      (hlacks : Json.Lacks "operator" 0 item ∨ Json.Lacks "function" 1 item) : PartialText s

/-- A program is not read if one of its operations is not. -/
private theorem rejects_of_partialText {s : List Char} (h : PartialText s) : Json.Rejects read s := by
  obtain ⟨h, hvalue, hitems, hitem, hlacks⟩ := h
  exact needs_operations.rejects_of_writes isForm (by simp [slots]) h
    (Json.rejects_list hvalue hitems hitem (Operation.rejects_of_lacks hlacks))

private theorem rejects_of_lacks {s : List Char} (h : Json.Lacks "operations" 1 s) : Json.Rejects read s :=
  needs_operations.rejects_of_lacks isForm (by simp [slots]) rfl h

private theorem exists_parse_of_rejects {s : List Char} (h : Json.Rejects read s) {text : String}
    (htext : Json.SpacedText s text.toList) (path : String) :
    ∃ message, parse path text = .error (.invalidDocument path message) := by
  obtain ⟨fault, hfault⟩ := h.exists_ofText_eq htext
  unfold parse
  rw [hfault]
  exact ⟨_, rfl⟩

end Program

/-! ### Setups -/

namespace Setup

/-- A path that is left out where it is as usual. -/
def pathField (name path usualPath : String) : Json.Field :=
  .optional name (path = usualPath) (Json.QuotedText path)

/-- What can be written for a rounding: its name, or an object with its name as the only key. -/
inductive RoundingText (rounding : Rounding) : List Char → Prop where
  | name {s : List Char} (h : Json.QuotedText rounding.name s) : RoundingText rounding s
  | object {s : List Char} (h : Json.ObjectText [(rounding.name, "null".toList)] s) : RoundingText rounding s

/-- What can be written for the fields of a setup. -/
def fields (setup : Setup) : List Json.Field :=
  [pathField "partition_prefix" setup.partitionStem usual.partitionStem,
    pathField "program_path" setup.programPath usual.programPath,
    pathField "result_path" setup.resultPath usual.resultPath,
    pathField "expected_path" setup.expectedPath usual.expectedPath,
    .optional "truncation" (setup.rounding = usual.rounding) (RoundingText setup.rounding)]

/-- The slots of a draft of a setup. -/
def slots : List (Json.Slot Draft) :=
  [⟨"partition_prefix", Json.readPath, Draft.partitionStem, fun draft a => { draft with partitionStem := a }⟩,
    ⟨"program_path", Json.readPath, Draft.programPath, fun draft a => { draft with programPath := a }⟩,
    ⟨"result_path", Json.readPath, Draft.resultPath, fun draft a => { draft with resultPath := a }⟩,
    ⟨"expected_path", Json.readPath, Draft.expectedPath, fun draft a => { draft with expectedPath := a }⟩,
    ⟨"truncation", Rounding.read, Draft.rounding, fun draft a => { draft with rounding := a }⟩]

private theorem isForm : Json.IsForm Draft.field slots where
  nodup := by decide
  known := by simp [slots, Draft.field]
  unknown name hname draft t := by
    simp only [slots, List.map_cons, List.map_nil, List.mem_cons, List.not_mem_nil, or_false, not_or] at hname
    unfold Draft.field
    split <;> simp_all
  get_set := by simp [slots]
  get_set_of_ne := by simp [slots]

private theorem reads_of_roundingText {rounding : Rounding} {s : List Char} (h : RoundingText rounding s) :
    Json.Reads Rounding.read s rounding := by
  cases h with
  | name h =>
    refine (Json.hasTree_quoted h).reads ?_
    cases rounding <;> decide
  | object h =>
    have hnull := Json.hasTree_word .null
    have htree := Json.hasTree_object h (by simpa using hnull.self)
    rw [List.map_singleton, hnull.textTree_eq] at htree
    refine htree.reads ?_
    cases rounding <;> rfl

private theorem fits_path {name path usualPath : String} {slot : Json.Slot Draft} (hname : name = slot.name)
    (hslot : ∀ s, Json.QuotedText path s → ∃ a, Json.Reads slot.reader s a) :
    Json.Fits (pathField name path usualPath) slot :=
  Json.fits_optional hname hslot

/-- A path is what is written for it, or the usual one. -/
private theorem getD_path {members : List (String × List Char)} {fields : List Json.Field} {next : Draft}
    (hfrom : Json.ReadFrom slots members next) (hholds : Json.Holds fields members) {name path usualPath : String}
    {get : Draft → Option String} {set : Draft → Option String → Draft} (i : Nat)
    (hfield : fields[i]? = some (pathField name path usualPath))
    (hslot : slots[i]? = some ⟨name, Json.readPath, get, set⟩) : (get next).getD usualPath = path :=
  hfrom.getD_of_optional hholds (List.mem_of_getElem? hfield) (List.mem_of_getElem? hslot) rfl
    (fun _ hs => Json.reads_quoted hs _) id

/-- A setup is read from each of its texts. -/
private theorem reads_of_fieldsText {setup : Setup} {s : List Char} (h : Json.FieldsText setup.fields s) :
    Json.Reads read s setup := by
  obtain ⟨members, h, hholds⟩ := h
  have hpath (path : String) : ∀ s, Json.QuotedText path s → ∃ a, Json.Reads Json.readPath s a :=
    fun s hs => ⟨path, Json.reads_quoted hs _⟩
  have hfits : List.Forall₂ Json.Fits setup.fields slots :=
    .cons (fits_path rfl (hpath _)) (.cons (fits_path rfl (hpath _)) (.cons (fits_path rfl (hpath _))
      (.cons (fits_path rfl (hpath _))
        (.cons (Json.fits_optional rfl fun s hs => ⟨_, reads_of_roundingText hs⟩) .nil))))
  obtain ⟨htree, next, hread, hfrom⟩ := isForm.exists_readFrom hfits h hholds ⟨none, none, none, none, none⟩
    (by simp [slots])
  have hstem : next.partitionStem.getD usual.partitionStem = setup.partitionStem :=
    getD_path hfrom hholds 0 rfl rfl
  have hprogram : next.programPath.getD usual.programPath = setup.programPath :=
    getD_path hfrom hholds 1 rfl rfl
  have hresult : next.resultPath.getD usual.resultPath = setup.resultPath :=
    getD_path hfrom hholds 2 rfl rfl
  have hexpected : next.expectedPath.getD usual.expectedPath = setup.expectedPath :=
    getD_path hfrom hholds 3 rfl rfl
  have hrounding : next.rounding.getD usual.rounding = setup.rounding :=
    hfrom.getD_of_optional hholds (List.mem_of_getElem? (i := 4) rfl) (List.mem_of_getElem? (i := 4) rfl) rfl
      (fun _ hs => reads_of_roundingText hs) id
  refine htree.reads ?_
  unfold read Json.readStructure
  dsimp only
  rw [hread]
  show Except.ok (⟨next.partitionStem.getD usual.partitionStem, next.programPath.getD usual.programPath,
    next.resultPath.getD usual.resultPath, next.expectedPath.getD usual.expectedPath,
    next.rounding.getD usual.rounding⟩ : Setup) = _
  rw [hstem, hprogram, hresult, hexpected, hrounding]

end Setup

/-! ### Documents -/

/-- Programs and setups are read from their documents, however these are laid out: fields stand in any order, among any
others and in any spelling, and those that may be left out are as usual where they are.  A program without operations,
or with an operation that has no operator or no function, is not read. -/
theorem parse_of_layout (path text : String) :
    (∀ program : Program, Json.DocumentText (Json.FieldsText program.fields) text →
      Program.parse path text = .ok program) ∧
    (∀ setup : Setup, Json.DocumentText (Json.FieldsText setup.fields) text → Setup.parse path text = .ok setup) ∧
    (Json.DocumentText (Json.Lacks "operations" 1) text →
      ∃ message, Program.parse path text = .error (.invalidDocument path message)) ∧
    (Json.DocumentText Program.PartialText text →
      ∃ message, Program.parse path text = .error (.invalidDocument path message)) := by
  refine ⟨?_, ?_, ?_, ?_⟩
  · rintro program ⟨s, h, htext⟩
    unfold Program.parse
    rw [(Program.reads_of_fieldsText h).ofText_eq htext]
    rfl
  · rintro setup ⟨s, h, htext⟩
    unfold Setup.parse
    rw [(Setup.reads_of_fieldsText h).ofText_eq htext]
    rfl
  · rintro ⟨s, h, htext⟩
    exact Program.exists_parse_of_rejects (Program.rejects_of_lacks h) htext path
  · rintro ⟨s, h, htext⟩
    exact Program.exists_parse_of_rejects (Program.rejects_of_partialText h) htext path

/-- A program among other fields, one of which is half a pair of surrogates, and with an escape in a key. -/
private theorem documentText_escaped :
    Json.DocumentText (Json.FieldsText (Program.fields ⟨none, [⟨"MAP", "ADD_1"⟩]⟩))
      " \x7b\"note\":[\"\\ud800\"] ,\n\"\\u006fperations\":[[\"MAP\",\"ADD_1\"]],\"partitions\": null\x7d" := by
  have hoperator : Json.QuotedText "MAP" "\"MAP\"".toList := Json.quotedText_self (by simp [Json.IsPlain]) rfl
  have hfunction : Json.QuotedText "ADD_1" "\"ADD_1\"".toList := Json.quotedText_self (by simp [Json.IsPlain]) rfl
  have hoperations : Json.StructuresText Operation.fields [⟨"MAP", "ADD_1"⟩] "[[\"MAP\",\"ADD_1\"]]".toList :=
    ⟨_, Json.listText_singleton rfl,
      .cons (.list (.cons (.cons (.self _) (.last (.self _)))) (.cons hoperator (.cons hfunction .nil))) .nil⟩
  have hhalf : Json.UnitText 0xD800 ['\\', 'u', 'd', '8', '0', '0'] :=
    @Json.UnitText.mk 13 8 0 0 _ _ _ _ (.inl rfl) (.inl rfl) (.inl rfl) (.inl rfl)
  have htext : Json.IsValue "\"\\ud800\"".toList := .text (.unit hhalf .nil)
  have hnote : Json.IsValue "[\"\\ud800\"]".toList := .list (Json.listText_singleton rfl) (by simpa using htext)
  have hletter : Json.CharText 'o' ['\\', 'u', '0', '0', '6', 'f'] :=
    (@Json.UnitText.mk 0 0 6 15 _ _ _ _ (.inl rfl) (.inl rfl) (.inl rfl) (.inl rfl)).charText (by decide)
  have hkey : Json.ContentText "operations" (['\\', 'u', '0', '0', '6', 'f'] ++ "perations".toList) :=
    (Json.contentText_self (by simp [Json.IsPlain])).cons hletter rfl
  have hblank : Json.IsSpaces [' '] := by simp [Json.IsSpaces]
  have hline : Json.IsSpaces ['\n'] := by simp [Json.IsSpaces]
  have hobject : Json.ObjectText [("note", "[\"\\ud800\"]".toList), ("operations", "[[\"MAP\",\"ADD_1\"]]".toList),
      ("partitions", "null".toList)] _ :=
    .cons (.cons ⟨_, Json.contentText_self (by simp [Json.IsPlain]),
        @Json.MemberText.mk _ _ [] [] _ nofun nofun (@Json.SpacedText.mk _ [] [' '] nofun hblank)⟩
      (.cons ⟨_, hkey, @Json.MemberText.mk _ _ ['\n'] [] _ hline nofun (.self _)⟩
        (.last ⟨_, Json.contentText_self (by simp [Json.IsPlain]),
          @Json.MemberText.mk _ _ [] [] _ nofun nofun (@Json.SpacedText.mk _ [' '] [] hblank nofun)⟩)))
  refine ⟨_, ⟨_, hobject, by decide, fun field hfield => ?_, fun member hmember hname => ?_⟩,
    @Json.SpacedText.mk _ [' '] [] hblank nofun⟩
  · simp only [Program.fields, List.mem_cons, List.not_mem_nil, or_false] at hfield
    rcases hfield with rfl | rfl
    · rfl
    · exact ⟨_, rfl, hoperations⟩
  · simp only [List.mem_cons, List.not_mem_nil, or_false] at hmember
    rcases hmember with rfl | rfl | rfl
    · exact hnote
    · exact absurd (by decide) hname
    · exact absurd (by decide) hname

/-- A setup with nothing but a rounding, which is written as an object. -/
private theorem documentText_floor :
    Json.DocumentText (Json.FieldsText (Setup.fields { Setup.usual with rounding := .floor }))
      "\x7b\"truncation\":\x7b\"floor\":null\x7d\x7d" := by
  have hrounding : Setup.RoundingText .floor "\x7b\"floor\":null\x7d".toList :=
    .object (Json.objectText_singleton (by simp [Rounding.name, Json.IsPlain]) rfl)
  have hobject : Json.ObjectText [("truncation", "\x7b\"floor\":null\x7d".toList)]
      "\x7b\"truncation\":\x7b\"floor\":null\x7d\x7d".toList :=
    Json.objectText_singleton (by simp [Json.IsPlain]) rfl
  refine ⟨_, ⟨_, hobject, by decide, fun field hfield => ?_, fun member hmember hname => ?_⟩, .self _⟩
  · simp only [Setup.fields, List.mem_cons, List.not_mem_nil, or_false] at hfield
    rcases hfield with rfl | rfl | rfl | rfl | rfl
    case inr.inr.inr.inr => exact hrounding
    all_goals rfl
  · obtain rfl := List.mem_singleton.1 hmember
    exact absurd (by decide) hname

/-- A program without operations. -/
private theorem documentText_lacks :
    Json.DocumentText (Json.Lacks "operations" 1) "\x7b\"partitions\":3\x7d" := by
  have hobject : Json.KeyedText [("partitions".toList, "3".toList)] "\x7b\"partitions\":3\x7d".toList :=
    Json.keyedText_singleton rfl
  have hkey : Json.ContentText "partitions" "partitions".toList := Json.contentText_self (by simp [Json.IsPlain])
  have hcount : Json.IsValue "3".toList := .number (Json.spellsFigure_toString 3)
  refine ⟨_, .object hobject (by simpa using hkey.isBody) (by simpa using hcount) (fun member hmember hname => ?_),
    .self _⟩
  obtain rfl := List.mem_singleton.1 hmember
  exact absurd (hname.unique hkey) (by decide)

/-- A program with an operation that has no function. -/
private theorem documentText_partial :
    Json.DocumentText Program.PartialText "\x7b\"operations\":[[\"MAP\"]]\x7d" := by
  have hoperator : Json.QuotedText "MAP" "\"MAP\"".toList := Json.quotedText_self (by simp [Json.IsPlain]) rfl
  have hitem : Json.ListText ["\"MAP\"".toList] "[\"MAP\"]".toList := Json.listText_singleton rfl
  have hitemValue : Json.IsValue "[\"MAP\"]".toList := .list hitem (by simpa using hoperator.isValue)
  have hvalue : Json.ListText ["[\"MAP\"]".toList] "[[\"MAP\"]]".toList := Json.listText_singleton rfl
  have hkey : Json.ContentText "operations" "operations".toList := Json.contentText_self (by simp [Json.IsPlain])
  have hobject : Json.KeyedText [("operations".toList, "[[\"MAP\"]]".toList)]
      "\x7b\"operations\":[[\"MAP\"]]\x7d".toList := Json.keyedText_singleton rfl
  have hwrites : Json.Writes "operations" 1 "[[\"MAP\"]]".toList "\x7b\"operations\":[[\"MAP\"]]\x7d".toList :=
    .object hobject (by simpa using hkey.isBody) (by simpa using Json.IsValue.list hvalue (by simpa using hitemValue))
      hkey List.mem_cons_self
  exact ⟨_, .mk hwrites hvalue (by simpa using hitemValue) List.mem_cons_self
    (.inr (.list hitem (by simpa using hoperator.isValue) (Nat.le_refl 1))), .self _⟩

/-- An escaped name, an unpaired surrogate in an unknown field, a rounding as an object, and two missing fields. -/
theorem parse_of_layout_escaped :
    Program.parse "inline.json"
        " \x7b\"note\":[\"\\ud800\"] ,\n\"\\u006fperations\":[[\"MAP\",\"ADD_1\"]],\"partitions\": null\x7d" =
      .ok ⟨none, [⟨"MAP", "ADD_1"⟩]⟩ ∧
    Setup.parse "inline.json" "\x7b\"truncation\":\x7b\"floor\":null\x7d\x7d" =
      .ok { Setup.usual with rounding := .floor } ∧
    (∃ message, Program.parse "inline.json" "\x7b\"partitions\":3\x7d" =
      .error (.invalidDocument "inline.json" message)) ∧
    (∃ message, Program.parse "inline.json" "\x7b\"operations\":[[\"MAP\"]]\x7d" =
      .error (.invalidDocument "inline.json" message)) :=
  ⟨(parse_of_layout _ _).1 _ documentText_escaped, (parse_of_layout _ _).2.1 _ documentText_floor,
    (parse_of_layout _ _).2.2.1 documentText_lacks, (parse_of_layout _ _).2.2.2 documentText_partial⟩

end KeyedFlow
