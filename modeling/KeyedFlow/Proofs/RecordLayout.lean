import KeyedFlow.Disk.Load
import KeyedFlow.Proofs.RowScanning
import KeyedFlow.Proofs.Spelling
import KeyedFlow.Proofs.TextBytes

/-!
# Layouts of a record file

A table can be laid out in a record file in many ways: integers have several spellings, a field is bare or quoted and
may have blanks around it, rows end with a line feed, a carriage return or both, and there may be empty lines and a byte
order mark (`FileText`).  Whatever the layout, the file is read as the table (`decode_of_fileText`).
-/

namespace KeyedFlow.RecordFile

open Text (isBlank trim)
open Text.Numeral (Spells)

/-- Whether a character is blank and ends no row. -/
def IsInlineBlank (c : Char) : Prop :=
  isBlank c = true ∧ c ≠ '\n' ∧ c ≠ '\r'

instance : DecidablePred IsInlineBlank :=
  fun c => inferInstanceAs (Decidable (isBlank c = true ∧ c ≠ '\n' ∧ c ≠ '\r'))

/-- The fields that hold an integer. -/
inductive FieldText (n : Int64) : List Char → Prop where
  | bare {before numeral after : List Char} (hbefore : ∀ c ∈ before, IsInlineBlank c)
      (hnumeral : Spells n.toInt numeral) (hafter : ∀ c ∈ after, IsInlineBlank c) :
      FieldText n (before ++ numeral ++ after)
  | quoted {before numeral behind after : List Char} (hbefore : ∀ c ∈ before, isBlank c = true)
      (hnumeral : Spells n.toInt numeral) (hbehind : ∀ c ∈ behind, isBlank c = true)
      (hafter : ∀ c ∈ after, IsInlineBlank c) :
      FieldText n ('"' :: (before ++ numeral ++ behind ++ '"' :: after))

/-- The rows of a record, without their ends. -/
inductive RowText (r : Record) : List Char → Prop where
  | mk {key value : List Char} (hkey : FieldText r.key key) (hvalue : FieldText r.value value) :
      RowText r (key ++ ',' :: value)

/-- The texts that end a row. -/
inductive RowEnd : List Char → Prop where
  | lineFeed : RowEnd ['\n']
  | carriageReturn : RowEnd ['\r']
  | both : RowEnd ['\r', '\n']

/-- The rows of a table, with empty lines anywhere.  The last row may lack its end. -/
inductive RowsText : Table → List Char → Prop where
  | nil : RowsText [] []
  | emptyLine {t : Table} {ending s : List Char} (hending : RowEnd ending) (hs : RowsText t s) :
      RowsText t (ending ++ s)
  | row {r : Record} {t : Table} {row ending s : List Char} (hrow : RowText r row) (hending : RowEnd ending)
      (hs : RowsText t s) : RowsText (r :: t) (row ++ ending ++ s)
  | lastRow {r : Record} {row : List Char} (hrow : RowText r row) : RowsText [r] row

/-- The record files of a table: its rows, perhaps behind a byte order mark. -/
inductive FileText (t : Table) : List Char → Prop where
  | unmarked {s : List Char} (hs : RowsText t s) : FileText t s
  | marked {s : List Char} (hs : RowsText t s) : FileText t ('\uFEFF' :: s)

/-- Whether a row is read as a record. -/
def Row.Holds (row : Row) (r : Record) : Prop :=
  ∃ fields, row.texts? = some fields ∧ record? fields = some r

/-- Behind a row that holds a record, no header is looked for. -/
theorem tableOfRows_cons_of_holds {row : Row} {r : Record} (h : row.Holds r) (path : String) (header : Header)
    (rest : List Row) :
    tableOfRows path header (row :: rest) = (tableOfRows path .absent rest).map (r :: ·) := by
  obtain ⟨fields, htexts, hrecord⟩ := h
  rw [tableOfRows, htexts]
  dsimp only
  rw [hrecord]

/-- Rows that hold records are read as these records, with and without headers. -/
theorem tableOfRows_of_holds (path : String) (header : Header) {rows : List Row} {t : Table}
    (h : List.Forall₂ Row.Holds rows t) : tableOfRows path header rows = .ok t := by
  induction h generalizing header with
  | nil => rfl
  | cons hrow _ ih =>
    rw [tableOfRows_cons_of_holds hrow, ih]
    rfl

/-- The fields of a row of two texts are these texts, trimmed. -/
theorem Row.texts?_pair (line : Nat) (key value : List Char) :
    Row.texts? ⟨line, [Text.bytes key, Text.bytes value]⟩ = some [trim key, trim value] := by
  simp [Row.texts?, Text.fromUTF8?_bytes]

/-- A row holds the record whose key and value its two fields spell. -/
theorem Row.holds_of_spells (line : Nat) {r : Record} {key value : List Char}
    (hkey : Spells r.key.toInt (trim key)) (hvalue : Spells r.value.toInt (trim value)) :
    Row.Holds ⟨line, [Text.bytes key, Text.bytes value]⟩ r := by
  refine ⟨[trim key, trim value], Row.texts?_pair line key value, ?_⟩
  simp [record?, Text.Numeral.readInt64_of_spells hkey, Text.Numeral.readInt64_of_spells hvalue]

/-- Bytes of characters other than commas, quotes and row ends are content. -/
theorem isContent_of_mem_bytes {s : List Char} (h : ∀ c ∈ s, c ≠ ',' ∧ c ≠ '"' ∧ c ≠ '\n' ∧ c ≠ '\r')
    {b : UInt8} (hb : b ∈ Text.bytes s) : IsContent b where
  ne_comma := by
    rintro rfl
    exact (h _ (Text.mem_of_mem_bytes hb (by decide))).1 rfl
  ne_quote := by
    rintro rfl
    exact (h _ (Text.mem_of_mem_bytes hb (by decide))).2.1 rfl
  not_rowEnd := by
    rw [Bool.eq_false_iff]
    intro hend
    rcases Bool.or_eq_true_iff.1 hend with heq | heq
    · obtain rfl := eq_of_beq heq
      exact (h _ (Text.mem_of_mem_bytes hb (by decide))).2.2.1 rfl
    · obtain rfl := eq_of_beq heq
      exact (h _ (Text.mem_of_mem_bytes hb (by decide))).2.2.2 rfl

private theorem IsInlineBlank.ne {c : Char} (h : IsInlineBlank c) : c ≠ ',' ∧ c ≠ '"' ∧ c ≠ '\n' ∧ c ≠ '\r' := by
  refine ⟨?_, ?_, h.2⟩
  · rintro rfl
    exact absurd h.1 (by decide)
  · rintro rfl
    exact absurd h.1 (by decide)

/-- A numeral has no character that divides rows or fields. -/
theorem spells_ne {n : Int} {numeral : List Char} (h : Spells n numeral) {c : Char} (hc : c ∈ numeral) :
    c ≠ ',' ∧ c ≠ '"' ∧ c ≠ '\n' ∧ c ≠ '\r' := by
  have hc := h.toNat_of_mem hc
  refine ⟨?_, ?_, ?_, ?_⟩
  all_goals
    rintro rfl
    simp at hc

private theorem trim_blanks {n : Int} {before numeral after : List Char} (hbefore : ∀ c ∈ before, isBlank c = true)
    (hnumeral : Spells n numeral) (hafter : ∀ c ∈ after, isBlank c = true) :
    trim (before ++ numeral ++ after) = numeral := by
  rw [Text.trim_append_right _ hafter, Text.trim_append_left hbefore, hnumeral.trim_eq]

open Scanner

/-- A field of an integer leads behind the field, and what it holds, trimmed, spells the integer. -/
private theorem FieldText.leads {n : Int64} {text : List Char} (h : FieldText n text) {s : Scanner}
    {fields : List (List UInt8)} (hs : s.AtField fields) :
    ∃ t content, s.Leads (Text.bytes text) t ∧ t.BehindField fields (Text.bytes content) ∧
      Spells n.toInt (trim content) := by
  cases h with
  | @bare before numeral after hbefore hnumeral hafter =>
    have hne : before ++ numeral ++ after ≠ [] :=
      List.append_ne_nil_of_left_ne_nil (List.append_ne_nil_of_right_ne_nil _ hnumeral.ne_nil) _
    have hcontent : ∀ c ∈ before ++ numeral ++ after, c ≠ ',' ∧ c ≠ '"' ∧ c ≠ '\n' ∧ c ≠ '\r' := by
      intro c hc
      rw [List.mem_append, List.mem_append] at hc
      rcases hc with (hc | hc) | hc
      · exact (hbefore c hc).ne
      · exact spells_ne hnumeral hc
      · exact (hafter c hc).ne
    obtain ⟨t, hleads, ht⟩ := hs.leads_bare (Text.bytes_ne_nil hne) fun b hb => isContent_of_mem_bytes hcontent hb
    refine ⟨t, _, hleads, ht, ?_⟩
    rwa [trim_blanks (fun c hc => (hbefore c hc).1) hnumeral fun c hc => (hafter c hc).1]
  | @quoted before numeral behind after hbefore hnumeral hbehind hafter =>
    have hquote : quote ∉ Text.bytes (before ++ numeral ++ behind) := by
      intro hmem
      have hmem := Text.mem_of_mem_bytes hmem (by decide)
      rw [List.mem_append, List.mem_append] at hmem
      rcases hmem with (hc | hc) | hc
      · exact absurd (hbefore _ hc) (by decide)
      · exact (spells_ne hnumeral hc).2.1 rfl
      · exact absurd (hbehind _ hc) (by decide)
    obtain ⟨t, hleads, ht⟩ :=
      hs.leads_quoted hquote fun b hb => isContent_of_mem_bytes (fun c hc => (hafter c hc).ne) hb
    rw [← Text.bytes_append] at ht
    refine ⟨t, _, ?_, ht, ?_⟩
    · rw [Text.bytes_cons, Text.bytes_append, Text.bytes_cons]
      exact hleads
    · have hblank : ∀ c ∈ behind ++ after, isBlank c = true := by
        intro c hc
        rcases List.mem_append.1 hc with hc | hc
        · exact hbehind c hc
        · exact (hafter c hc).1
      rwa [List.append_assoc, trim_blanks hbefore hnumeral hblank]

/-- The row of a record leads behind its last field, and its fields are read as the record. -/
private theorem RowText.leads {r : Record} {text : List Char} (h : RowText r text) {s : Scanner} (hs : s.AtRow) :
    ∃ t fields field, s.Leads (Text.bytes text) t ∧ t.BehindField fields field ∧
      ∀ line, Row.Holds ⟨line, fields ++ [field]⟩ r := by
  obtain ⟨hkey, hvalue⟩ := h
  obtain ⟨s₁, key, hleads₁, hs₁, hspells₁⟩ := hkey.leads hs.atField
  obtain ⟨s₂, hleads₂, hs₂⟩ := hs₁.leads_comma
  obtain ⟨s₃, value, hleads₃, hs₃, hspells₃⟩ := hvalue.leads hs₂
  refine ⟨s₃, _, _, ?_, hs₃, fun line => Row.holds_of_spells line hspells₁ hspells₃⟩
  rw [Text.bytes_append]
  exact hleads₁.trans (hleads₂.trans hleads₃)

private theorem RowEnd.leads {ending : List Char} (h : RowEnd ending) {s : Scanner} (hs : s.AtRow) :
    ∃ t, s.Leads (Text.bytes ending) t ∧ t.AtRow := by
  cases h with
  | lineFeed => exact hs.leads_rowEnd (b := RecordFile.lineFeed) rfl
  | carriageReturn => exact hs.leads_rowEnd (b := RecordFile.carriageReturn) rfl
  | both =>
    obtain ⟨t, hleads, ht⟩ := hs.leads_rowEnd (b := RecordFile.carriageReturn) rfl
    obtain ⟨u, hleads', hu⟩ := ht.leads_rowEnd (b := RecordFile.lineFeed) rfl
    exact ⟨u, hleads.trans hleads', hu⟩

/-- A row end gives out the row behind whose last field it stands. -/
theorem RowEnd.rows_append {ending : List Char} (h : RowEnd ending) {s : Scanner} {fields : List (List UInt8)}
    {field : List UInt8} (hs : s.BehindField fields field) :
    ∃ t : Scanner, t.AtRow ∧
      ∀ rest, s.rows (Text.bytes ending ++ rest) = ⟨s.start, fields ++ [field]⟩ :: t.rows rest := by
  cases h with
  | lineFeed => exact hs.rows_rowEnd (b := RecordFile.lineFeed) rfl
  | carriageReturn => exact hs.rows_rowEnd (b := RecordFile.carriageReturn) rfl
  | both =>
    -- the carriage return ends the row, and the line feed is passed over
    obtain ⟨t, ht, hrows⟩ := hs.rows_rowEnd (b := RecordFile.carriageReturn) rfl
    obtain ⟨u, hleads, hu⟩ := ht.leads_rowEnd (b := RecordFile.lineFeed) rfl
    refine ⟨u, hu, fun rest => ?_⟩
    rw [← hleads rest, ← hrows]
    rfl

/-- The rows that are given out for a table hold its records. -/
theorem RowsText.holds_rows {t : Table} {text : List Char} (h : RowsText t text) {s : Scanner} (hs : s.AtRow) :
    List.Forall₂ Row.Holds (s.rows (Text.bytes text)) t := by
  induction h generalizing s with
  | nil =>
    rw [Text.bytes_nil, Scanner.rows, if_pos hs.spot_eq]
    exact .nil
  | emptyLine hending _ ih =>
    obtain ⟨u, hleads, hu⟩ := hending.leads hs
    rw [Text.bytes_append, hleads]
    exact ih hu
  | row hrow hending _ ih =>
    obtain ⟨u, fields, field, hleads, hu, hholds⟩ := hrow.leads hs
    obtain ⟨v, hv, hrows⟩ := hending.rows_append hu
    rw [Text.bytes_append, Text.bytes_append, List.append_assoc, hleads, hrows]
    exact .cons (hholds _) (ih hv)
  | lastRow hrow =>
    obtain ⟨u, fields, field, hleads, hu, hholds⟩ := hrow.leads hs
    rw [← List.append_nil (Text.bytes _), hleads, hu.rows_nil]
    exact .cons (hholds _) .nil

/-! ### No layout begins with a byte order mark by itself -/

private theorem toNat_le_of_isBlank {c : Char} (h : isBlank c = true) : c.toNat ≤ 0x3000 := by
  unfold isBlank at h
  simp at h
  omega

private theorem toNat_le_of_spells {n : Int} {s : List Char} (h : Spells n s) {c : Char} (hc : c ∈ s) :
    c.toNat ≤ 0x3000 := by
  have := h.toNat_of_mem hc
  omega

private theorem FieldText.toNat_le {n : Int64} {text : List Char} (h : FieldText n text) {c : Char} (hc : c ∈ text) :
    c.toNat ≤ 0x3000 := by
  cases h with
  | bare hbefore hnumeral hafter =>
    rw [List.mem_append, List.mem_append] at hc
    rcases hc with (hc | hc) | hc
    · exact toNat_le_of_isBlank (hbefore c hc).1
    · exact toNat_le_of_spells hnumeral hc
    · exact toNat_le_of_isBlank (hafter c hc).1
  | quoted hbefore hnumeral hbehind hafter =>
    rw [List.mem_cons, List.mem_append, List.mem_append, List.mem_append, List.mem_cons] at hc
    rcases hc with rfl | ((hc | hc) | hc) | rfl | hc
    · decide
    · exact toNat_le_of_isBlank (hbefore c hc)
    · exact toNat_le_of_spells hnumeral hc
    · exact toNat_le_of_isBlank (hbehind c hc)
    · decide
    · exact toNat_le_of_isBlank (hafter c hc).1

private theorem RowText.toNat_le {r : Record} {text : List Char} (h : RowText r text) {c : Char} (hc : c ∈ text) :
    c.toNat ≤ 0x3000 := by
  obtain ⟨hkey, hvalue⟩ := h
  rw [List.mem_append, List.mem_cons] at hc
  rcases hc with hc | rfl | hc
  · exact hkey.toNat_le hc
  · decide
  · exact hvalue.toNat_le hc

private theorem RowEnd.toNat_le {ending : List Char} (h : RowEnd ending) {c : Char} (hc : c ∈ ending) :
    c.toNat ≤ 0x3000 := by
  have hcases : c = '\r' ∨ c = '\n' := by
    cases h <;> simp_all
  rcases hcases with rfl | rfl
  · decide
  · decide

/-- The characters of rows are ASCII characters and blanks, the last of which is U+3000. -/
theorem RowsText.toNat_le {t : Table} {text : List Char} (h : RowsText t text) {c : Char} (hc : c ∈ text) :
    c.toNat ≤ 0x3000 := by
  induction h with
  | nil => cases hc
  | emptyLine hending _ ih =>
    rcases List.mem_append.1 hc with hc | hc
    · exact hending.toNat_le hc
    · exact ih hc
  | row hrow hending _ ih =>
    rw [List.mem_append, List.mem_append] at hc
    rcases hc with (hc | hc) | hc
    · exact hrow.toNat_le hc
    · exact hending.toNat_le hc
    · exact ih hc
  | lastRow hrow => exact hrow.toNat_le hc

/-- Whatever the layout of a table in a record file, the file is read as the table. -/
theorem decode_of_fileText {t : Table} {text : List Char} (h : FileText t text) (path : String) (header : Header) :
    decode path header (String.ofList text).toUTF8 = .ok t := by
  unfold decode rows
  rw [Text.toUTF8_toList, String.toList_ofList]
  cases h with
  | unmarked hs =>
    have hmark : text.head? ≠ some '\uFEFF' := by
      intro hhead
      exact absurd (hs.toNat_le (List.mem_of_mem_head? hhead)) (by decide)
    rw [dropMark_bytes hmark]
    exact tableOfRows_of_holds path header (hs.holds_rows .initial)
  | marked hs =>
    rw [dropMark_bytes_mark]
    exact tableOfRows_of_holds path header (hs.holds_rows .initial)

end KeyedFlow.RecordFile
