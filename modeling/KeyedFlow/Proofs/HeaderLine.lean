import KeyedFlow.Proofs.RowReading

/-!
# A line of names before the rows

A record file may have the line `key,value` before its rows (`HeadedText`).  Where headers are allowed, the line is
passed over, and the file is read as the table of its rows (`decode_of_headedText`).
-/

namespace KeyedFlow.RecordFile

/-- The line that names the fields of a record. -/
def headerLine : List Char :=
  "key".toList ++ ',' :: "value".toList

/-- The record files of a table, with or without a line of names before its rows. -/
inductive HeadedText (t : Table) : List Char → Prop where
  | bare {s : List Char} (hs : FileText t s) : HeadedText t s
  | headed {ending s : List Char} (hending : RowEnd ending) (hs : RowsText t s) :
      HeadedText t (headerLine ++ ending ++ s)
  | marked {ending s : List Char} (hending : RowEnd ending) (hs : RowsText t s) :
      HeadedText t ('\uFEFF' :: (headerLine ++ ending ++ s))

open Scanner in
/-- The line of names and its end are given out as the first row. -/
private theorem rows_headerLine {ending : List Char} (hending : RowEnd ending) {s : Scanner} (hs : s.AtRow) :
    ∃ (line : Nat) (t : Scanner), t.AtRow ∧ ∀ rest, s.rows (Text.bytes (headerLine ++ ending) ++ rest) =
      ⟨line, [Text.bytes "key".toList, Text.bytes "value".toList]⟩ :: t.rows rest := by
  have hkey : ∀ c ∈ "key".toList, c ≠ ',' ∧ c ≠ '"' ∧ c ≠ '\n' ∧ c ≠ '\r' := by simp
  have hvalue : ∀ c ∈ "value".toList, c ≠ ',' ∧ c ≠ '"' ∧ c ≠ '\n' ∧ c ≠ '\r' := by simp
  obtain ⟨s₁, hleads₁, hs₁⟩ :=
    hs.atField.leads_bare (Text.bytes_ne_nil (by decide)) fun _ => isContent_of_mem_bytes hkey
  obtain ⟨s₂, hleads₂, hs₂⟩ := hs₁.leads_comma
  obtain ⟨s₃, hleads₃, hs₃⟩ := hs₂.leads_bare (Text.bytes_ne_nil (by decide)) fun _ => isContent_of_mem_bytes hvalue
  obtain ⟨t, ht, hrows⟩ := hending.rows_append hs₃
  have hleads : s.Leads (Text.bytes headerLine) s₃ := by
    unfold headerLine
    rw [Text.bytes_append]
    exact hleads₁.trans (hleads₂.trans hleads₃)
  refine ⟨s₃.start, t, ht, fun rest => ?_⟩
  rw [Text.bytes_append, List.append_assoc, hleads, hrows]
  rfl

private theorem tableOfRows_headerLine (path : String) (line : Nat) (rows : List Row) :
    tableOfRows path .optional (⟨line, [Text.bytes "key".toList, Text.bytes "value".toList]⟩ :: rows) =
      tableOfRows path .absent rows := by
  have hheader : Row.IsHeader ⟨line, [Text.bytes "key".toList, Text.bytes "value".toList]⟩ :=
    ⟨_, Row.texts?_pair line _ _, by decide⟩
  exact tableOfRows_of_isHeader hheader path rows

/-- A table is read from its record files whether they begin with a line of names or not. -/
theorem decode_of_headedText {t : Table} {text : List Char} (h : HeadedText t text) (path : String) :
    decode path .optional (String.ofList text).toUTF8 = .ok t := by
  have hrows : ∀ {ending s : List Char}, RowEnd ending → RowsText t s →
      tableOfRows path .optional (Scanner.initial.rows (Text.bytes (headerLine ++ ending ++ s))) = .ok t := by
    intro ending s hending hs
    obtain ⟨line, u, hu, hrows⟩ := rows_headerLine hending .initial
    rw [Text.bytes_append, hrows, tableOfRows_headerLine]
    exact tableOfRows_of_holds path .absent (hs.holds_rows hu)
  cases h with
  | bare hs => exact decode_of_fileText hs path .optional
  | headed hending hs =>
    unfold decode rows
    rw [Text.toUTF8_toList, String.toList_ofList, dropMark_bytes (by simp [headerLine])]
    exact hrows hending hs
  | marked hending hs =>
    unfold decode rows
    rw [Text.toUTF8_toList, String.toList_ofList, dropMark_bytes_mark]
    exact hrows hending hs

end KeyedFlow.RecordFile
