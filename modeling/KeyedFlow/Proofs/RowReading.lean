import KeyedFlow.Proofs.NumeralValues
import KeyedFlow.Proofs.RecordLayout

/-!
# From rows to a table

Without regard to headers, rows are read as a table exactly when each of them holds a record
(`RecordFile.tableOfRows_eq_ok_iff`); otherwise the first row that holds none decides the failure
(`RecordFile.tableOfRows_eq_error_iff`).  Rows that hold records may be read ahead of the others
(`RecordFile.tableOfRows_append`).  Where headers are allowed, a first row without a 64-bit integer is left out, and
nothing else is changed (`RecordFile.tableOfRows_of_isHeader`, `RecordFile.tableOfRows_of_not_isHeader`).
-/

namespace KeyedFlow.RecordFile

open Text.Numeral (Denotes IsNumber IsInt64Number)

/-- The failure that a row without a record is. -/
inductive Row.Fault (path : String) (row : Row) : Failure → Prop where
  | noText (htexts : row.texts? = none) : Fault path row .recordFormat
  | malformed {fields : List (List Char)} (htexts : row.texts? = some fields) (hrecord : record? fields = none) :
      Fault path row (.malformedRecord path row.line (rowText fields))

/-- The index of the first row without a record, and its failure. -/
inductive FaultAt (path : String) : Nat → List Row → Failure → Prop where
  | here {row : Row} {failure : Failure} (h : row.Fault path failure) (rest : List Row) :
      FaultAt path 0 (row :: rest) failure
  | behind {row : Row} {r : Record} {index : Nat} {rest : List Row} {failure : Failure} (hrow : row.Holds r)
      (h : FaultAt path index rest failure) : FaultAt path (index + 1) (row :: rest) failure

/-- Whether a row can be a header: its fields are texts, and none of them denotes a 64-bit integer. -/
def Row.IsHeader (row : Row) : Prop :=
  ∃ fields, row.texts? = some fields ∧ ∀ field ∈ fields, ¬IsInt64Number field

/-- The tables of rows of which the first may be a header, which is one without a number. -/
inductive HeadedRows (isNumber : List Char → Prop) : List Row → Table → Prop where
  | bare {rows : List Row} {t : Table} (h : List.Forall₂ Row.Holds rows t) : HeadedRows isNumber rows t
  | headed {first : Row} {rest : List Row} {t : Table} {fields : List (List Char)}
      (htexts : first.texts? = some fields) (hfields : ∀ field ∈ fields, ¬isNumber field)
      (h : List.Forall₂ Row.Holds rest t) : HeadedRows isNumber (first :: rest) t

variable {path : String} {header : Header} {row : Row} {rows rest : List Row} {t : Table} {failure : Failure}

/-- Every row holds a record or is at fault. -/
theorem Row.exists_holds_or_fault (path : String) (row : Row) :
    (∃ r, row.Holds r) ∨ ∃ failure, row.Fault path failure := by
  cases htexts : row.texts? with
  | none => exact Or.inr ⟨_, .noText htexts⟩
  | some fields =>
    cases hrecord : record? fields with
    | none => exact Or.inr ⟨_, .malformed htexts hrecord⟩
    | some r => exact Or.inl ⟨r, fields, htexts, hrecord⟩

/-- The failure of the first row without a record is that of one of the rows. -/
theorem FaultAt.exists_fault {index : Nat} (h : FaultAt path index rows failure) :
    ∃ row ∈ rows, row.Fault path failure := by
  induction h with
  | here h rest => exact ⟨_, List.mem_cons_self, h⟩
  | behind _ _ ih =>
    obtain ⟨row, hmem, hrow⟩ := ih
    exact ⟨row, List.mem_cons_of_mem _ hmem, hrow⟩

/-- A first row at fault decides the failure. -/
theorem tableOfRows_cons_of_fault (h : row.Fault path failure) (rest : List Row) :
    tableOfRows path .absent (row :: rest) = .error failure := by
  cases h with
  | noText htexts => rw [tableOfRows, htexts]
  | malformed htexts hrecord =>
    rw [tableOfRows, htexts]
    dsimp only
    rw [hrecord]
    rfl

/-- Rows that hold records come first in the table, and the other rows decide about the rest. -/
theorem tableOfRows_append (h : List.Forall₂ Row.Holds rows t) (path : String) (more : List Row) :
    tableOfRows path .absent (rows ++ more) = (tableOfRows path .absent more).map (t ++ ·) := by
  induction h with
  | nil =>
    show _ = Except.map id _
    rw [Except.map_id]
    rfl
  | cons hrow _ ih =>
    rw [List.cons_append, tableOfRows_cons_of_holds hrow, ih]
    cases tableOfRows path .absent more <;> rfl

/-- Without headers, rows are read exactly as the records that they hold. -/
theorem tableOfRows_eq_ok_iff : tableOfRows path .absent rows = .ok t ↔ List.Forall₂ Row.Holds rows t := by
  refine ⟨fun h => ?_, tableOfRows_of_holds path .absent⟩
  induction rows generalizing t with
  | nil =>
    cases h
    exact .nil
  | cons row rest ih =>
    rcases row.exists_holds_or_fault path with ⟨r, hrow⟩ | ⟨failure, hrow⟩
    · rw [tableOfRows_cons_of_holds hrow] at h
      cases hrest : tableOfRows path .absent rest with
      | error failure =>
        rw [hrest] at h
        cases h
      | ok u =>
        rw [hrest] at h
        cases h
        exact .cons hrow (ih hrest)
    · rw [tableOfRows_cons_of_fault hrow] at h
      cases h

/-- Without headers, rows fail to be read exactly with the failure of the first without a record. -/
theorem tableOfRows_eq_error_iff :
    tableOfRows path .absent rows = .error failure ↔ ∃ index, FaultAt path index rows failure := by
  constructor
  · intro h
    induction rows with
    | nil => cases h
    | cons row rest ih =>
      rcases row.exists_holds_or_fault path with ⟨r, hrow⟩ | ⟨fault, hrow⟩
      · rw [tableOfRows_cons_of_holds hrow] at h
        cases hrest : tableOfRows path .absent rest with
        | error fault =>
          rw [hrest] at h
          cases h
          obtain ⟨index, hindex⟩ := ih hrest
          exact ⟨index + 1, .behind hrow hindex⟩
        | ok u =>
          rw [hrest] at h
          cases h
      · rw [tableOfRows_cons_of_fault hrow] at h
        cases h
        exact ⟨0, .here hrow rest⟩
  · rintro ⟨index, h⟩
    induction h with
    | here hrow rest => exact tableOfRows_cons_of_fault hrow rest
    | behind hrow _ ih =>
      rw [tableOfRows_cons_of_holds hrow, ih]
      rfl

/-! ### A header -/

private theorem isHeader_iff {fields : List (List Char)} :
    isHeader fields = true ↔ ∀ field ∈ fields, ¬IsInt64Number field := by
  unfold isHeader
  rw [List.all_eq_true]
  refine forall₂_congr fun field _ => ?_
  rw [← Text.Numeral.isInt64_iff, Bool.not_eq_true', Bool.not_eq_true]

private theorem exists_isInt64Number_of_record? {fields : List (List Char)} {r : Record} (h : record? fields = some r) :
    ∃ field ∈ fields, IsInt64Number field := by
  unfold record? at h
  split at h
  · split at h
    · rename_i key value _ _ hkey _
      exact ⟨_, List.mem_cons_self, _, Text.Numeral.readInt64_eq_ok_iff.1 hkey⟩
    · cases h
  · cases h

/-- A row that holds a record is no header, since its key is a 64-bit integer. -/
theorem Row.Holds.not_isHeader {r : Record} (h : row.Holds r) : ¬row.IsHeader := by
  rintro ⟨fields, htexts, hfields⟩
  obtain ⟨fields', htexts', hrecord⟩ := h
  obtain rfl : fields = fields' := Option.some.inj (htexts.symm.trans htexts')
  obtain ⟨field, hmem, hfield⟩ := exists_isInt64Number_of_record? hrecord
  exact hfields field hmem hfield

/-- The first row is no header if it holds a record, as it does in front of the first row that holds none. -/
theorem FaultAt.not_isHeader {index : Nat} (h : FaultAt path (index + 1) rows failure) :
    ∀ first ∈ rows.head?, ¬first.IsHeader := by
  cases h with
  | behind hrow _ =>
    rintro first ⟨⟩
    exact hrow.not_isHeader

/-- A row that holds a record is no header. -/
theorem not_isHeader_of_holds (h : List.Forall₂ Row.Holds rows t) : ∀ first ∈ rows.head?, ¬first.IsHeader := by
  cases h with
  | nil => simp
  | cons hrow _ =>
    rintro first ⟨⟩
    exact hrow.not_isHeader

/-- Where headers are allowed, a header is left out. -/
theorem tableOfRows_of_isHeader (h : row.IsHeader) (path : String) (rest : List Row) :
    tableOfRows path .optional (row :: rest) = tableOfRows path .absent rest := by
  have hrecord := fun r (hr : row.Holds r) => hr.not_isHeader h
  obtain ⟨fields, htexts, hfields⟩ := h
  rw [tableOfRows, htexts]
  dsimp only
  split
  · rename_i r hr
    exact absurd ⟨fields, htexts, hr⟩ (hrecord r)
  · rw [if_pos ⟨rfl, isHeader_iff.2 hfields⟩]

/-- Where headers are allowed, a first row that is none is read like the others. -/
theorem tableOfRows_of_not_isHeader (h : ¬row.IsHeader) (path : String) (rest : List Row) :
    tableOfRows path .optional (row :: rest) = tableOfRows path .absent (row :: rest) := by
  rw [tableOfRows, tableOfRows]
  split
  · rfl
  · rename_i fields htexts
    split
    · rfl
    · have hfields : ¬isHeader fields = true := fun hfields => h ⟨fields, htexts, isHeader_iff.1 hfields⟩
      rw [if_neg fun hand => hfields hand.2, if_neg fun hand => hfields hand.2]

/-- Where headers are allowed, rows are read exactly as the records behind a header that there may be. -/
theorem tableOfRows_optional_eq_ok_iff :
    tableOfRows path .optional rows = .ok t ↔ HeadedRows IsInt64Number rows t := by
  constructor
  · intro h
    cases rows with
    | nil =>
      cases h
      exact .bare .nil
    | cons row rest =>
      by_cases hrow : row.IsHeader
      · rw [tableOfRows_of_isHeader hrow] at h
        obtain ⟨fields, htexts, hfields⟩ := hrow
        exact .headed htexts hfields (tableOfRows_eq_ok_iff.1 h)
      · rw [tableOfRows_of_not_isHeader hrow] at h
        exact .bare (tableOfRows_eq_ok_iff.1 h)
  · intro h
    cases h with
    | bare h => exact tableOfRows_of_holds path .optional h
    | headed htexts hfields h =>
      rw [tableOfRows_of_isHeader ⟨_, htexts, hfields⟩]
      exact tableOfRows_of_holds path .absent h

/-- Whether the numbers of a row are 64-bit integers. -/
def Row.NumbersFit (row : Row) : Prop :=
  ∀ fields, row.texts? = some fields → ∀ field ∈ fields, ∀ n, Denotes field n → IntegerRange.signed64.contains n

/-- A first row without a number is one without a 64-bit integer. -/
theorem HeadedRows.isInt64Number (h : HeadedRows IsNumber rows t) : HeadedRows IsInt64Number rows t := by
  cases h with
  | bare h => exact .bare h
  | headed htexts hfields h =>
    exact .headed htexts (fun field hmem ⟨n, hn⟩ => hfields field hmem ⟨n.toInt, hn⟩) h

/-- If the numbers of the first row fit into 64 bits, a header is a row without a number. -/
theorem HeadedRows.isNumber (h : HeadedRows IsInt64Number rows t) (hfit : ∀ first ∈ rows.head?, first.NumbersFit) :
    HeadedRows IsNumber rows t := by
  cases h with
  | bare h => exact .bare h
  | headed htexts hfields h =>
    refine .headed htexts (fun field hmem ⟨n, hn⟩ => ?_) h
    exact hfields field hmem (hn.isInt64Number (hfit _ rfl _ htexts field hmem n hn))

end KeyedFlow.RecordFile
