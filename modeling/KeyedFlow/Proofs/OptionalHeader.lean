import KeyedFlow.Proofs.AppendedRows

/-!
# Files that may begin with a header

Whether headers are allowed makes a difference only for files whose first row is a header, that is, a row without a
64-bit integer (`RecordFile.decode_optional_eq`).  Such a file is malformed at its first row where headers are not
allowed, and the table of its other rows where they are.  A line of names in front of a record file is always a header
(`RecordFile.decode_line_append`).
-/

namespace KeyedFlow.RecordFile

open Text.Numeral (IsInt64Number)

section

variable {path : String} {b : ByteArray} {t : Table} {failure : Failure}

/-- A file whose first row is no header is read alike with and without headers. -/
theorem decode_optional_eq (path : String) (h : ∀ first ∈ (RecordFile.rows b.data.toList).head?, ¬first.IsHeader) :
    decode path .optional b = decode path .absent b := by
  unfold decode
  cases hrows : RecordFile.rows b.data.toList with
  | nil => rfl
  | cons first rest =>
    rw [hrows] at h
    exact tableOfRows_of_not_isHeader (h first rfl) path rest

/-- A file that is read only where headers are allowed begins with one, which is malformed where they are not. -/
private theorem exists_header_of_decode (hoptional : decode path .optional b = .ok t)
    (habsent : decode path .absent b = .error failure) :
    ∃ first rest fields, RecordFile.rows b.data.toList = first :: rest ∧ first.texts? = some fields ∧
      failure = .malformedRecord path first.line (rowText fields) ∧ (∀ field ∈ fields, ¬IsInt64Number field) ∧
      List.Forall₂ Row.Holds rest t := by
  have h := tableOfRows_optional_eq_ok_iff.1 hoptional
  unfold decode at habsent
  revert h habsent
  generalize RecordFile.rows b.data.toList = rows
  intro habsent h
  cases h with
  | bare h =>
    rw [tableOfRows_of_holds path .absent h] at habsent
    cases habsent
  | @headed first rest _ fields htexts hfields h =>
    refine ⟨first, rest, fields, rfl, htexts, ?_, hfields, h⟩
    rcases first.exists_holds_or_fault path with ⟨r, hr⟩ | ⟨fault, hfault⟩
    · exact absurd ⟨fields, htexts, hfields⟩ hr.not_isHeader
    · rw [tableOfRows_cons_of_fault hfault] at habsent
      cases habsent
      cases hfault with
      | noText hnone =>
        rw [htexts] at hnone
        cases hnone
      | malformed hsome _ =>
        rw [htexts] at hsome
        cases hsome
        rfl

end

/-- A line in front of a file is its first row, and the rows of the file begin one line later. -/
private theorem rows_line_append {line : List Char} (hline : IsLine line) (hne : line ≠ [])
    (hmark : line.head? ≠ some '\uFEFF') {bytes : List UInt8} (hbytes : ¬mark <+: bytes) :
    rows (Text.bytes (line ++ ['\n']) ++ bytes) =
      ⟨1, (line.splitOn ',').map Text.bytes⟩ :: (rows bytes).map (Row.later 1) := by
  obtain ⟨u, hu, hrows⟩ := Scanner.AtLine.initial.rows_line hline hne .lineFeed
  have hhead : (line ++ ['\n']).head? ≠ some '\uFEFF' := by
    rwa [List.head?_append_of_ne_nil _ hne]
  rw [if_pos rfl] at hu
  rw [rows, dropMark_bytes_append (List.append_ne_nil_of_left_ne_nil hne _) hhead, rows, dropMark_eq_self hbytes,
    ← Scanner.rows_later, ← Scanner.AtLine.eq_later hu]
  exact hrows bytes

/-- A line without a 64-bit integer in front of a record file is passed over. -/
theorem decode_line_append {line : List Char} (hline : IsLine line) (hne : line ≠ [])
    (hmark : line.head? ≠ some '\uFEFF') (hfields : ∀ field ∈ lineFields line, ¬IsInt64Number field)
    {b : ByteArray} (hb : ¬mark <+: b.data.toList) {path : String} {t : Table}
    (h : decode path .absent b = .ok t) :
    decode path .optional ((String.ofList (line ++ ['\n'])).toUTF8 ++ b) = .ok t := by
  have hheader : Row.IsHeader ⟨1, (line.splitOn ',').map Text.bytes⟩ :=
    ⟨lineFields line, Row.texts?_map_bytes 1 _, hfields⟩
  unfold decode at h ⊢
  rw [Text.toUTF8_append_toList, String.toList_ofList, rows_line_append hline hne hmark hb,
    tableOfRows_of_isHeader hheader, tableOfRows_later, h]
  rfl

/-- Where headers are allowed, all that is read without them is read as the same table.  What is read only there is
malformed at its first row, which holds no 64-bit integer, and is the table of the other rows.  A file that fails at a
later row fails alike.  A line without a 64-bit integer in front of a record file is passed over. -/
theorem decode_optional_extends (path : String) :
    (∀ b t, decode path .absent b = .ok t → decode path .optional b = .ok t) ∧
    (∀ b t failure, decode path .optional b = .ok t → decode path .absent b = .error failure →
      ∃ first rest fields, rows b.data.toList = first :: rest ∧ first.texts? = some fields ∧
        failure = .malformedRecord path first.line (rowText fields) ∧ (∀ field ∈ fields, ¬IsInt64Number field) ∧
        List.Forall₂ Row.Holds rest t) ∧
    (∀ b failure, decode path .absent b = .error failure ↔ ∃ index, FaultAt path index (rows b.data.toList) failure) ∧
    (∀ b index failure, FaultAt path (index + 1) (rows b.data.toList) failure →
      decode path .optional b = .error failure) ∧
    ∀ line b t, IsLine line → line ≠ [] → line.head? ≠ some '\uFEFF' →
      (∀ field ∈ lineFields line, ¬IsInt64Number field) → ¬mark <+: b.data.toList → decode path .absent b = .ok t →
      decode path .optional ((String.ofList (line ++ ['\n'])).toUTF8 ++ b) = .ok t := by
  refine ⟨fun b t h => ?_, fun b t failure => exists_header_of_decode, fun b failure => tableOfRows_eq_error_iff,
    fun b index failure h => ?_,
    fun line b t hline hne hmark hfields hb => decode_line_append hline hne hmark hfields hb⟩
  · rw [decode_optional_eq path (not_isHeader_of_holds (tableOfRows_eq_ok_iff.1 h)), h]
  · rw [decode_optional_eq path h.not_isHeader]
    exact tableOfRows_eq_error_iff.2 ⟨index + 1, h⟩

/-- A line of names is passed over in front of the rows, but is malformed behind the first of them. -/
theorem decode_optional_extends_names :
    let names : List Char := ['k', ',', ' ', '+', 'v']
    let b : ByteArray := "1,2\n\n3,-4".toUTF8
    let headed : ByteArray := (String.ofList (names ++ ['\n'])).toUTF8 ++ b
    let faulty : ByteArray := "1,2\r\nkey,value\n3,4".toUTF8
    decode "e.csv" .absent b = .ok [⟨1, 2⟩, ⟨3, -4⟩] ∧ decode "e.csv" .optional b = .ok [⟨1, 2⟩, ⟨3, -4⟩] ∧
      decode "e.csv" .absent headed = .error (.malformedRecord "e.csv" 1 "k,+v") ∧
      decode "e.csv" .optional headed = .ok [⟨1, 2⟩, ⟨3, -4⟩] ∧
      (∃ first rest fields, rows headed.data.toList = first :: rest ∧ first.texts? = some fields ∧
        Failure.malformedRecord "e.csv" 1 "k,+v" = .malformedRecord "e.csv" first.line (rowText fields) ∧
        (∀ field ∈ fields, ¬IsInt64Number field) ∧ List.Forall₂ Row.Holds rest [⟨1, 2⟩, ⟨3, -4⟩]) ∧
      FaultAt "e.csv" 1 (rows faulty.data.toList) (.malformedRecord "e.csv" 1 "key,value") ∧
      decode "e.csv" .optional faulty = .error (.malformedRecord "e.csv" 1 "key,value") := by
  intro names b headed faulty
  obtain ⟨hsame, hheader, -, hlater, hline⟩ := decode_optional_extends "e.csv"
  have hb : decode "e.csv" .absent b = .ok [⟨1, 2⟩, ⟨3, -4⟩] := by rfl
  have hheaded : decode "e.csv" .absent headed = .error (.malformedRecord "e.csv" 1 "k,+v") := by rfl
  have hpassed : decode "e.csv" .optional headed = .ok [⟨1, 2⟩, ⟨3, -4⟩] :=
    hline names b _ (by simp [names, IsLine]) (by decide) (by decide) (by decide) (by decide) hb
  have hfault : FaultAt "e.csv" 1 (rows faulty.data.toList) (.malformedRecord "e.csv" 1 "key,value") := by
    have hrows : rows faulty.data.toList =
        [⟨1, [Text.bytes ['1'], Text.bytes ['2']]⟩, ⟨1, [Text.bytes "key".toList, Text.bytes "value".toList]⟩,
          ⟨3, [Text.bytes ['3'], Text.bytes ['4']]⟩] := by rfl
    rw [hrows]
    exact .behind ⟨_, Row.texts?_pair 1 _ _, rfl⟩ (.here (.malformed (Row.texts?_pair 1 _ _) (by decide)) _)
  exact ⟨hb, hsame b _ hb, hheaded, hpassed, hheader headed _ _ hpassed hheaded, hfault, hlater faulty 0 _ hfault⟩

end KeyedFlow.RecordFile
