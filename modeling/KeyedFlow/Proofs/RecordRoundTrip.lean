import KeyedFlow.Proofs.DiskEffects
import KeyedFlow.Proofs.RecordLayout

/-!
# Tables that are written and read

A record file is read as its table in whatever layout it is (`Table.run_load_of_fileText`).  A table is written in one
of these layouts, so what is written is read as it was (`RecordFile.decode_encode`), both from the bytes and from the
file that they are saved to (`Table.run_load_of_save`).
-/

namespace KeyedFlow

namespace RecordFile

private theorem fieldText_toString (n : Int64) : FieldText n (toString n).toList := by
  have h : FieldText n ([] ++ (toString n).toList ++ []) :=
    .bare (by simp) (Text.Numeral.spells_toString n) (by simp)
  rwa [List.nil_append, List.append_nil] at h

/-- A written table is one of the layouts of its rows. -/
theorem rowsText_recordChars (t : Table) : RowsText t (t.flatMap recordChars) := by
  induction t with
  | nil => exact .nil
  | cons r rest ih =>
    have hrow : RowText r ((toString r.key).toList ++ ',' :: (toString r.value).toList) :=
      .mk (fieldText_toString r.key) (fieldText_toString r.value)
    exact .row hrow .lineFeed ih

/-- A table is written in one of its layouts. -/
private theorem fileText_recordChars (t : Table) : FileText t (t.flatMap recordChars) :=
  .unmarked (rowsText_recordChars t)

/-- A written table is read as it was. -/
theorem decode_encode (path : String) (header : Header) (t : Table) :
    decode path header (encode t).toUTF8 = .ok t :=
  decode_of_fileText (fileText_recordChars t) path header

private theorem toUTF8_encode_inj {t u : Table} : (encode t).toUTF8 = (encode u).toUTF8 ↔ t = u := by
  refine ⟨fun h => ?_, fun h => congrArg (fun t => (encode t).toUTF8) h⟩
  have hread : (Except.ok t : Except Failure Table) = .ok u :=
    calc
      .ok t = decode "" .absent (encode t).toUTF8 := (decode_encode "" .absent t).symm
      _ = decode "" .absent (encode u).toUTF8 := by rw [h]
      _ = .ok u := decode_encode "" .absent u
  exact Except.ok.inj hread

end RecordFile

/-- What is written of a table, with or without regard to headers, is read as the table; so different tables are written
differently.  A table that has been saved is loaded from where it has been saved, whatever was there before, and every
other file keeps its content. -/
theorem Table.run_load_of_save :
    (∀ path header t, RecordFile.decode path header (RecordFile.encode t).toUTF8 = .ok t) ∧
    (∀ t u, (RecordFile.encode t).toUTF8 = (RecordFile.encode u).toUTF8 ↔ t = u) ∧
    ∀ path t store after, (Table.save path t).run store = (.ok (), after) →
      (∀ header, (Table.load path header).run after = (.ok t, after)) ∧
      ∃ location, after.resolve path = .file location (RecordFile.encode t).toUTF8 ∧
        ∀ other, other ≠ location → after.content? other = store.content? other := by
  refine ⟨RecordFile.decode_encode, fun _ _ => RecordFile.toUTF8_encode_inj, fun path t store after hsave => ?_⟩
  rcases Table.run_save path t store with ⟨_, hrun, -⟩ | ⟨_, location, hrun, hafter⟩
  · rw [hrun] at hsave
    cases hsave
  · rw [hrun] at hsave
    cases hsave
    refine ⟨fun header => ?_, location, hafter.resolve_eq, fun other hother => (hafter.others other hother).content?_eq⟩
    rw [Table.run_load (FileStore.openFile_of_resolve hafter.resolve_eq), RecordFile.decode_encode]

/-- The least key and the greatest value, saved over a longer file by way of another directory. -/
theorem Table.run_load_of_save_least :
    let t : Table := [⟨-9223372036854775808, 9223372036854775807⟩]
    let store : FileStore := ⟨fun location =>
      if location = ["home"] then some .directory
      else if location = ["home", "result.csv"] then some (.file "1,2\n3,4\n5,6\n7,8\n9,10\n11,12\n".toUTF8) else none⟩
    let after := ((Table.save "out/../result.csv" t).run store).2
    (Table.save "out/../result.csv" t).run store = (.ok (), after) ∧
      (Table.load "out/../result.csv" .optional).run after = (.ok t, after) := by
  intro t store after
  have hsave : (Table.save "out/../result.csv" t).run store = (.ok (), after) := by rfl
  exact ⟨hsave, (run_load_of_save.2.2 _ _ _ _ hsave).1 .optional⟩

/-- A record file in any layout of a table is loaded as the table, with or without regard to headers. -/
theorem Table.run_load_of_fileText {t : Table} {text : List Char} (h : RecordFile.FileText t text) {path : String}
    {store : FileStore} (hfile : store.openFile path = .file (String.ofList text).toUTF8) (header : Header) :
    (Table.load path header).run store = (.ok t, store) := by
  rw [Table.run_load hfile, RecordFile.decode_of_fileText h]

/-- A byte order mark, an empty line, a quoted field over two lines, and a last row without an end. -/
theorem Table.run_load_of_fileText_quoted :
    let text := ['\uFEFF', '\r', '\n', '"', '\n', '-', '0', '0', '7', ' ', '"', '\t', ',', '\u2003', '+', '1', '\r',
      '2', ',', '"', '3', '"']
    let store : FileStore := ⟨fun location =>
      if location = ["home"] then some .directory
      else if location = ["home", "key1.csv"] then some (.file (String.ofList text).toUTF8) else none⟩
    RecordFile.FileText [⟨-7, 1⟩, ⟨2, 3⟩] text ∧
      (Table.load "key1.csv" .optional).run store = (.ok [⟨-7, 1⟩, ⟨2, 3⟩], store) := by
  intro text store
  -- an empty line, a quoted and a bare field up to a carriage return, and a row without an end
  have hseven : Text.Numeral.Spells (-7 : Int64).toInt ['-', '0', '0', '7'] := .minus (n := 7) (by decide) 2
  have hone : Text.Numeral.Spells (1 : Int64).toInt ['+', '1'] := .plus 1 0
  have htwo : Text.Numeral.Spells (2 : Int64).toInt ['2'] := .unsigned 2 0
  have hthree : Text.Numeral.Spells (3 : Int64).toInt ['3'] := .unsigned 3 0
  have hfirst : RecordFile.RowText ⟨-7, 1⟩
      (('"' :: (['\n'] ++ ['-', '0', '0', '7'] ++ [' '] ++ '"' :: ['\t'])) ++
        ',' :: (['\u2003'] ++ ['+', '1'] ++ [])) :=
    .mk (.quoted (by simp [Text.isBlank]) hseven (by simp [Text.isBlank]) (by simp; decide))
      (.bare (by simp; decide) hone (by simp))
  have hsecond : RecordFile.RowText ⟨2, 3⟩
      (([] ++ ['2'] ++ []) ++ ',' :: ('"' :: ([] ++ ['3'] ++ [] ++ '"' :: []))) :=
    .mk (.bare (by simp) htwo (by simp)) (.quoted (by simp) hthree (by simp) (by simp))
  have h : RecordFile.FileText [⟨-7, 1⟩, ⟨2, 3⟩] text :=
    .marked (.emptyLine .both (.row hfirst .carriageReturn (.lastRow hsecond)))
  exact ⟨h, run_load_of_fileText h rfl .optional⟩

end KeyedFlow
