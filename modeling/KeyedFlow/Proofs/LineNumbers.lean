import KeyedFlow.Proofs.DiskEffects
import KeyedFlow.Proofs.RowReading
import Mathlib

/-!
# The line of a malformed record

A row counts as beginning right behind the byte that has ended the row before it.  When that was the carriage return of
a line end, the line feed belongs to the row that follows, and so do empty lines.  A malformed record is therefore
reported at the line of the last record before it, or at the next one if that record ends with a line feed alone
(`rowLine`).  This is the line where the malformed record stands only if there is no empty line in between and no
carriage return before (`rowLine_eq_iff`).
-/

namespace KeyedFlow

namespace RecordFile

/-- How a line ends: with a line feed alone, or with a carriage return and a line feed. -/
inductive LineEnd where
  | lineFeed
  | both
  deriving DecidableEq, Repr

/-- The characters of a line end. -/
def LineEnd.text : LineEnd → List Char
  | lineFeed => ['\n']
  | both => ['\r', '\n']

/-- Whether some characters are in one line, and none of them is a quote. -/
def IsLine (s : List Char) : Prop :=
  ∀ c ∈ s, c ≠ '"' ∧ c ≠ '\n' ∧ c ≠ '\r'

/-- A line of a record file that has an end. -/
structure FileLine where
  content : List Char
  ending : LineEnd
  isLine : IsLine content

/-- The characters of a line with its end. -/
def FileLine.text (line : FileLine) : List Char :=
  line.content ++ line.ending.text

/-- The trimmed fields of a line. -/
def lineFields (s : List Char) : List (List Char) :=
  (s.splitOn ',').map Text.trim

/-- The line at which a row behind some lines is reported. -/
def rowLine (before : List FileLine) : Nat :=
  match before.reverse.dropWhile fun line => line.content.isEmpty with
  | [] => 1
  | last :: earlier => earlier.length + if last.ending = .lineFeed then 2 else 1

private theorem rowLine_nil : rowLine [] = 1 := rfl

private theorem rowLine_append (before : List FileLine) (line : FileLine) :
    rowLine (before ++ [line]) =
      if line.content = [] then rowLine before
      else before.length + if line.ending = .lineFeed then 2 else 1 := by
  unfold rowLine
  rw [List.reverse_append, List.reverse_singleton, List.singleton_append, List.dropWhile_cons]
  by_cases h : line.content = []
  · simp [h]
  · simp [h]

private theorem rowLine_le (before : List FileLine) : rowLine before ≤ before.length + 1 := by
  induction before using List.reverseRecOn with
  | nil => exact Nat.le_refl 1
  | append_singleton before line ih =>
    rw [rowLine_append, List.length_append, List.length_singleton]
    split
    · omega
    · split <;> omega

/-- A row is reported at its own line if the line before it has content and ends with a line feed alone, or if there is
no line before it, and otherwise at an earlier line. -/
theorem rowLine_eq_iff {before : List FileLine} :
    rowLine before = before.length + 1 ↔
      ∀ line ∈ before.getLast?, line.content ≠ [] ∧ line.ending = .lineFeed := by
  induction before using List.reverseRecOn with
  | nil => simp [rowLine_nil]
  | append_singleton before line _ =>
    have hle := rowLine_le before
    have hlast : (before ++ [line]).getLast? = some line := List.getLast?_concat
    rw [hlast, rowLine_append, List.length_append, List.length_singleton]
    by_cases hcontent : line.content = []
    · rw [if_pos hcontent]
      simp [hcontent]
      omega
    · rw [if_neg hcontent]
      by_cases hending : line.ending = .lineFeed
      · simp [hcontent, hending]
      · simp [hending]

/-- The fields of a row of texts are these texts, trimmed. -/
theorem Row.texts?_map_bytes (line : Nat) (fields : List (List Char)) :
    Row.texts? ⟨line, fields.map Text.bytes⟩ = some (fields.map Text.trim) := by
  unfold Row.texts?
  induction fields with
  | nil => rfl
  | cons field rest ih =>
    dsimp only at ih
    simp [ih, Text.fromUTF8?_bytes]

namespace Scanner

/-- Outside quotes, bytes that are neither a quote nor a row end are taken alike. -/
private theorem feed_of_spot_ne {s : Scanner} (hspot : s.spot ≠ .quoted) {b : UInt8} (hquote : b ≠ RecordFile.quote)
    (hend : isRowEnd b = false) : s.feed b = s.takePlain b := by
  unfold feed
  split
  · rw [hend, if_neg (by decide), if_neg hquote]
  · exact if_neg hquote
  · rfl
  · rename_i hquoted
    exact absurd hquoted hspot
  · exact if_neg hquote

/-- Where a scanner stands in a line without quotes: behind some fields and some characters of the next field. -/
structure InLine (s : Scanner) (line start : Nat) (fields : List (List Char)) (field : List Char) : Prop where
  spot_ne : s.spot ≠ .quoted
  line_eq : s.line = line
  start_eq : s.start = start
  fields_eq : s.fields = (fields.map Text.bytes).reverse
  field_eq : s.field = (Text.bytes field).reverse
  comma_not_mem : ',' ∉ field

/-- Whether the next byte is the first of a line, and a row that begins here is reported at the line `start`. -/
structure AtLine (s : Scanner) (line start : Nat) : Prop extends AtRow s where
  line_eq : s.line = line
  start_eq : s.start = start

/-- A record file begins with its first line. -/
theorem AtLine.initial : Scanner.initial.AtLine 1 1 :=
  ⟨.initial, rfl, rfl⟩

private theorem AtLine.inLine {s : Scanner} {line start : Nat} (h : s.AtLine line start) :
    s.InLine line start [] [] where
  spot_ne := by rw [h.spot_eq]; decide
  line_eq := h.line_eq
  start_eq := h.start_eq
  fields_eq := h.fields_eq
  field_eq := h.field_eq
  comma_not_mem := List.not_mem_nil

/-- Content is taken into the field. -/
private theorem leads_push {bytes : List UInt8} (hne : bytes ≠ []) (hbytes : ∀ b ∈ bytes, IsContent b) {s : Scanner}
    (hspot : s.spot ≠ .quoted) :
    s.Leads bytes { s with spot := .plain, field := bytes.reverse ++ s.field } := by
  induction bytes generalizing s with
  | nil => exact absurd rfl hne
  | cons b rest ih =>
    have hb := hbytes b List.mem_cons_self
    have hline : s.nextLine b = s.line := by
      refine if_neg ?_
      rintro rfl
      exact absurd hb.not_rowEnd (by decide)
    have hfeed : s.feed b = ({ s with spot := .plain, field := b :: s.field }, none) := by
      rw [feed_of_spot_ne hspot hb.ne_quote hb.not_rowEnd, takePlain_content s hb, push, hline]
    refine .cons hfeed ?_
    rw [List.reverse_cons, List.append_assoc]
    cases rest with
    | nil => exact .refl _
    | cons c more =>
      exact ih (List.cons_ne_nil c more) (fun d hd => hbytes d (List.mem_cons_of_mem b hd)) (by simp)

namespace InLine

variable {s : Scanner} {line start : Nat} {fields : List (List Char)} {field : List Char}

private theorem row_eq (h : s.InLine line start fields field) :
    s.row = ⟨start, (fields ++ [field]).map Text.bytes⟩ := by
  unfold row
  rw [h.start_eq, h.fields_eq, h.field_eq, List.reverse_reverse, List.reverse_cons, List.reverse_reverse,
    List.map_append]
  rfl

private theorem leads_comma (h : s.InLine line start fields field) :
    ∃ t, s.Leads [comma] t ∧ t.InLine line start (fields ++ [field]) [] ∧ t.spot ≠ .rowStart := by
  refine ⟨s.endField, .cons ?_ (.refl _), ⟨by simp [endField], h.line_eq, h.start_eq, ?_, rfl, List.not_mem_nil⟩,
    by simp [endField]⟩
  · rw [feed_of_spot_ne h.spot_ne (by decide) (by decide)]
    rfl
  · rw [List.map_append, List.reverse_append, ← h.fields_eq]
    show s.field.reverse :: s.fields = _
    rw [h.field_eq, List.reverse_reverse]
    rfl

private theorem leads_char (h : s.InLine line start fields field) {c : Char}
    (hc : c ≠ ',' ∧ c ≠ '"' ∧ c ≠ '\n' ∧ c ≠ '\r') :
    ∃ t, s.Leads (String.utf8EncodeChar c) t ∧ t.InLine line start fields (field ++ [c]) ∧ t.spot ≠ .rowStart := by
  have hcontent : ∀ b ∈ String.utf8EncodeChar c, IsContent b := by
    intro b hb
    refine isContent_of_mem_bytes (s := [c]) (fun d hd => ?_) (by simpa using hb)
    rwa [List.mem_singleton.1 hd]
  refine ⟨_, leads_push String.utf8EncodeChar_ne_nil hcontent h.spot_ne,
    ⟨by simp, h.line_eq, h.start_eq, h.fields_eq, ?_, ?_⟩, by simp⟩
  · simp [h.field_eq]
  · simp [h.comma_not_mem, Ne.symm hc.1]

/-- The characters of a line lead to its end, with the fields that its commas divide. -/
private theorem leads_line (h : s.InLine line start fields field) {content : List Char} (hcontent : IsLine content) :
    ∃ t fields' field', s.Leads (Text.bytes content) t ∧ t.InLine line start fields' field' ∧
      fields' ++ [field'] = fields ++ (field ++ content).splitOn ',' ∧
      (content ≠ [] ∨ s.spot ≠ .rowStart → t.spot ≠ .rowStart) := by
  induction content generalizing s fields field with
  | nil =>
    refine ⟨s, fields, field, .refl s, h, ?_, by simp⟩
    rw [List.append_nil, List.splitOn_eq_singleton h.comma_not_mem]
  | cons c rest ih =>
    have hrest : IsLine rest := fun d hd => hcontent d (List.mem_cons_of_mem c hd)
    by_cases hc : c = ','
    · subst hc
      obtain ⟨t, hleads, ht, hspot⟩ := h.leads_comma
      obtain ⟨u, fields', field', hleads', hu, hfields, hspot'⟩ := ih ht hrest
      refine ⟨u, fields', field', hleads.trans hleads', hu, ?_, fun _ => hspot' (Or.inr hspot)⟩
      rw [hfields, List.splitOn_append_cons_self, List.splitOn_eq_singleton h.comma_not_mem, List.append_assoc,
        List.nil_append]
    · obtain ⟨t, hleads, ht, hspot⟩ := h.leads_char ⟨hc, hcontent c List.mem_cons_self⟩
      obtain ⟨u, fields', field', hleads', hu, hfields, hspot'⟩ := ih ht hrest
      refine ⟨u, fields', field', hleads.trans hleads', hu, ?_, fun _ => hspot' (Or.inr hspot)⟩
      rw [hfields, List.append_assoc, List.singleton_append]

/-- A row end gives out the row that has begun. -/
private theorem rows_rowEnd (h : s.InLine line start fields field) (hspot : s.spot ≠ .rowStart) {b : UInt8}
    (hb : isRowEnd b = true) :
    ∃ t : Scanner, t.AtLine (s.nextLine b) (s.nextLine b) ∧
      ∀ rest, s.rows (b :: rest) = ⟨start, (fields ++ [field]).map Text.bytes⟩ :: t.rows rest := by
  refine ⟨s.endRow b, ⟨⟨rfl, rfl, rfl⟩, rfl, rfl⟩, fun rest => ?_⟩
  have hcomma : b ≠ comma := by
    rintro rfl
    exact absurd hb (by decide)
  have hquote : b ≠ RecordFile.quote := by
    rintro rfl
    exact absurd hb (by decide)
  have hfeed : s.feed b = (s.endRow b, some s.row) := by
    have htake : s.takePlain b = (s.endRow b, some s.row) := by
      rw [takePlain, if_neg hcomma, if_pos hb]
    unfold feed
    split
    · rename_i hstart
      exact absurd hstart hspot
    · rw [if_neg hquote, htake]
    · exact htake
    · rename_i hquoted
      exact absurd hquoted h.spot_ne
    · rw [if_neg hquote, htake]
  rw [rows, hfeed, h.row_eq]

private theorem rows_nil (h : s.InLine line start fields field) (hspot : s.spot ≠ .rowStart) :
    s.rows [] = [⟨start, (fields ++ [field]).map Text.bytes⟩] := by
  rw [rows, if_neg hspot, h.row_eq]

end InLine

namespace AtLine

variable {s : Scanner} {line start : Nat}

/-- Behind an empty line a row is reported where it would have been reported before. -/
private theorem leads_empty (h : s.AtLine line start) (ending : LineEnd) :
    ∃ t, s.Leads (Text.bytes ending.text) t ∧ t.AtLine (line + 1) start := by
  have hpass (t : Scanner) (ht : t.AtRow) (b : UInt8) (hb : isRowEnd b = true) :
      t.Leads [b] (t.pass .rowStart b) ∧ (t.pass .rowStart b).AtRow := by
    refine ⟨.cons ?_ (.refl _), rfl, ht.fields_eq, ht.field_eq⟩
    unfold feed
    rw [ht.spot_eq]
    exact if_pos hb
  cases ending with
  | lineFeed =>
    obtain ⟨hleads, ht⟩ := hpass s h.toAtRow lineFeed rfl
    exact ⟨_, hleads, ht, congrArg (· + 1) h.line_eq, h.start_eq⟩
  | both =>
    obtain ⟨hleads, ht⟩ := hpass s h.toAtRow carriageReturn rfl
    obtain ⟨hleads', hu⟩ := hpass _ ht lineFeed rfl
    exact ⟨_, hleads.trans hleads', hu, congrArg (· + 1) h.line_eq, h.start_eq⟩

/-- A line with content is a row.  The next row is reported at the next line only behind a line feed alone. -/
theorem rows_line (h : s.AtLine line start) {content : List Char} (hcontent : IsLine content) (hne : content ≠ [])
    (ending : LineEnd) :
    ∃ t : Scanner, t.AtLine (line + 1) (if ending = .lineFeed then line + 1 else line) ∧
      ∀ rest, s.rows (Text.bytes (content ++ ending.text) ++ rest) =
        ⟨start, (content.splitOn ',').map Text.bytes⟩ :: t.rows rest := by
  obtain ⟨u, fields, field, hleads, hu, hfields, hspot⟩ := h.inLine.leads_line hcontent
  have hspot := hspot (Or.inl hne)
  rw [List.nil_append, List.nil_append] at hfields
  cases ending with
  | lineFeed =>
    obtain ⟨t, ht, hrows⟩ := hu.rows_rowEnd hspot (b := lineFeed) rfl
    have hnext : u.nextLine lineFeed = line + 1 := congrArg (· + 1) hu.line_eq
    rw [hnext] at ht
    refine ⟨t, ht, fun rest => ?_⟩
    rw [Text.bytes_append, List.append_assoc, hleads, ← hfields]
    exact hrows rest
  | both =>
    -- the carriage return ends the row, and the line feed is passed over as the first byte of the next
    obtain ⟨t, ht, hrows⟩ := hu.rows_rowEnd hspot (b := carriageReturn) rfl
    have hnext : u.nextLine carriageReturn = line := hu.line_eq
    rw [hnext] at ht
    obtain ⟨v, hleads', hv⟩ := ht.leads_empty .lineFeed
    refine ⟨v, hv, fun rest => ?_⟩
    rw [Text.bytes_append, List.append_assoc, hleads, ← hfields, ← hleads']
    exact hrows _

/-- A line with content is a row, whether or not it has an end. -/
private theorem rows_lastLine (h : s.AtLine line start) {content : List Char} (hcontent : IsLine content)
    (hne : content ≠ []) {rest : List Char} (hrest : ∀ c ∈ rest.head?, c = '\n' ∨ c = '\r') :
    ∃ more, s.rows (Text.bytes (content ++ rest)) = ⟨start, (content.splitOn ',').map Text.bytes⟩ :: more := by
  obtain ⟨u, fields, field, hleads, hu, hfields, hspot⟩ := h.inLine.leads_line hcontent
  have hspot := hspot (Or.inl hne)
  rw [List.nil_append, List.nil_append] at hfields
  rw [Text.bytes_append, hleads, ← hfields]
  cases rest with
  | nil => exact ⟨[], hu.rows_nil hspot⟩
  | cons c rest =>
    rcases hrest c rfl with rfl | rfl
    · obtain ⟨t, -, hrows⟩ := hu.rows_rowEnd hspot (b := lineFeed) rfl
      exact ⟨_, hrows (Text.bytes rest)⟩
    · obtain ⟨t, -, hrows⟩ := hu.rows_rowEnd hspot (b := carriageReturn) rfl
      exact ⟨_, hrows (Text.bytes rest)⟩

end AtLine

end Scanner

private theorem Row.holds_of_lineFields {content : List Char} {r : Record} (h : record? (lineFields content) = some r)
    (start : Nat) : Row.Holds ⟨start, (content.splitOn ',').map Text.bytes⟩ r :=
  ⟨_, Row.texts?_map_bytes start _, h⟩

/-- Lines that are empty or records are read, and a row behind them is reported at `rowLine`. -/
private theorem rows_lines {lines : List FileLine}
    (hlines : ∀ line ∈ lines, line.content = [] ∨ (record? (lineFields line.content)).isSome) :
    ∃ (t : Scanner) (rows : List Row) (table : Table), t.AtLine (lines.length + 1) (rowLine lines) ∧
      List.Forall₂ Row.Holds rows table ∧
      ∀ rest, Scanner.initial.rows (Text.bytes (lines.flatMap FileLine.text) ++ rest) = rows ++ t.rows rest := by
  induction lines using List.reverseRecOn with
  | nil => exact ⟨Scanner.initial, [], [], .initial, .nil, fun _ => rfl⟩
  | append_singleton lines line ih =>
    obtain ⟨t, rows, table, ht, hholds, hrows⟩ := ih fun l hl => hlines l (List.mem_append_left _ hl)
    have htext : (lines ++ [line]).flatMap FileLine.text = lines.flatMap FileLine.text ++ line.text := by
      rw [List.flatMap_append, List.flatMap_singleton]
    rw [htext, rowLine_append, List.length_append, List.length_singleton, Text.bytes_append]
    by_cases hempty : line.content = []
    · obtain ⟨u, hleads, hu⟩ := ht.leads_empty line.ending
      refine ⟨u, rows, table, by rwa [if_pos hempty], hholds, fun rest => ?_⟩
      rw [List.append_assoc, hrows, FileLine.text, hempty, List.nil_append, hleads]
    · obtain ⟨u, hu, hrow⟩ := ht.rows_line line.isLine hempty line.ending
      have hsome := (hlines line (by simp)).resolve_left hempty
      obtain ⟨r, hr⟩ := Option.isSome_iff_exists.1 hsome
      refine ⟨u, rows ++ [_], table ++ [r], ?_,
        List.rel_append hholds (.cons (Row.holds_of_lineFields hr (rowLine lines)) .nil), fun rest => ?_⟩
      · rw [if_neg hempty]
        split at hu
        · rename_i hfeed
          rwa [if_pos hfeed]
        · rename_i hfeed
          rwa [if_neg hfeed]
      · rw [List.append_assoc, hrows, FileLine.text, hrow, List.append_assoc]
        rfl

private theorem tableOfRows_malformed (path : String) (start : Nat) {content : List Char}
    (h : record? (lineFields content) = none) (more : List Row) :
    tableOfRows path .absent (⟨start, (content.splitOn ',').map Text.bytes⟩ :: more) =
      .error (.malformedRecord path start (rowText (lineFields content))) :=
  tableOfRows_cons_of_fault (.malformed (Row.texts?_map_bytes start _) h) more

/-- The first malformed line behind lines that are empty or records is reported at `rowLine`. -/
private theorem decode_malformed {before : List FileLine} {content rest : List Char}
    (hbefore : ∀ line ∈ before, line.content = [] ∨ (record? (lineFields line.content)).isSome)
    (hcontent : IsLine content) (hne : content ≠ []) (hmalformed : record? (lineFields content) = none)
    (hrest : ∀ c ∈ rest.head?, c = '\n' ∨ c = '\r')
    (hmark : (before.flatMap FileLine.text ++ (content ++ rest)).head? ≠ some '\uFEFF') (path : String) :
    decode path .absent (String.ofList (before.flatMap FileLine.text ++ (content ++ rest))).toUTF8 =
      .error (.malformedRecord path (rowLine before) (rowText (lineFields content))) := by
  obtain ⟨t, rows, table, ht, hholds, hrows⟩ := rows_lines hbefore
  obtain ⟨more, hrow⟩ := ht.rows_lastLine hcontent hne hrest
  unfold decode RecordFile.rows
  rw [Text.toUTF8_toList, String.toList_ofList, dropMark_bytes hmark, Text.bytes_append, hrows, hrow]
  rw [tableOfRows_append hholds, tableOfRows_malformed path (rowLine before) hmalformed]
  rfl

end RecordFile

/-- Let a record file have lines that are empty or records, each with its end, and then a line with content that is no
record.  Loading the file reports this line, with its trimmed fields, at `rowLine`: at the line of the last record
before it, or at the next one if that record ends with a line feed alone.  The line reported is never behind the
malformed one, and it is the malformed one exactly when this is the first line or directly follows a record that ends
with a line feed alone. -/
theorem Table.run_load_malformed {before : List RecordFile.FileLine} {content rest : List Char}
    (hbefore : ∀ line ∈ before,
      line.content = [] ∨ (RecordFile.record? (RecordFile.lineFields line.content)).isSome)
    (hcontent : RecordFile.IsLine content) (hne : content ≠ [])
    (hmalformed : RecordFile.record? (RecordFile.lineFields content) = none)
    (hrest : ∀ c ∈ rest.head?, c = '\n' ∨ c = '\r')
    (hmark : (before.flatMap RecordFile.FileLine.text ++ (content ++ rest)).head? ≠ some '\uFEFF')
    {path : String} {store : FileStore}
    (hfile : store.openFile path =
      .file (String.ofList (before.flatMap RecordFile.FileLine.text ++ (content ++ rest))).toUTF8) :
    (Table.load path .absent).run store =
      (.error (.malformedRecord path (RecordFile.rowLine before)
        (RecordFile.rowText (RecordFile.lineFields content))), store) ∧
    RecordFile.rowLine before ≤ before.length + 1 ∧
    (RecordFile.rowLine before = before.length + 1 ↔
      ∀ line ∈ before.getLast?, line.content ≠ [] ∧ line.ending = .lineFeed) := by
  refine ⟨?_, RecordFile.rowLine_le before, RecordFile.rowLine_eq_iff⟩
  rw [Table.run_load hfile, RecordFile.decode_malformed hbefore hcontent hne hmalformed hrest hmark]

/-- A malformed third line behind an empty line and a row. -/
theorem Table.run_load_malformed_third :
    let store : FileStore := ⟨fun location =>
      if location = ["home"] then some .directory
      else if location = ["home", "key1.csv"] then some (.file "\r\n1,+2\n3;4\r\n5,6".toUTF8) else none⟩
    (Table.load "key1.csv" .absent).run store = (.error (.malformedRecord "key1.csv" 3 "3;4"), store) := by
  intro store
  have hone : RecordFile.IsLine ['1', ',', '+', '2'] := by simp [RecordFile.IsLine]
  have hthree : RecordFile.IsLine ['3', ';', '4'] := by simp [RecordFile.IsLine]
  let before : List RecordFile.FileLine := [⟨[], .both, by simp [RecordFile.IsLine]⟩, ⟨_, .lineFeed, hone⟩]
  have hbefore : ∀ line ∈ before,
      line.content = [] ∨ (RecordFile.record? (RecordFile.lineFields line.content)).isSome := by
    simp [before]
    decide
  have hrest : ∀ c ∈ ['\r', '\n', '5', ',', '6'].head?, c = '\n' ∨ c = '\r' := by simp
  have hfile : store.openFile "key1.csv" = .file (String.ofList (before.flatMap RecordFile.FileLine.text ++
      (['3', ';', '4'] ++ ['\r', '\n', '5', ',', '6']))).toUTF8 := by rfl
  have hmark : (before.flatMap RecordFile.FileLine.text ++
      (['3', ';', '4'] ++ ['\r', '\n', '5', ',', '6'])).head? ≠ some '\uFEFF' := by
    simp [before, RecordFile.FileLine.text, RecordFile.LineEnd.text]
  exact (run_load_malformed hbefore hthree (by decide) (by decide) hrest hmark hfile).1

/-- Behind a carriage return and a line feed, the malformed second line is reported as the first. -/
theorem Table.run_load_malformed_carriageReturn :
    let before : List RecordFile.FileLine := [⟨['1', ',', '2'], .both, by simp [RecordFile.IsLine]⟩]
    let text := String.ofList (before.flatMap RecordFile.FileLine.text ++ ['x', '\r', '\n'])
    let store : FileStore := ⟨fun location =>
      if location = ["home"] then some .directory
      else if location = ["home", "in.csv"] then some (.file text.toUTF8) else none⟩
    text = "1,2\r\nx\r\n" ∧
      (Table.load "in.csv" .absent).run store = (.error (.malformedRecord "in.csv" 1 "x"), store) ∧
      (Table.load "in.csv" .absent).run store ≠
        (.error (.malformedRecord "in.csv" (before.length + 1) "x"), store) := by
  intro before text store
  have hload : (Table.load "in.csv" .absent).run store = (.error (.malformedRecord "in.csv" 1 "x"), store) := by
    rfl
  refine ⟨by rfl, hload, ?_⟩
  rw [hload]
  simp [before]

end KeyedFlow
