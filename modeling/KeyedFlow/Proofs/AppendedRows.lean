import KeyedFlow.Proofs.LineNumbers
import KeyedFlow.Proofs.RecordRoundTrip

/-!
# Rows behind a written table

Lines are counted from where a scanner begins: a scanner that begins some lines later gives out the same rows, as many
lines later (`RecordFile.Scanner.rows_later`).  Behind a written table the scanner is as at the beginning of a file but
for the lines (`RecordFile.rows_recordChars_append`).  So whatever bytes are appended to the file of a table, they are
read as by themselves, with their rows behind those of the table (`RecordFile.decode_encode_append`).
-/

namespace KeyedFlow

/-- A failure whose line, if it tells one, is counted some lines further. -/
def Failure.later (n : Nat) : Failure → Failure
  | .malformedRecord path line content => .malformedRecord path (line + n) content
  | failure => failure

namespace RecordFile

/-- A row that begins some lines later. -/
def Row.later (n : Nat) (row : Row) : Row :=
  { row with line := row.line + n }

namespace Scanner

/-- A scanner that stands some lines later. -/
def later (n : Nat) (s : Scanner) : Scanner :=
  { s with line := s.line + n, start := s.start + n }

variable (n : Nat) (s : Scanner) (b : UInt8)

private theorem nextLine_later : (s.later n).nextLine b = s.nextLine b + n := by
  unfold nextLine
  split
  · show s.line + n + 1 = s.line + 1 + n
    omega
  · rfl

private theorem push_later (spot : Spot) : (s.later n).push spot b = (s.push spot b).later n := by
  unfold push
  rw [nextLine_later]
  rfl

private theorem pass_later (spot : Spot) : (s.later n).pass spot b = (s.pass spot b).later n := by
  unfold pass
  rw [nextLine_later]
  rfl

private theorem endRow_later : (s.later n).endRow b = (s.endRow b).later n := by
  unfold endRow
  rw [nextLine_later]
  rfl

private theorem takePlain_later :
    (s.later n).takePlain b = ((s.takePlain b).1.later n, (s.takePlain b).2.map (Row.later n)) := by
  unfold takePlain
  split
  · rfl
  · split
    · rw [endRow_later]
      rfl
    · rw [push_later]
      rfl

/-- A byte is taken alike on every line. -/
private theorem feed_later : (s.later n).feed b = ((s.feed b).1.later n, (s.feed b).2.map (Row.later n)) := by
  have hspot : (s.later n).spot = s.spot := rfl
  unfold feed
  rw [hspot, takePlain_later]
  cases s.spot <;> dsimp only <;> split_ifs <;> simp only [pass_later, push_later, Option.map_none]

/-- A scanner some lines later gives out the same rows, which begin as many lines later. -/
theorem rows_later (bytes : List UInt8) : (s.later n).rows bytes = (s.rows bytes).map (Row.later n) := by
  induction bytes generalizing s with
  | nil =>
    show (if s.spot = .rowStart then [] else [(s.later n).row]) = _
    rw [rows]
    split <;> rfl
  | cons b rest ih =>
    rw [rows, rows, feed_later]
    rcases s.feed b with ⟨next, _ | row⟩
    · exact ih next
    · exact congrArg (row.later n :: ·) (ih next)

/-- At the beginning of a line that is also that of the row, nothing but the line is left of what has been read. -/
theorem AtLine.eq_later {s : Scanner} {n : Nat} (h : s.AtLine (n + 1) (n + 1)) : s = Scanner.initial.later n := by
  obtain ⟨spot, line, start, fields, field⟩ := s
  obtain ⟨⟨hspot, hfields, hfield⟩, hline, hstart⟩ := h
  dsimp only at hspot hfields hfield hline hstart
  subst hspot hfields hfield hline hstart
  unfold later Scanner.initial
  rw [Nat.add_comm 1 n]

end Scanner

/-- Rows that begin some lines later are read alike, and a failure is told as many lines later. -/
theorem tableOfRows_later (path : String) (header : Header) (n : Nat) (rows : List Row) :
    tableOfRows path header (rows.map (Row.later n)) = (tableOfRows path header rows).mapError (Failure.later n) := by
  induction rows generalizing header with
  | nil => rfl
  | cons row rest ih =>
    have htexts : (row.later n).texts? = row.texts? := rfl
    rw [List.map_cons, tableOfRows, tableOfRows, htexts]
    cases row.texts? with
    | none => rfl
    | some fields =>
      dsimp only
      cases record? fields with
      | none =>
        dsimp only
        split
        · exact ih .absent
        · rfl
      | some r =>
        dsimp only
        rw [ih]
        cases tableOfRows path .absent rest <;> rfl

/-- The byte order mark. -/
def mark : List UInt8 :=
  [0xEF, 0xBB, 0xBF]

/-- Bytes that do not begin with a byte order mark are left as they are. -/
theorem dropMark_eq_self {bytes : List UInt8} (h : ¬mark <+: bytes) : dropMark bytes = bytes := by
  unfold dropMark
  split
  · exact absurd (List.prefix_append mark _) h
  · rfl

/-- The line of a record, without its end. -/
def recordLine (r : Record) : List Char :=
  (toString r.key).toList ++ ',' :: (toString r.value).toList

private theorem isLine_recordLine (r : Record) : IsLine (recordLine r) := by
  intro c hc
  rw [recordLine, List.mem_append, List.mem_cons] at hc
  rcases hc with hc | rfl | hc
  · exact (spells_ne (Text.Numeral.spells_toString r.key) hc).2
  · decide
  · exact (spells_ne (Text.Numeral.spells_toString r.value) hc).2

private theorem holds_recordLine (line : Nat) (r : Record) :
    Row.Holds ⟨line, ((recordLine r).splitOn ',').map Text.bytes⟩ r := by
  have hkey := Text.Numeral.spells_toString r.key
  have hvalue := Text.Numeral.spells_toString r.value
  have hcomma {n : Int} {s : List Char} (h : Text.Numeral.Spells n s) : ',' ∉ s :=
    fun hc => (spells_ne h hc).1 rfl
  rw [recordLine, List.splitOn_append_cons_self, List.splitOn_eq_singleton (hcomma hkey),
    List.splitOn_eq_singleton (hcomma hvalue)]
  exact Row.holds_of_spells line (hkey.trim_eq.symm ▸ hkey) (hvalue.trim_eq.symm ▸ hvalue)

/-- A written table takes a scanner as many lines further as it has records. -/
private theorem rows_recordChars {s : Scanner} {line : Nat} (hs : s.AtLine line line) (t : Table) :
    ∃ (u : Scanner) (rows : List Row), u.AtLine (line + t.length) (line + t.length) ∧
      List.Forall₂ Row.Holds rows t ∧
      ∀ rest, s.rows (Text.bytes (t.flatMap recordChars) ++ rest) = rows ++ u.rows rest := by
  induction t generalizing s line with
  | nil => exact ⟨s, [], hs, .nil, fun _ => rfl⟩
  | cons r t ih =>
    have hne : recordLine r ≠ [] := List.append_ne_nil_of_right_ne_nil _ (List.cons_ne_nil _ _)
    obtain ⟨u, hu, hrow⟩ := hs.rows_line (isLine_recordLine r) hne .lineFeed
    rw [if_pos rfl] at hu
    obtain ⟨v, rows, hv, hholds, hrows⟩ := ih hu
    refine ⟨v, _ :: rows, ?_, .cons (holds_recordLine line r) hholds, fun rest => ?_⟩
    · rwa [List.length_cons, Nat.add_comm t.length, ← Nat.add_assoc]
    · have hchars : recordChars r = recordLine r ++ LineEnd.lineFeed.text := rfl
      rw [List.flatMap_cons, hchars, Text.bytes_append, List.append_assoc, hrow, hrows]
      rfl

private theorem head?_recordChars_ne (t : Table) : (t.flatMap recordChars).head? ≠ some '\uFEFF' :=
  fun h => absurd ((rowsText_recordChars t).toNat_le (List.mem_of_mem_head? h)) (by decide)

/-- The rows behind a written table are those of the bytes by themselves. -/
theorem rows_recordChars_append (t : Table) {bytes : List UInt8} (hbytes : ¬mark <+: bytes) :
    ∃ before, List.Forall₂ Row.Holds before t ∧
      rows (Text.bytes (t.flatMap recordChars) ++ bytes) = before ++ (rows bytes).map (Row.later t.length) := by
  obtain ⟨u, before, hu, hholds, hrows⟩ := rows_recordChars .initial t
  have hmark : dropMark (Text.bytes (t.flatMap recordChars) ++ bytes) =
      Text.bytes (t.flatMap recordChars) ++ bytes := by
    by_cases ht : t.flatMap recordChars = []
    · rw [ht]
      exact dropMark_eq_self hbytes
    · exact dropMark_bytes_append ht (head?_recordChars_ne t) bytes
  refine ⟨before, hholds, ?_⟩
  rw [Nat.add_comm] at hu
  rw [rows, hmark, hrows, hu.eq_later, Scanner.rows_later, rows, dropMark_eq_self hbytes]

private theorem bytes_encode_append (t : Table) (b : ByteArray) :
    ((encode t).toUTF8 ++ b).data.toList = Text.bytes (t.flatMap recordChars) ++ b.data.toList := by
  rw [Text.toUTF8_append_toList, encode, String.toList_ofList]

/-- Bytes that are appended to a written table are read behind it as by themselves. -/
private theorem decode_append (path : String) (t : Table) {b : ByteArray} (hb : ¬mark <+: b.data.toList) :
    decode path .absent ((encode t).toUTF8 ++ b) =
      ((decode path .absent b).mapError (Failure.later t.length)).map (t ++ ·) := by
  obtain ⟨before, hholds, hrows⟩ := rows_recordChars_append t hb
  rw [decode, bytes_encode_append, hrows, tableOfRows_append hholds, tableOfRows_later]
  rfl

/-- Let some bytes be appended to the file of a table.  If the bytes are a record file by themselves, its rows follow
those of the table.  If a record of theirs is malformed, it is reported with the same content, as many lines later as
the table has records; and if they are no text, neither is the file.  Unless the table is empty, nothing of this depends
on whether a header is allowed. -/
theorem decode_encode_append (path : String) (t : Table) {b : ByteArray} (hb : ¬mark <+: b.data.toList) :
    (∀ u, decode path .absent b = .ok u → decode path .absent ((encode t).toUTF8 ++ b) = .ok (t ++ u)) ∧
    (∀ line content, decode path .absent b = .error (.malformedRecord path line content) →
      decode path .absent ((encode t).toUTF8 ++ b) = .error (.malformedRecord path (line + t.length) content)) ∧
    (decode path .absent b = .error .recordFormat →
      decode path .absent ((encode t).toUTF8 ++ b) = .error .recordFormat) ∧
    (t ≠ [] → decode path .optional ((encode t).toUTF8 ++ b) = decode path .absent ((encode t).toUTF8 ++ b)) := by
  have hdecode := decode_append path t hb
  refine ⟨fun u hu => ?_, fun line content hu => ?_, fun hu => ?_, fun ht => ?_⟩
  · rw [hdecode, hu]
    rfl
  · rw [hdecode, hu]
    rfl
  · rw [hdecode, hu]
    rfl
  · obtain ⟨before, hholds, hrows⟩ := rows_recordChars_append t hb
    rw [decode, decode, bytes_encode_append, hrows]
    cases hholds with
    | nil => exact absurd rfl ht
    | cons hrow _ => exact tableOfRows_of_not_isHeader hrow.not_isHeader path _

/-- A malformed third line of the appended bytes is the fifth line of the file behind a table of two records. -/
theorem decode_encode_append_malformed :
    let t : Table := [⟨1, 2⟩, ⟨-3, 4⟩]
    let b : ByteArray := "\r\n5,\"6\"\nx,7".toUTF8
    ¬mark <+: b.data.toList ∧
      decode "result.csv" .absent b = .error (.malformedRecord "result.csv" 3 "x,7") ∧
      decode "result.csv" .absent ((encode t).toUTF8 ++ b) = .error (.malformedRecord "result.csv" 5 "x,7") ∧
      decode "result.csv" .optional ((encode t).toUTF8 ++ b) = .error (.malformedRecord "result.csv" 5 "x,7") := by
  intro t b
  have hb : ¬mark <+: b.data.toList := by decide
  have hmalformed : decode "result.csv" .absent b = .error (.malformedRecord "result.csv" 3 "x,7") := by rfl
  obtain ⟨-, hline, -, hheader⟩ := decode_encode_append "result.csv" t hb
  have happended := hline 3 "x,7" hmalformed
  exact ⟨hb, hmalformed, happended, (hheader (List.cons_ne_nil _ _)).trans happended⟩

end RecordFile

end KeyedFlow
