import KeyedFlow.RecordFile.Row

/-!
# Scanning a row piece by piece

A scanner that stands at the beginning of a field is led behind the field by the bytes of a bare field
(`Scanner.AtField.leads_bare`) or of a quoted one (`Scanner.AtField.leads_quoted`), and from there to the next field by
a comma (`Scanner.BehindField.leads_comma`).  Behind a field, a row end or the end of the file gives out the row.
-/

namespace KeyedFlow.RecordFile

/-- Whether a byte is content wherever it stands. -/
structure IsContent (b : UInt8) : Prop where
  ne_comma : b ≠ comma
  ne_quote : b ≠ quote
  not_rowEnd : isRowEnd b = false

namespace Scanner

/-- Whether some bytes lead from a scanner to another one, without ending a row on the way. -/
def Leads (s : Scanner) (bytes : List UInt8) (t : Scanner) : Prop :=
  ∀ rest, s.rows (bytes ++ rest) = t.rows rest

/-- Whether the next byte is the first of a row. -/
structure AtRow (s : Scanner) : Prop where
  spot_eq : s.spot = .rowStart
  fields_eq : s.fields = []
  field_eq : s.field = []

/-- Whether the next byte is the first of a field, which follows the given fields. -/
structure AtField (s : Scanner) (fields : List (List UInt8)) : Prop where
  spot_eq : s.spot = .rowStart ∨ s.spot = .fieldStart
  fields_eq : s.fields = fields.reverse
  field_eq : s.field = []

/-- Whether the last field of a row can end here; it has the given content and follows the given fields. -/
structure BehindField (s : Scanner) (fields : List (List UInt8)) (field : List UInt8) : Prop where
  spot_eq : s.spot = .plain ∨ s.spot = .quote
  fields_eq : s.fields = fields.reverse
  field_eq : s.field = field.reverse

theorem Leads.refl (s : Scanner) : s.Leads [] s :=
  fun _ => rfl

theorem Leads.trans {s t u : Scanner} {first second : List UInt8} (h : s.Leads first t) (h' : t.Leads second u) :
    s.Leads (first ++ second) u := by
  intro rest
  rw [List.append_assoc, h, h']

theorem Leads.cons {s t u : Scanner} {b : UInt8} {bytes : List UInt8} (h : s.feed b = (t, none))
    (h' : t.Leads bytes u) : s.Leads (b :: bytes) u := by
  intro rest
  rw [List.cons_append, rows, h]
  exact h' rest

/-- Content is taken into the current field. -/
theorem takePlain_content (s : Scanner) {b : UInt8} (h : IsContent b) : s.takePlain b = (s.push .plain b, none) := by
  unfold takePlain
  rw [if_neg h.ne_comma, if_neg (by rw [h.not_rowEnd]; decide)]

theorem AtRow.atField {s : Scanner} (h : s.AtRow) : s.AtField [] :=
  ⟨Or.inl h.spot_eq, h.fields_eq, h.field_eq⟩

theorem AtRow.initial : Scanner.initial.AtRow :=
  ⟨rfl, rfl, rfl⟩

/-- Line ends where a row would begin are passed over. -/
theorem AtRow.leads_rowEnd {s : Scanner} (h : s.AtRow) {b : UInt8} (hb : isRowEnd b = true) :
    ∃ t, s.Leads [b] t ∧ t.AtRow := by
  refine ⟨s.pass .rowStart b, .cons ?_ (.refl _), ⟨rfl, h.fields_eq, h.field_eq⟩⟩
  unfold feed
  rw [h.spot_eq]
  exact if_pos hb

namespace BehindField

variable {s : Scanner} {fields : List (List UInt8)} {field : List UInt8}

private theorem row_eq (h : s.BehindField fields field) : s.row = ⟨s.start, fields ++ [field]⟩ := by
  unfold row
  rw [h.fields_eq, h.field_eq, List.reverse_reverse, List.reverse_cons, List.reverse_reverse]

/-- Behind a field all but a quote is taken as outside quotes. -/
private theorem feed_eq (h : s.BehindField fields field) {b : UInt8} (hb : b ≠ RecordFile.quote) :
    s.feed b = s.takePlain b := by
  unfold feed
  rcases h.spot_eq with hspot | hspot
  · rw [hspot]
  · rw [hspot]
    exact if_neg hb

/-- What follows a field without a comma or a line end belongs to the field. -/
private theorem leads_content (h : s.BehindField fields field) {bytes : List UInt8}
    (hbytes : ∀ b ∈ bytes, IsContent b) :
    ∃ t, s.Leads bytes t ∧ t.BehindField fields (field ++ bytes) := by
  induction bytes generalizing s field with
  | nil => exact ⟨s, .refl s, (List.append_nil field).symm ▸ h⟩
  | cons b rest ih =>
    have hb := hbytes b List.mem_cons_self
    have hpush : (s.push .plain b).BehindField fields (field ++ [b]) :=
      ⟨Or.inl rfl, h.fields_eq, by rw [List.reverse_append, ← h.field_eq]; rfl⟩
    obtain ⟨t, hleads, ht⟩ := ih hpush fun c hc => hbytes c (List.mem_cons_of_mem _ hc)
    refine ⟨t, .cons ?_ hleads, ?_⟩
    · rw [h.feed_eq hb.ne_quote, takePlain_content s hb]
    · rwa [List.append_assoc] at ht

/-- Behind a field, a comma leads to the next field. -/
theorem leads_comma (h : s.BehindField fields field) : ∃ t, s.Leads [comma] t ∧ t.AtField (fields ++ [field]) := by
  refine ⟨s.endField, .cons ?_ (.refl _), ⟨Or.inr rfl, ?_, rfl⟩⟩
  · rw [h.feed_eq (by decide)]
    rfl
  · rw [List.reverse_append, ← h.fields_eq]
    show s.field.reverse :: s.fields = _
    rw [h.field_eq, List.reverse_reverse]
    rfl

/-- A line end gives out the row, and the next byte is the first of a row. -/
theorem rows_rowEnd (h : s.BehindField fields field) {b : UInt8} (hb : isRowEnd b = true) :
    ∃ t : Scanner, t.AtRow ∧ ∀ rest, s.rows (b :: rest) = ⟨s.start, fields ++ [field]⟩ :: t.rows rest := by
  refine ⟨s.endRow b, ⟨rfl, rfl, rfl⟩, fun rest => ?_⟩
  have hcomma : b ≠ comma := by
    rintro rfl
    exact absurd hb (by decide)
  have hquote : b ≠ RecordFile.quote := by
    rintro rfl
    exact absurd hb (by decide)
  rw [rows, h.feed_eq hquote, takePlain, if_neg hcomma, if_pos hb, h.row_eq]

/-- Behind a field, the end of the file gives out the row. -/
theorem rows_nil (h : s.BehindField fields field) : s.rows [] = [⟨s.start, fields ++ [field]⟩] := by
  have hspot : s.spot ≠ .rowStart := by
    rcases h.spot_eq with hspot | hspot
    · rw [hspot]
      decide
    · rw [hspot]
      decide
  rw [rows, if_neg hspot, h.row_eq]

end BehindField

namespace AtField

variable {s : Scanner} {fields : List (List UInt8)}

private theorem feed_content (h : s.AtField fields) {b : UInt8} (hb : IsContent b) :
    s.feed b = (s.push .plain b, none) := by
  unfold feed
  rcases h.spot_eq with hspot | hspot
  · rw [hspot]
    dsimp only
    rw [hb.not_rowEnd, if_neg (by decide), if_neg hb.ne_quote, takePlain_content s hb]
  · rw [hspot]
    dsimp only
    rw [if_neg hb.ne_quote, takePlain_content s hb]

/-- The bytes of a bare field lead behind it. -/
theorem leads_bare (h : s.AtField fields) {bytes : List UInt8} (hne : bytes ≠ [])
    (hbytes : ∀ b ∈ bytes, IsContent b) : ∃ t, s.Leads bytes t ∧ t.BehindField fields bytes := by
  cases bytes with
  | nil => exact absurd rfl hne
  | cons b rest =>
    have hpush : (s.push .plain b).BehindField fields [b] :=
      ⟨Or.inl rfl, h.fields_eq, by show b :: s.field = _; rw [h.field_eq]; rfl⟩
    obtain ⟨t, hleads, ht⟩ := hpush.leads_content fun c hc => hbytes c (List.mem_cons_of_mem _ hc)
    exact ⟨t, .cons (h.feed_content (hbytes b List.mem_cons_self)) hleads, ht⟩

private theorem feed_quote (h : s.AtField fields) :
    s.feed RecordFile.quote = (s.pass .quoted RecordFile.quote, none) := by
  unfold feed
  rcases h.spot_eq with hspot | hspot
  · rw [hspot]
    rfl
  · rw [hspot]
    rfl

end AtField

private theorem leads_inside {s : Scanner} (hspot : s.spot = .quoted) {bytes : List UInt8}
    (hbytes : RecordFile.quote ∉ bytes) :
    ∃ t, s.Leads bytes t ∧ t.spot = .quoted ∧ t.fields = s.fields ∧ t.field = bytes.reverse ++ s.field := by
  induction bytes generalizing s with
  | nil => exact ⟨s, .refl s, hspot, rfl, rfl⟩
  | cons b rest ih =>
    rw [List.mem_cons, not_or] at hbytes
    obtain ⟨hb, hrest⟩ := hbytes
    obtain ⟨t, hleads, ht, hfields, hfield⟩ := ih (s := s.push .quoted b) rfl hrest
    refine ⟨t, .cons ?_ hleads, ht, hfields, ?_⟩
    · unfold feed
      rw [hspot]
      exact if_neg (Ne.symm hb)
    · rw [hfield, List.reverse_cons, List.append_assoc]
      rfl

/-- The bytes of a quoted field lead behind it. -/
theorem AtField.leads_quoted {s : Scanner} {fields : List (List UInt8)} (h : s.AtField fields)
    {inside after : List UInt8} (hinside : RecordFile.quote ∉ inside) (hafter : ∀ b ∈ after, IsContent b) :
    ∃ t, s.Leads (RecordFile.quote :: (inside ++ RecordFile.quote :: after)) t ∧
      t.BehindField fields (inside ++ after) := by
  obtain ⟨t, hleads, hspot, hfields, hfield⟩ :=
    leads_inside (s := s.pass .quoted RecordFile.quote) rfl hinside
  have hclose : (t.pass .quote RecordFile.quote).BehindField fields inside := by
    refine ⟨Or.inr rfl, hfields.trans h.fields_eq, hfield.trans ?_⟩
    show inside.reverse ++ s.field = _
    rw [h.field_eq, List.append_nil]
  have hfeed : t.feed RecordFile.quote = (t.pass .quote RecordFile.quote, none) := by
    unfold feed
    rw [hspot]
    rfl
  obtain ⟨u, hleads', hu⟩ := hclose.leads_content hafter
  exact ⟨u, .cons h.feed_quote (hleads.trans (.cons hfeed hleads')), hu⟩

end Scanner

end KeyedFlow.RecordFile
