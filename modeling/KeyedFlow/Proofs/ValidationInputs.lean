import KeyedFlow.Proofs.OptionalHeader
import KeyedFlow.Proofs.Sorting

/-!
# What validation reads

A validation loads the result and then the expected result.  It is unavailable exactly when the result is absent, or
when the result can be read and the expected one is absent (`Validation.perform_eq_ok_iff`).  A result that cannot be
read for another reason is a failure, whether or not the expected one is absent.  Of a file that is read, no row is
left out but a first row without a 64-bit integer (`Table.load_optional_eq_ok_iff`).
-/

namespace KeyedFlow

open Text.Numeral (Denotes IsNumber IsInt64Number)

/-- The tables of the record file at a path, whose first row may be a header. -/
def FileStore.HoldsTable (store : FileStore) (isNumber : List Char → Prop) (path : String) (t : Table) : Prop :=
  ∃ content, store.openFile path = .file content ∧
    RecordFile.HeadedRows isNumber (RecordFile.rows content.data.toList) t

/-- Whether the numbers in the first row of the record file at a path are 64-bit integers. -/
def FileStore.FirstNumbersFit (store : FileStore) (path : String) : Prop :=
  ∀ content, store.openFile path = .file content →
    ∀ first ∈ (RecordFile.rows content.data.toList).head?, first.NumbersFit

private theorem RecordFile.decode_eq_error {path : String} {header : Header} {b : ByteArray} {failure : Failure}
    (h : decode path header b = .error failure) : ∃ row ∈ rows b.data.toList, row.Fault path failure := by
  have habsent {rows : List Row} (h : tableOfRows path .absent rows = .error failure) :
      ∃ row ∈ rows, row.Fault path failure := by
    obtain ⟨index, h⟩ := tableOfRows_eq_error_iff.1 h
    exact h.exists_fault
  unfold decode at h
  cases header with
  | absent => exact habsent h
  | optional =>
    cases hrows : rows b.data.toList with
    | nil =>
      rw [hrows] at h
      cases h
    | cons first rest =>
      rw [hrows] at h
      by_cases hfirst : first.IsHeader
      · rw [tableOfRows_of_isHeader hfirst] at h
        obtain ⟨row, hmem, hrow⟩ := habsent h
        exact ⟨row, List.mem_cons_of_mem first hmem, hrow⟩
      · rw [tableOfRows_of_not_isHeader hfirst] at h
        exact habsent h

section

variable {path missing : String} {header : Header} {store : FileStore} {t : Table} {failure : Failure}

private theorem Table.run_load_eq_iff {result : Except Failure Table} :
    (Table.load path header).run store = (result, store) ↔ ((Table.load path header).run store).1 = result := by
  rw [(Table.readsOnly_load path header).run_eq store]
  simp

private theorem Table.load_eq_missingInput_iff :
    (Table.load path header).run store = (.error (.missingInput missing), store) ↔
      store.openFile path = .absent ∧ missing = path := by
  unfold Table.load
  rw [DiskAction.run_bind, DiskAction.run_openFile]
  cases store.openFile path with
  | file content =>
    constructor
    · intro h
      obtain ⟨row, -, hrow⟩ := RecordFile.decode_eq_error (congrArg Prod.fst h)
      cases hrow
    · rintro ⟨h, -⟩
      cases h
  | absent => simp [eq_comm]
  | directory | blocked => simp

/-- Where headers are allowed, the rows of a file are read, except for a first row without a 64-bit integer. -/
theorem Table.load_optional_eq_ok_iff :
    (Table.load path .optional).run store = (.ok t, store) ↔ store.HoldsTable IsInt64Number path t := by
  unfold Table.load FileStore.HoldsTable
  rw [DiskAction.run_bind, DiskAction.run_openFile]
  cases store.openFile path with
  | file content =>
    simp [RecordFile.decode, RecordFile.tableOfRows_optional_eq_ok_iff]
  | directory | absent | blocked => simp

private theorem FileStore.holdsTable_isNumber_iff (hfit : store.FirstNumbersFit path) :
    store.HoldsTable IsInt64Number path t ↔ store.HoldsTable IsNumber path t := by
  constructor
  · rintro ⟨content, hfile, h⟩
    exact ⟨content, hfile, h.isNumber (hfit content hfile)⟩
  · rintro ⟨content, hfile, h⟩
    exact ⟨content, hfile, h.isInt64Number⟩

end

namespace Validation

variable {generatedPath expectedPath missing : String} {store : FileStore} {generated expected : Table}
  {failure : Failure} {validation : Validation}

/-- Tables that can be loaded are compared. -/
theorem run_perform (hgenerated : ((Table.load generatedPath .optional).run store).1 = .ok generated)
    (hexpected : ((Table.load expectedPath .optional).run store).1 = .ok expected) :
    (perform generatedPath expectedPath).run store = (.ok (compare generated expected), store) := by
  unfold perform
  rw [DiskAction.run_bind, (Table.readsOnly_load _ _).run_eq store, hgenerated]
  dsimp only
  rw [DiskAction.run_bind, (Table.readsOnly_load _ _).run_eq store, hexpected]
  rfl

private theorem run_perform_of_generated (h : ((Table.load generatedPath .optional).run store).1 = .error failure) :
    (perform generatedPath expectedPath).run store = (ofFailure failure, store) := by
  unfold perform
  rw [DiskAction.run_bind, (Table.readsOnly_load _ _).run_eq store, h]
  rfl

private theorem run_perform_of_expected
    (hgenerated : ((Table.load generatedPath .optional).run store).1 = .ok generated)
    (h : ((Table.load expectedPath .optional).run store).1 = .error failure) :
    (perform generatedPath expectedPath).run store = (ofFailure failure, store) := by
  unfold perform
  rw [DiskAction.run_bind, (Table.readsOnly_load _ _).run_eq store, hgenerated]
  dsimp only
  rw [DiskAction.run_bind, (Table.readsOnly_load _ _).run_eq store, h]
  rfl

private theorem ofFailure_eq_ok_iff :
    ofFailure failure = .ok validation ↔
      ∃ missing, failure = .missingInput missing ∧ validation = .unavailable missing := by
  cases failure <;> simp [ofFailure, eq_comm]

/-- How a validation ends without a failure. -/
inductive Ends (store : FileStore) (generatedPath expectedPath : String) : Validation → Prop where
  | noGenerated (hgenerated : store.openFile generatedPath = .absent) :
      Ends store generatedPath expectedPath (.unavailable generatedPath)
  | noExpected {generated : Table}
      (hgenerated : (Table.load generatedPath .optional).run store = (.ok generated, store))
      (hexpected : store.openFile expectedPath = .absent) :
      Ends store generatedPath expectedPath (.unavailable expectedPath)
  | compared {generated expected : Table}
      (hgenerated : (Table.load generatedPath .optional).run store = (.ok generated, store))
      (hexpected : (Table.load expectedPath .optional).run store = (.ok expected, store)) :
      Ends store generatedPath expectedPath (compare generated expected)

/-- A validation has a result exactly in one of the ways in which it can end. -/
theorem perform_eq_ok_iff :
    (perform generatedPath expectedPath).run store = (.ok validation, store) ↔
      Ends store generatedPath expectedPath validation := by
  constructor
  · intro h
    cases hgenerated : ((Table.load generatedPath .optional).run store).1 with
    | error failure =>
      rw [run_perform_of_generated hgenerated] at h
      obtain ⟨missing, rfl, rfl⟩ := ofFailure_eq_ok_iff.1 (congrArg Prod.fst h)
      obtain ⟨habsent, rfl⟩ := Table.load_eq_missingInput_iff.1 (Table.run_load_eq_iff.2 hgenerated)
      exact .noGenerated habsent
    | ok generated =>
      cases hexpected : ((Table.load expectedPath .optional).run store).1 with
      | error failure =>
        rw [run_perform_of_expected hgenerated hexpected] at h
        obtain ⟨missing, rfl, rfl⟩ := ofFailure_eq_ok_iff.1 (congrArg Prod.fst h)
        obtain ⟨habsent, rfl⟩ := Table.load_eq_missingInput_iff.1 (Table.run_load_eq_iff.2 hexpected)
        exact .noExpected (Table.run_load_eq_iff.2 hgenerated) habsent
      | ok expected =>
        rw [run_perform hgenerated hexpected] at h
        cases h
        exact .compared (Table.run_load_eq_iff.2 hgenerated) (Table.run_load_eq_iff.2 hexpected)
  · intro h
    cases h with
    | noGenerated hgenerated =>
      have hmissing : (Table.load generatedPath .optional).run store = (.error (.missingInput generatedPath), store) :=
        Table.load_eq_missingInput_iff.2 ⟨hgenerated, rfl⟩
      exact run_perform_of_generated (Table.run_load_eq_iff.1 hmissing)
    | noExpected hgenerated hexpected =>
      have hmissing : (Table.load expectedPath .optional).run store = (.error (.missingInput expectedPath), store) :=
        Table.load_eq_missingInput_iff.2 ⟨hexpected, rfl⟩
      exact run_perform_of_expected (Table.run_load_eq_iff.1 hgenerated) (Table.run_load_eq_iff.1 hmissing)
    | compared hgenerated hexpected =>
      exact run_perform (Table.run_load_eq_iff.1 hgenerated) (Table.run_load_eq_iff.1 hexpected)

/-- An absent file that has been asked for is what a validation is unavailable for. -/
private theorem Ends.absent_of_unavailable (h : Ends store generatedPath expectedPath (.unavailable missing)) :
    (missing = generatedPath ∨ missing = expectedPath) ∧ store.openFile missing = .absent := by
  generalize hvalidation : unavailable missing = validation at h
  cases h with
  | noGenerated hgenerated =>
    cases hvalidation
    exact ⟨Or.inl rfl, hgenerated⟩
  | noExpected _ hexpected =>
    cases hvalidation
    exact ⟨Or.inr rfl, hexpected⟩
  | compared =>
    unfold compare at hvalidation
    split at hvalidation <;> cases hvalidation

private theorem run_perform_of_present (hpresent : store.openFile generatedPath ≠ .absent)
    (h : (Table.load generatedPath .optional).run store = (.error failure, store)) :
    (perform generatedPath expectedPath).run store = (.error failure, store) := by
  have hne : ∀ missing, failure ≠ .missingInput missing := by
    rintro missing rfl
    exact hpresent (Table.load_eq_missingInput_iff.1 h).1
  rw [run_perform_of_generated (Table.run_load_eq_iff.1 h)]
  cases failure with
  | missingInput missing => exact absurd rfl (hne missing)
  | _ => rfl

/-- A validation reports an absent result, and an absent expected result behind a result that can be read, and it
reports no other file as missing.  A result that is there and cannot be read is a failure, even if the expected one is
absent. -/
theorem perform_missing (generatedPath expectedPath : String) (store : FileStore) :
    (store.openFile generatedPath = .absent →
      (perform generatedPath expectedPath).run store = (.ok (.unavailable generatedPath), store)) ∧
    (store.openFile expectedPath = .absent →
      ∀ generated, (Table.load generatedPath .optional).run store = (.ok generated, store) →
        (perform generatedPath expectedPath).run store = (.ok (.unavailable expectedPath), store)) ∧
    (store.openFile generatedPath ≠ .absent →
      ∀ failure, (Table.load generatedPath .optional).run store = (.error failure, store) →
        (perform generatedPath expectedPath).run store = (.error failure, store)) ∧
    ∀ missing, (perform generatedPath expectedPath).run store = (.ok (.unavailable missing), store) →
      (missing = generatedPath ∨ missing = expectedPath) ∧ store.openFile missing = .absent :=
  ⟨fun hgenerated => perform_eq_ok_iff.2 (.noGenerated hgenerated),
    fun hexpected _ hgenerated => perform_eq_ok_iff.2 (.noExpected hgenerated hexpected),
    fun hpresent _ h => run_perform_of_present hpresent h,
    fun _ h => (perform_eq_ok_iff.1 h).absent_of_unavailable⟩

/-- A result without an expected table, and the two paths in each other's place. -/
theorem perform_missing_expected :
    let store : FileStore := ⟨fun location =>
      if location = ["home"] then some .directory
      else if location = ["home", "result.csv"] then some (.file "1,2\n".toUTF8) else none⟩
    store.openFile "expected.csv" = .absent ∧
      (Table.load "result.csv" .optional).run store = (.ok [⟨1, 2⟩], store) ∧
      (perform "result.csv" "expected.csv").run store = (.ok (.unavailable "expected.csv"), store) ∧
      (perform "expected.csv" "result.csv").run store = (.ok (.unavailable "expected.csv"), store) := by
  intro store
  have habsent : store.openFile "expected.csv" = .absent := by rfl
  have hload : (Table.load "result.csv" .optional).run store = (.ok [⟨1, 2⟩], store) := by rfl
  exact ⟨habsent, hload, (perform_missing "result.csv" "expected.csv" store).2.1 habsent _ hload,
    (perform_missing "expected.csv" "result.csv" store).1 habsent⟩

/-- A malformed result hides that the expected one is absent. -/
theorem perform_missing_malformed :
    let store : FileStore := ⟨fun location =>
      if location = ["home"] then some .directory
      else if location = ["home", "result.csv"] then some (.file "1,x\n".toUTF8) else none⟩
    store.openFile "expected.csv" = .absent ∧
      (perform "result.csv" "expected.csv").run store =
        (.error (.malformedRecord "result.csv" 1 "1,x"), store) ∧
      ∀ missing, (perform "result.csv" "expected.csv").run store ≠ (.ok (.unavailable missing), store) := by
  intro store
  have hperform : (perform "result.csv" "expected.csv").run store =
      (.error (.malformedRecord "result.csv" 1 "1,x"), store) := by rfl
  refine ⟨by rfl, hperform, fun missing h => ?_⟩
  rw [hperform] at h
  cases h

end Validation

/-- Where headers are allowed, a file is read as its rows, one record each and in order, but a first row without a
64-bit integer may be left out.  If the numbers of the first row are 64-bit integers, then the row that is left out
holds no number at all.  A validation that compares two tables has read them so. -/
theorem Table.load_optional_rows (store : FileStore) :
    (∀ path t, (Table.load path .optional).run store = (.ok t, store) ↔ store.HoldsTable IsInt64Number path t) ∧
    (∀ path, store.FirstNumbersFit path →
      ∀ t, (Table.load path .optional).run store = (.ok t, store) ↔ store.HoldsTable IsNumber path t) ∧
    ∀ generatedPath expectedPath validation,
      (Validation.perform generatedPath expectedPath).run store = (.ok validation, store) →
      (∃ missing, validation = .unavailable missing) ∨
      ∃ generated expected, validation = Validation.compare generated expected ∧
        store.HoldsTable IsInt64Number generatedPath generated ∧
        store.HoldsTable IsInt64Number expectedPath expected ∧
        (store.FirstNumbersFit generatedPath → store.HoldsTable IsNumber generatedPath generated) ∧
        (store.FirstNumbersFit expectedPath → store.HoldsTable IsNumber expectedPath expected) := by
  refine ⟨fun path t => load_optional_eq_ok_iff, fun path hfit t => ?_,
    fun generatedPath expectedPath validation h => ?_⟩
  · rw [load_optional_eq_ok_iff, FileStore.holdsTable_isNumber_iff hfit]
  · cases Validation.perform_eq_ok_iff.1 h with
    | noGenerated => exact Or.inl ⟨_, rfl⟩
    | noExpected => exact Or.inl ⟨_, rfl⟩
    | compared hgenerated hexpected =>
      rw [load_optional_eq_ok_iff] at hgenerated hexpected
      exact Or.inr ⟨_, _, rfl, hgenerated, hexpected,
        fun hfit => (FileStore.holdsTable_isNumber_iff hfit).1 hgenerated,
        fun hfit => (FileStore.holdsTable_isNumber_iff hfit).1 hexpected⟩

/-- A line of names in front of a record with a plus sign and a leading zero. -/
theorem Table.load_optional_rows_names :
    let text := "key,value\n+1,-02"
    let store : FileStore := ⟨fun location =>
      if location = ["home"] then some .directory
      else if location = ["home", "expected.csv"] then some (.file text.toUTF8) else none⟩
    store.FirstNumbersFit "expected.csv" ∧
      (Table.load "expected.csv" .optional).run store = (.ok [⟨1, -2⟩], store) ∧
      store.HoldsTable IsNumber "expected.csv" [⟨1, -2⟩] := by
  intro text store
  have hrows : RecordFile.rows text.toUTF8.data.toList =
      [⟨1, [Text.bytes ['k', 'e', 'y'], Text.bytes ['v', 'a', 'l', 'u', 'e']]⟩,
        ⟨2, [Text.bytes ['+', '1'], Text.bytes ['-', '0', '2']]⟩] := by rfl
  have hfit : store.FirstNumbersFit "expected.csv" := by
    rintro content ⟨⟩ first hfirst fields htexts field hmem n hn
    rw [hrows] at hfirst
    cases hfirst
    rw [RecordFile.Row.texts?_pair] at htexts
    cases htexts
    -- neither of the two names is a number
    have hkey : Text.trim ['k', 'e', 'y'] = 'k' :: ['e', 'y'] := by rfl
    have hvalue : Text.trim ['v', 'a', 'l', 'u', 'e'] = 'v' :: ['a', 'l', 'u', 'e'] := by rfl
    rw [hkey, hvalue, List.mem_cons, List.mem_singleton] at hmem
    rcases hmem with rfl | rfl
    · have hdigits := ((Text.Numeral.denotes_iff_of_head_ne (by decide) (by decide)).1 hn).1.2
      exact absurd (hdigits 'k' List.mem_cons_self) (by decide)
    · have hdigits := ((Text.Numeral.denotes_iff_of_head_ne (by decide) (by decide)).1 hn).1.2
      exact absurd (hdigits 'v' List.mem_cons_self) (by decide)
  have hload : (Table.load "expected.csv" .optional).run store = (.ok [⟨1, -2⟩], store) := by rfl
  exact ⟨hfit, hload, ((load_optional_rows store).2.1 "expected.csv" hfit _).1 hload⟩

/-- A first row of two numbers that are no 64-bit integers is left out like a header. -/
theorem Table.load_optional_rows_beyond :
    let text := "99999999999999999999,99999999999999999999\n1,2\n"
    let store : FileStore := ⟨fun location =>
      if location = ["home"] then some .directory
      else if location = ["home", "in.csv"] then some (.file text.toUTF8)
      else if location = ["home", "expected.csv"] then some (.file "1,2\n".toUTF8) else none⟩
    (Table.load "in.csv" .optional).run store = (.ok [⟨1, 2⟩], store) ∧
      ¬store.HoldsTable IsNumber "in.csv" [⟨1, 2⟩] ∧
      (Validation.perform "in.csv" "expected.csv").run store = (.ok .correct, store) := by
  intro text store
  have hload : (Table.load "in.csv" .optional).run store = (.ok [⟨1, 2⟩], store) := by rfl
  have hexpected : (Table.load "expected.csv" .optional).run store = (.ok [⟨1, 2⟩], store) := by rfl
  have hrows : RecordFile.rows text.toUTF8.data.toList =
      [⟨1, [Text.bytes (List.replicate 20 '9'), Text.bytes (List.replicate 20 '9')]⟩,
        ⟨2, [Text.bytes ['1'], Text.bytes ['2']]⟩] := by rfl
  refine ⟨hload, ?_, ?_⟩
  · rintro ⟨content, ⟨⟩, h⟩
    rw [hrows] at h
    cases h with
    | bare h => cases h.length_eq
    | headed htexts hfields _ =>
      rw [RecordFile.Row.texts?_pair] at htexts
      cases htexts
      have htrim : Text.trim (List.replicate 20 '9') = List.replicate 20 '9' := by rfl
      have hdigits : ∀ c ∈ List.replicate 20 '9', c.isDigit = true := by
        intro c hc
        rw [List.eq_of_mem_replicate hc]
        rfl
      rw [htrim] at hfields
      exact hfields _ List.mem_cons_self ⟨_, .unsigned (List.cons_ne_nil _ _) hdigits⟩
  · rw [Validation.run_perform (Table.run_load_eq_iff.1 hload) (Table.run_load_eq_iff.1 hexpected),
      Validation.compare_eq_correct_iff.2 (.refl _)]

end KeyedFlow
