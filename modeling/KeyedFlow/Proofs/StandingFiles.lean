import KeyedFlow.Proofs.Locations

/-!
# Files that stay as they are

What is loaded from a path depends on nothing but what opening the path finds (`Table.load_congr`,
`loadDocument_congr`).  Saving a table does not touch a file that the path of the table does not lead to
(`Table.resolve_of_save`), and saving a table where it is already leaves the whole store as it is
(`Table.run_save_of_resolve`): its directories exist, and the file gets the content that it has.
-/

namespace KeyedFlow

section

variable {store other : FileStore} {path : String}

/-- A table is loaded alike from stores that have the same file at its path. -/
theorem Table.load_congr (h : other.openFile path = store.openFile path) (header : Header) :
    ((Table.load path header).run other).1 = ((Table.load path header).run store).1 := by
  unfold Table.load
  rw [DiskAction.run_bind, DiskAction.run_openFile, DiskAction.run_bind, DiskAction.run_openFile, h]
  cases store.openFile path <;> rfl

private theorem loadText_congr (h : other.openFile path = store.openFile path) :
    ((loadText path).run other).1 = ((loadText path).run store).1 := by
  unfold loadText
  rw [DiskAction.run_bind, DiskAction.run_openFile, DiskAction.run_bind, DiskAction.run_openFile, h]
  cases store.openFile path with
  | file content =>
    dsimp only
    cases String.fromUTF8? content <;> rfl
  | directory | absent | blocked => rfl

/-- A document is loaded alike from stores that have the same file at its path. -/
theorem loadDocument_congr {α : Type} (parse : String → String → Except Failure α)
    (h : other.openFile path = store.openFile path) :
    ((loadDocument parse path).run other).1 = ((loadDocument parse path).run store).1 := by
  unfold loadDocument
  rw [DiskAction.run_bind, DiskAction.run_bind, loadText_congr h]
  cases ((loadText path).run store).1 <;> rfl

private theorem FileStore.exists_resolve_of_openFile {content : ByteArray} (h : store.openFile path = .file content) :
    ∃ location, store.resolve path = .file location content := by
  unfold FileStore.openFile at h
  cases hresolve : store.resolve path with
  | file location found =>
    rw [hresolve] at h
    cases h
    exact ⟨location, rfl⟩
  | directory | free | absent | blocked =>
    rw [hresolve] at h
    cases h

/-- A table that has been loaded is in a file. -/
theorem Table.exists_resolve_of_load {header : Header} {t : Table}
    (h : ((Table.load path header).run store).1 = .ok t) :
    ∃ location content, store.resolve path = .file location content := by
  unfold Table.load at h
  rw [DiskAction.run_bind, DiskAction.run_openFile] at h
  cases hopen : store.openFile path with
  | file content =>
    obtain ⟨location, hresolve⟩ := FileStore.exists_resolve_of_openFile hopen
    exact ⟨location, content, hresolve⟩
  | directory | absent | blocked =>
    rw [hopen] at h
    cases h

/-- A document that has been loaded is in a file. -/
theorem exists_resolve_of_loadDocument {α : Type} {parse : String → String → Except Failure α} {a : α}
    (h : ((loadDocument parse path).run store).1 = .ok a) :
    ∃ location content, store.resolve path = .file location content := by
  unfold loadDocument loadText at h
  rw [DiskAction.run_bind, DiskAction.run_bind, DiskAction.run_openFile] at h
  cases hopen : store.openFile path with
  | file content =>
    obtain ⟨location, hresolve⟩ := FileStore.exists_resolve_of_openFile hopen
    exact ⟨location, content, hresolve⟩
  | directory | absent | blocked =>
    rw [hopen] at h
    cases h

end

/-- Saving a table leaves a file alone that the path of the table does not lead to. -/
theorem Table.resolve_of_save {path other : String} {t : Table} {store : FileStore} {location : Location}
    {content : ByteArray} (h : store.resolve other = .file location content) (hmeet : ¬Path.Meet path other) :
    ((Table.save path t).run store).2.resolve other = .file location content := by
  have hdirectories : ∀ place, store.entry place = some .directory →
      ((Table.save path t).run store).2.entry place = some .directory :=
    fun _ => DiskAction.directory_run (Table.save path t) store
  have hcontent := FileStore.content?_of_resolve h
  rcases Table.run_save path t store with ⟨after, hrun, hafter⟩ | ⟨after, place, hrun, hafter⟩
  · rw [hrun] at hdirectories ⊢
    exact FileStore.resolve_of_kept hdirectories h ((hafter location).content?_eq.trans hcontent)
  · rw [hrun] at hdirectories ⊢
    by_cases hplace : location = place
    · subst hplace
      have hnow := FileStore.resolve_of_kept hdirectories h (FileStore.content?_of_resolve hafter.resolve_eq)
      exact absurd ⟨_, _, _, hafter.resolve_eq, hnow⟩ hmeet
    · exact FileStore.resolve_of_kept hdirectories h ((hafter.others location hplace).content?_eq.trans hcontent)

namespace Path

private theorem mem_of_mem_segments {s segment : List Char} (h : segment ∈ segments s) {c : Char} (hc : c ∈ segment) :
    c ∈ s := by
  induction s generalizing segment with
  | nil =>
    rw [segments, List.mem_singleton] at h
    rw [h] at hc
    cases hc
  | cons a rest ih =>
    unfold segments at h
    split at h
    · rcases List.mem_cons.1 h with rfl | h
      · cases hc
      · exact List.mem_cons_of_mem a (ih h hc)
    · cases hrest : segments rest with
      | nil => exact absurd hrest (segments_ne_nil rest)
      | cons first more =>
        rw [hrest] at h ih
        rcases List.mem_cons.1 h with rfl | h
        · rcases List.mem_cons.1 hc with rfl | hc
          · exact List.mem_cons_self
          · exact List.mem_cons_of_mem a (ih List.mem_cons_self hc)
        · exact List.mem_cons_of_mem a (ih (List.mem_cons_of_mem first h) hc)

private theorem mem_of_mem_parts {path name : String} (h : .name name ∈ parts path) {c : Char} (hc : c ∈ name.toList) :
    c ∈ path.toList := by
  obtain ⟨segment, hsegment, hpart⟩ := List.mem_map.1 h
  unfold part at hpart
  split at hpart
  · cases hpart
  · split at hpart
    · cases hpart
    · cases hpart
      rw [String.toList_ofList] at hc
      exact mem_of_mem_segments hsegment hc

end Path

namespace FileStore

variable {store : FileStore} {path : String} {location : Location} {content : ByteArray}

private theorem filter_ne_nil_of_follow {start : Location} {parts : List PathPart}
    (h : store.follow start parts = .file location content) : parts.filter (· != .stay) ≠ [] := by
  induction parts generalizing start with
  | nil => cases h
  | cons part rest ih =>
    cases part with
    | stay => exact ih h
    | up | name => exact List.cons_ne_nil _ _

/-- On the way to a file there is no directory to make. -/
private theorem makeDirectories_of_follow {start : Location} {parts : List PathPart}
    (h : store.follow start parts = .file location content) :
    store.makeDirectories start (parts.filter (· != .stay)).dropLast = (store, true) := by
  induction parts generalizing start with
  | nil => cases h
  | cons part rest ih =>
    cases part with
    | stay => exact ih h
    | up =>
      have hnext : store.follow start.dropLast rest = .file location content := h
      rw [List.filter_cons_of_pos rfl, List.dropLast_cons_of_ne_nil (filter_ne_nil_of_follow hnext)]
      exact ih hnext
    | name name =>
      rw [List.filter_cons_of_pos rfl]
      obtain ⟨hdirectory, hrest⟩ | ⟨rfl, -, -⟩ := follow_name_eq_file h
      · rw [List.dropLast_cons_of_ne_nil (filter_ne_nil_of_follow hrest), makeDirectories, hdirectory]
        exact ih hrest
      · rfl

private theorem makeParents_of_resolve (h : store.resolve path = .file location content) :
    store.makeParents path = (store, true) := by
  obtain ⟨hpossible, -, hfollow⟩ := follow_of_resolve h
  have hnul : '\x00' ∉ path.toList := by simpa [Path.isImpossible] using hpossible
  unfold makeParents
  dsimp only
  rw [if_neg]
  · exact makeDirectories_of_follow hfollow
  · rw [List.any_eq_true]
    rintro ⟨part, hpart, hname⟩
    cases part with
    | stay | up => cases hname
    | name name =>
      have hmem : .name name ∈ Path.parts path := (List.mem_filter.1 (List.dropLast_subset _ hpart)).1
      exact hnul (Path.mem_of_mem_parts hmem (List.contains_iff_mem.1 hname))

private theorem set_entry_self {entry : FileEntry} (h : store.entry location = some entry) :
    store.set location (some entry) = store := by
  have hentry : (store.set location (some entry)).entry = store.entry := by
    funext other
    by_cases hother : other = location
    · rw [hother, entry_set_self, h]
    · exact entry_set_of_ne store hother _
  exact congrArg FileStore.mk hentry

private theorem write_of_resolve (h : store.resolve path = .file location content) :
    store.write path content = (store, true) := by
  rw [write_eq, h]
  exact congrArg (·, true) (set_entry_self (entry_of_resolve h))

end FileStore

/-- Saving a table where it is already leaves the store as it is. -/
theorem Table.run_save_of_resolve {path : String} {t : Table} {store : FileStore} {location : Location}
    (h : store.resolve path = .file location (RecordFile.encode t).toUTF8) :
    (Table.save path t).run store = (.ok (), store) := by
  unfold Table.save
  rw [DiskAction.run_bind]
  have hwrite : (DiskAction.writeFile path (RecordFile.encode t).toUTF8).run store = (true, store) := by
    unfold DiskAction.writeFile
    rw [DiskAction.run, FileStore.makeParents_of_resolve h]
    dsimp only
    rw [if_pos rfl, DiskAction.run, FileStore.write_of_resolve h]
    rfl
  rw [hwrite]
  rfl

end KeyedFlow
