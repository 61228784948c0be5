import KeyedFlow.Disk.Load
import KeyedFlow.Proofs.TextBytes

/-!
# Effects of disk actions

Reading leaves the store as it is (`DiskAction.ReadsOnly.run_eq`).  Making the directories on the way of a path adds
directories where nothing was, and changes nothing else (`FileStore.addsDirectories_makeParents`).  Writing a file
either fails without an effect of its own or puts the file where its path then leads, and nowhere else
(`FileStore.write_eq`).  So saving a table changes at most one file, which is the one that is read at its path
afterwards (`Table.run_save`).
-/

namespace KeyedFlow

namespace DiskAction

variable {α β : Type}

/-- Actions that make no directory and write no file. -/
inductive ReadsOnly : DiskAction α → Prop where
  | done (a : α) : ReadsOnly (.done a)
  | read (path : String) {next : Opened → DiskAction α} (h : ∀ opened, ReadsOnly (next opened)) :
      ReadsOnly (.read path next)

namespace ReadsOnly

theorem pure (a : α) : (Pure.pure a : DiskAction α).ReadsOnly :=
  .done a

private theorem openFile (path : String) : (DiskAction.openFile path).ReadsOnly :=
  .read path .done

/-- Actions that only read, one after the other, only read. -/
theorem bind {action : DiskAction α} (h : action.ReadsOnly) {f : α → DiskAction β} (hf : ∀ a, (f a).ReadsOnly) :
    (action >>= f).ReadsOnly := by
  induction h with
  | done a => exact hf a
  | read path _ ih => exact .read path ih

/-- An action that only reads leaves the store as it is. -/
theorem run_eq {action : DiskAction α} (h : action.ReadsOnly) (store : FileStore) :
    action.run store = ((action.run store).1, store) := by
  induction h with
  | done a => rfl
  | read path _ ih => exact ih (store.openFile path)

end ReadsOnly

end DiskAction

/-- Loading a table that is there decodes its content and leaves the store as it is. -/
theorem Table.run_load {path : String} {content : ByteArray} {store : FileStore}
    (h : store.openFile path = .file content) (header : Header) :
    (Table.load path header).run store = (RecordFile.decode path header content, store) := by
  unfold Table.load
  rw [DiskAction.run_bind, DiskAction.run_openFile, h]
  rfl

/-- Loading a table that is not there fails with a missing input. -/
theorem Table.run_load_of_absent {path : String} {store : FileStore} (h : store.openFile path = .absent)
    (header : Header) : (Table.load path header).run store = (.error (.missingInput path), store) := by
  unfold Table.load
  rw [DiskAction.run_bind, DiskAction.run_openFile, h]
  rfl

private theorem run_loadText {path text : String} {store : FileStore} (h : store.openFile path = .file text.toUTF8) :
    (loadText path).run store = (.ok text, store) := by
  unfold loadText
  rw [DiskAction.run_bind, DiskAction.run_openFile, h]
  dsimp only
  rw [fromUTF8?_toUTF8]
  rfl

/-- Loading a document that is there parses its text. -/
theorem run_loadDocument {α : Type} (parse : String → String → Except Failure α) {path text : String}
    {store : FileStore} (h : store.openFile path = .file text.toUTF8) :
    (loadDocument parse path).run store = (parse path text, store) := by
  unfold loadDocument
  rw [DiskAction.run_bind, run_loadText h]
  rfl

open DiskAction in
/-- Loading a table only reads. -/
theorem Table.readsOnly_load (path : String) (header : Header) : (Table.load path header).ReadsOnly := by
  refine (ReadsOnly.openFile path).bind fun opened => ?_
  cases opened <;> exact ReadsOnly.pure _

open DiskAction in
private theorem readsOnly_loadText (path : String) : (loadText path).ReadsOnly := by
  refine (ReadsOnly.openFile path).bind fun opened => ?_
  cases opened with
  | file content =>
    dsimp only
    split <;> exact ReadsOnly.pure _
  | directory | absent | blocked => exact ReadsOnly.pure _

open DiskAction in
/-- Loading a document only reads. -/
theorem readsOnly_loadDocument {α : Type} (parse : String → String → Except Failure α) (path : String) :
    (loadDocument parse path).ReadsOnly := by
  refine (readsOnly_loadText path).bind fun loaded => ?_
  cases loaded <;> exact ReadsOnly.pure _

/-- The location at which a file can be put, if there is one. -/
def Target.writable? : Target → Option Location
  | .file location _ => some location
  | .free location => some location
  | .directory _ | .absent | .blocked => none

namespace FileStore

/-- A path that resolves to a file opens that file. -/
theorem openFile_of_resolve {store : FileStore} {path : String} {location : Location} {content : ByteArray}
    (h : store.resolve path = .file location content) : store.openFile path = .file content := by
  unfold openFile
  rw [h]

@[simp] theorem entry_set_self (store : FileStore) (location : Location) (entry : Option FileEntry) :
    (store.set location entry).entry location = entry := if_pos rfl

/-- Setting an entry leaves all other locations as they are. -/
theorem entry_set_of_ne (store : FileStore) {location other : Location} (h : other ≠ location)
    (entry : Option FileEntry) : (store.set location entry).entry other = store.entry other := if_neg h

/-- The content of the file at a location. -/
def content? (store : FileStore) (location : Location) : Option ByteArray :=
  match store.entry location with
  | some (.file content) => some content
  | _ => none

/-- The locations that names lead to, from a directory and one after the other. -/
def waypoints (location : Location) : List PathPart → List Location
  | [] => []
  | .stay :: rest => waypoints location rest
  | .up :: rest => waypoints location.dropLast rest
  | .name name :: rest => (location ++ [name]) :: waypoints (location ++ [name]) rest

/-- The directories that are passed on the way to a file. -/
def parentLocations (path : String) : List Location :=
  waypoints (origin path) (Path.parentParts path)

/-- Whether a location still has what it had, or is one of some places and has got a directory where nothing was. -/
def KeptOrMade (store after : FileStore) (places : List Location) (location : Location) : Prop :=
  after.entry location = store.entry location ∨
    location ∈ places ∧ store.entry location = none ∧ after.entry location = some .directory

/-- Whether all that has happened to a store is that directories have been made in some places where nothing was. -/
def AddsDirectories (store after : FileStore) (places : List Location) : Prop :=
  ∀ location, KeptOrMade store after places location

theorem AddsDirectories.refl (store : FileStore) (places : List Location) : AddsDirectories store store places :=
  fun _ => Or.inl rfl

/-- Making directories leaves files their content. -/
theorem KeptOrMade.content?_eq {store after : FileStore} {places : List Location} {location : Location}
    (h : KeptOrMade store after places location) : after.content? location = store.content? location := by
  unfold content?
  rcases h with h | ⟨-, hnone, hdirectory⟩
  · rw [h]
  · rw [hnone, hdirectory]

private theorem AddsDirectories.cons {store after : FileStore} {place : Location} {places : List Location}
    (hnone : store.entry place = none)
    (h : AddsDirectories (store.set place (some .directory)) after places) :
    AddsDirectories store after (place :: places) := by
  intro location
  by_cases hl : location = place
  · subst hl
    right
    refine ⟨List.mem_cons_self .., hnone, ?_⟩
    -- there is a directory now, so no other can have been made in its place
    rcases h location with hkept | ⟨-, hfree, -⟩
    · rw [hkept, entry_set_self]
    · rw [entry_set_self] at hfree
      cases hfree
  · rcases h location with hkept | ⟨hmem, hfree, hmade⟩
    · left
      rw [hkept, entry_set_of_ne store hl]
    · right
      rw [entry_set_of_ne store hl] at hfree
      exact ⟨List.mem_cons_of_mem _ hmem, hfree, hmade⟩

private theorem AddsDirectories.more {store after : FileStore} {place : Location} {places : List Location}
    (h : AddsDirectories store after places) : AddsDirectories store after (place :: places) := by
  intro location
  rcases h location with hkept | ⟨hmem, hmade⟩
  · exact Or.inl hkept
  · exact Or.inr ⟨List.mem_cons_of_mem _ hmem, hmade⟩

private theorem addsDirectories_makeDirectories (store : FileStore) (location : Location) (parts : List PathPart) :
    AddsDirectories store (store.makeDirectories location parts).1 (waypoints location parts) := by
  induction parts generalizing store location with
  | nil => exact .refl store []
  | cons part rest ih =>
    cases part with
    | stay => exact ih store location
    | up => exact ih store location.dropLast
    | name name =>
      unfold makeDirectories waypoints
      split
      · exact (ih store _).more
      · exact .refl store _
      · rename_i hnone
        exact .cons hnone (ih _ _)

/-- Making the directories for a file adds directories where nothing was, and changes nothing else. -/
theorem addsDirectories_makeParents (store : FileStore) (path : String) :
    AddsDirectories store (store.makeParents path).1 (parentLocations path) := by
  unfold makeParents
  dsimp only
  split
  · exact .refl store _
  · exact addsDirectories_makeDirectories store _ _

/-- A name on the way to where a file can be written is that of a directory, behind which the way goes on, or the place
itself. -/
private theorem follow_name_writable {store : FileStore} {start location : Location} {name : String}
    {rest : List PathPart} (h : (store.follow start (.name name :: rest)).writable? = some location) :
    store.entry (start ++ [name]) = some .directory ∧ (store.follow (start ++ [name]) rest).writable? = some location ∨
      rest = [] ∧ location = start ++ [name] ∧ store.entry location ≠ some .directory := by
  unfold follow at h
  split at h
  · rename_i hdirectory
    exact .inl ⟨hdirectory, h⟩
  · rename_i hfile
    split at h
    · rename_i hlast
      cases h
      exact .inr ⟨List.isEmpty_iff.1 hlast, rfl, by simp [hfile]⟩
    · cases h
  · rename_i hnone
    split at h
    · rename_i hlast
      cases h
      exact .inr ⟨List.isEmpty_iff.1 hlast, rfl, by simp [hnone]⟩
    · cases h

/-- Where a file can be put, there is no directory. -/
theorem entry_ne_directory {store : FileStore} {start location : Location} {parts : List PathPart}
    (h : (store.follow start parts).writable? = some location) : store.entry location ≠ some .directory := by
  induction parts generalizing start with
  | nil => cases h
  | cons part rest ih =>
    cases part with
    | stay => exact ih h
    | up => exact ih h
    | name name =>
      obtain ⟨-, hrest⟩ | ⟨-, rfl, hne⟩ := follow_name_writable h
      · exact ih hrest
      · exact hne

/-- Behind a file that has been put where a path leads, the path leads to that file. -/
private theorem follow_set {store : FileStore} {start location : Location} {parts : List PathPart}
    (h : (store.follow start parts).writable? = some location) (content : ByteArray) :
    (store.set location (some (.file content))).follow start parts = .file location content := by
  induction parts generalizing start with
  | nil => cases h
  | cons part rest ih =>
    cases part with
    | stay => exact ih h
    | up => exact ih h
    | name name =>
      unfold follow
      obtain ⟨hdirectory, hrest⟩ | ⟨rfl, rfl, -⟩ := follow_name_writable h
      · -- a directory on the way is not where the file is put
        have hne : start ++ [name] ≠ location := fun e => entry_ne_directory hrest (e ▸ hdirectory)
        rw [entry_set_of_ne store hne, hdirectory]
        exact ih hrest
      · rw [entry_set_self]
        rfl

private theorem resolve_set {store : FileStore} {path : String} {location : Location}
    (h : (store.resolve path).writable? = some location) (content : ByteArray) :
    (store.set location (some (.file content))).resolve path = .file location content := by
  unfold resolve at h ⊢
  split at h
  · cases h
  · rename_i hpossible
    rw [if_neg hpossible]
    split at h
    · cases h
    · rename_i hpath
      rw [if_neg hpath]
      exact follow_set h content

/-- Writing puts the file where the path leads; where the path leads to no such place, it fails without an effect. -/
theorem write_eq (store : FileStore) (path : String) (content : ByteArray) :
    store.write path content =
      match (store.resolve path).writable? with
      | some location => (store.set location (some (.file content)), true)
      | none => (store, false) := by
  unfold write
  cases store.resolve path <;> rfl

/-- Whether a store comes from another by putting a file where a path leads; on the way directories may be made. -/
structure PutsFile (store after : FileStore) (path : String) (content : ByteArray) (location : Location) : Prop where
  resolve_eq : after.resolve path = .file location content
  others : ∀ other, other ≠ location → KeptOrMade store after (parentLocations path) other

/-- Writing a file where directories have been made. -/
private theorem AddsDirectories.putsFile {store between : FileStore} {path : String}
    (h : AddsDirectories store between (parentLocations path)) {location : Location}
    (hwritable : (between.resolve path).writable? = some location) (content : ByteArray) :
    PutsFile store (between.set location (some (.file content))) path content location where
  resolve_eq := resolve_set hwritable content
  others other hother := by
    unfold KeptOrMade
    rw [entry_set_of_ne between hother]
    exact h other

end FileStore

/-- Writing a file fails with nothing but directories made, or puts the file where the path leads. -/
private theorem DiskAction.run_writeFile (path : String) (content : ByteArray) (store : FileStore) :
    (∃ after, (writeFile path content).run store = (false, after) ∧
      store.AddsDirectories after (FileStore.parentLocations path)) ∨
    ∃ after location, (writeFile path content).run store = (true, after) ∧
      store.PutsFile after path content location := by
  have hparents := store.addsDirectories_makeParents path
  cases hmade : store.makeParents path with
  | mk between made =>
    rw [hmade] at hparents
    have hrun : (writeFile path content).run store =
        if made then ((between.write path content).2, (between.write path content).1) else (false, between) := by
      unfold writeFile DiskAction.run
      rw [hmade]
      cases made <;> rfl
    rw [hrun, FileStore.write_eq]
    cases made with
    | false => exact Or.inl ⟨between, rfl, hparents⟩
    | true =>
      cases hwritable : (between.resolve path).writable? with
      | none => exact Or.inl ⟨between, rfl, hparents⟩
      | some location => exact Or.inr ⟨_, location, rfl, hparents.putsFile hwritable content⟩

/-- Saving a table fails with nothing but directories made, or puts its record file where the path leads. -/
theorem Table.run_save (path : String) (t : Table) (store : FileStore) :
    (∃ after, (Table.save path t).run store = (.error .storage, after) ∧
      store.AddsDirectories after (FileStore.parentLocations path)) ∨
    ∃ after location, (Table.save path t).run store = (.ok (), after) ∧
      store.PutsFile after path (RecordFile.encode t).toUTF8 location := by
  unfold Table.save
  rw [DiskAction.run_bind]
  rcases DiskAction.run_writeFile path (RecordFile.encode t).toUTF8 store with
    ⟨after, hrun, h⟩ | ⟨after, location, hrun, h⟩
  · rw [hrun]
    exact Or.inl ⟨after, rfl, h⟩
  · rw [hrun]
    exact Or.inr ⟨after, location, rfl, h⟩

end KeyedFlow
