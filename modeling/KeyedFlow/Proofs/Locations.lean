import KeyedFlow.Partitions
import KeyedFlow.Proofs.DiskEffects

/-!
# Where paths lead

A file that a path leads to is at the location that can be read off the path (`FileStore.location_of_resolve`), so paths
with different locations never meet.  The partitions are in one directory under different names
(`Partitions.location_path`, `Partitions.location_injective`).  No action removes a directory, so a path goes on leading
to its file for as long as the file is there (`FileStore.resolve_of_kept`).
-/

namespace KeyedFlow

namespace Path

/-- The location that parts lead to from a directory. -/
def destination (location : Location) : List PathPart → Location
  | [] => location
  | .stay :: rest => destination location rest
  | .up :: rest => destination location.dropLast rest
  | .name name :: rest => destination (location ++ [name]) rest

/-- The location of a path. -/
def location (path : String) : Location :=
  destination (FileStore.origin path) (parts path)

/-- Whether two paths lead to the same file in some store. -/
def Meet (p q : String) : Prop :=
  ∃ (store : FileStore) (location : Location) (content : ByteArray),
    store.resolve p = .file location content ∧ store.resolve q = .file location content

private theorem destination_append (start : Location) (first second : List PathPart) :
    destination start (first ++ second) = destination (destination start first) second := by
  induction first generalizing start with
  | nil => rfl
  | cons part rest ih =>
    cases part with
    | stay | up | name => exact ih _

theorem segments_ne_nil (s : List Char) : segments s ≠ [] := by
  cases s with
  | nil => exact List.cons_ne_nil _ _
  | cons c rest =>
    unfold segments
    split
    · exact List.cons_ne_nil _ _
    · split <;> exact List.cons_ne_nil _ _

private theorem segments_of_not_mem {s : List Char} (h : '/' ∉ s) : segments s = [s] := by
  induction s with
  | nil => rfl
  | cons c rest ih =>
    rw [List.mem_cons, not_or] at h
    unfold segments
    rw [if_neg (Ne.symm h.1), ih h.2]

/-- A text without slashes extends the last segment. -/
private theorem segments_append (s : List Char) {t : List Char} (h : '/' ∉ t) :
    segments (s ++ t) = (segments s).dropLast ++ [(segments s).getLastD [] ++ t] := by
  induction s with
  | nil => exact segments_of_not_mem h
  | cons c rest ih =>
    rw [List.cons_append, segments, segments, ih]
    cases hrest : segments rest with
    | nil => exact absurd hrest (segments_ne_nil rest)
    | cons first more =>
      split
      · simp
      · cases more with
        | nil => rfl
        | cons => simp

end Path

namespace FileStore

variable {store after : FileStore} {path : String} {location : Location} {content : ByteArray}

/-- A name on the way to a file is that of a directory, behind which the way goes on, or the file itself. -/
theorem follow_name_eq_file {start : Location} {name : String} {rest : List PathPart}
    (h : store.follow start (.name name :: rest) = .file location content) :
    store.entry (start ++ [name]) = some .directory ∧ store.follow (start ++ [name]) rest = .file location content ∨
      rest = [] ∧ location = start ++ [name] ∧ store.entry location = some (.file content) := by
  unfold follow at h
  split at h
  · rename_i hdirectory
    exact .inl ⟨hdirectory, h⟩
  · rename_i hfile
    split at h
    · rename_i hlast
      cases h
      exact .inr ⟨List.isEmpty_iff.1 hlast, rfl, hfile⟩
    · cases h
  · split at h <;> cases h

private theorem follow_eq_file {start : Location} {parts : List PathPart}
    (h : store.follow start parts = .file location content) :
    location = Path.destination start parts ∧ store.entry location = some (.file content) := by
  induction parts generalizing start with
  | nil => cases h
  | cons part rest ih =>
    cases part with
    | stay => exact ih h
    | up => exact ih h
    | name name =>
      obtain ⟨-, hrest⟩ | ⟨rfl, rfl, hfile⟩ := follow_name_eq_file h
      · exact ih hrest
      · exact ⟨rfl, hfile⟩

/-- A path that resolves to a file is followed there from its origin. -/
theorem follow_of_resolve (h : store.resolve path = .file location content) :
    Path.isImpossible path = false ∧ path.isEmpty = false ∧
      store.follow (origin path) (Path.parts path) = .file location content := by
  unfold resolve at h
  split at h
  · cases h
  · rename_i hpossible
    split at h
    · cases h
    · rename_i hpath
      exact ⟨by simpa using hpossible, by simpa using hpath, h⟩

/-- A path resolves to a file at no location but its own. -/
theorem location_of_resolve (h : store.resolve path = .file location content) : location = Path.location path :=
  (follow_eq_file (follow_of_resolve h).2.2).1

/-- Where a path resolves to a file, the store has an entry for it. -/
theorem entry_of_resolve (h : store.resolve path = .file location content) :
    store.entry location = some (.file content) :=
  (follow_eq_file (follow_of_resolve h).2.2).2

/-- Where a path resolves to a file, the store has its content. -/
theorem content?_of_resolve (h : store.resolve path = .file location content) :
    store.content? location = some content := by
  unfold content?
  rw [entry_of_resolve h]

private theorem follow_of_kept
    (hdirectories : ∀ other, store.entry other = some .directory → after.entry other = some .directory)
    {start : Location} {parts : List PathPart} (h : store.follow start parts = .file location content)
    {content' : ByteArray} (hfile : after.entry location = some (.file content')) :
    after.follow start parts = .file location content' := by
  induction parts generalizing start with
  | nil => cases h
  | cons part rest ih =>
    cases part with
    | stay => exact ih h
    | up => exact ih h
    | name name =>
      unfold follow
      obtain ⟨hdirectory, hrest⟩ | ⟨rfl, rfl, -⟩ := follow_name_eq_file h
      · rw [hdirectories _ hdirectory]
        exact ih hrest
      · rw [hfile]
        rfl

/-- As long as the directories stay and there is a file at its end, a path leads to that file. -/
theorem resolve_of_kept
    (hdirectories : ∀ other, store.entry other = some .directory → after.entry other = some .directory)
    (h : store.resolve path = .file location content) {content' : ByteArray}
    (hfile : after.content? location = some content') : after.resolve path = .file location content' := by
  have hentry : after.entry location = some (.file content') := by
    unfold content? at hfile
    split at hfile
    · rename_i hentry
      rw [hentry, Option.some.inj hfile]
    · cases hfile
  obtain ⟨hpossible, hpath, hfollow⟩ := follow_of_resolve h
  unfold resolve
  rw [hpossible, hpath]
  exact follow_of_kept hdirectories hfollow hentry

end FileStore

/-- Paths with different locations never lead to the same file. -/
theorem Path.not_meet_of_location_ne {p q : String} (h : Path.location p ≠ Path.location q) : ¬Path.Meet p q := by
  rintro ⟨store, location, content, hp, hq⟩
  exact h ((FileStore.location_of_resolve hp).symm.trans (FileStore.location_of_resolve hq))

namespace FileStore

variable {store : FileStore} {path : String} {location : Location}

private theorem directory_makeParents (h : store.entry location = some .directory) :
    (store.makeParents path).1.entry location = some .directory := by
  rcases store.addsDirectories_makeParents path location with hkept | ⟨-, -, hmade⟩
  · rw [hkept, h]
  · exact hmade

private theorem ne_of_writable {target : Location} (hwritable : (store.resolve path).writable? = some target)
    (h : store.entry location = some .directory) : location ≠ target := by
  rintro rfl
  unfold resolve at hwritable
  split at hwritable
  · cases hwritable
  · split at hwritable
    · cases hwritable
    · exact entry_ne_directory hwritable h

private theorem directory_write (content : ByteArray) (h : store.entry location = some .directory) :
    (store.write path content).1.entry location = some .directory := by
  rw [write_eq]
  cases hwritable : (store.resolve path).writable? with
  | none => exact h
  | some target =>
    dsimp only
    rw [entry_set_of_ne store (ne_of_writable hwritable h), h]

end FileStore

/-- No action removes a directory. -/
theorem DiskAction.directory_run {α : Type} (action : DiskAction α) (store : FileStore) {location : Location}
    (h : store.entry location = some .directory) : (action.run store).2.entry location = some .directory := by
  induction action generalizing store with
  | done a => exact h
  | read path next ih => exact ih _ store h
  | makeParents path next ih => exact ih _ _ (FileStore.directory_makeParents h)
  | write path content next ih => exact ih _ _ (FileStore.directory_write content h)

namespace Partitions

/-- The directory of the partitions. -/
def directory (partitions : Partitions) : Location :=
  Path.destination (FileStore.origin partitions.stem) ((Path.segments partitions.stem.toList).dropLast.map Path.part)

/-- The name of a partition in its directory. -/
def fileName (partitions : Partitions) (index : Nat) : String :=
  String.ofList ((Path.segments partitions.stem.toList).getLastD [] ++ (Nat.toDigits 10 index ++ ".csv".toList))

private theorem not_mem_extension (index : Nat) : '/' ∉ Nat.toDigits 10 index ++ ".csv".toList := by
  intro hmem
  rcases List.mem_append.1 hmem with hdigit | hextension
  · exact absurd (Nat.isDigit_of_mem_toDigits (by decide) (by decide) hdigit) (by decide)
  · exact absurd hextension (by decide)

/-- The path of a partition is its stem with the number and the extension behind it. -/
theorem toList_path (partitions : Partitions) (index : Nat) :
    (partitions.path index).toList = partitions.stem.toList ++ (Nat.toDigits 10 index ++ ".csv".toList) := by
  unfold path
  rw [String.toList_append, String.toList_append, List.append_assoc]
  exact congrArg (fun digits => partitions.stem.toList ++ (digits ++ ".csv".toList)) Nat.toList_repr

private theorem part_fileName (partitions : Partitions) (index : Nat) :
    Path.part ((Path.segments partitions.stem.toList).getLastD [] ++ (Nat.toDigits 10 index ++ ".csv".toList)) =
      .name (partitions.fileName index) := by
  generalize hsegment : (Path.segments partitions.stem.toList).getLastD [] ++ _ = segment
  -- the extension alone is longer than a part that is no name
  have hlong : 4 ≤ segment.length := by
    rw [← hsegment, List.length_append, List.length_append]
    simp
    omega
  unfold Path.part fileName
  rw [if_neg, if_neg, hsegment]
  · rintro rfl
    simp at hlong
  · rintro (rfl | rfl) <;> simp at hlong

/-- The paths of all partitions start where their stem does. -/
theorem origin_path (partitions : Partitions) (index : Nat) :
    FileStore.origin (partitions.path index) = FileStore.origin partitions.stem := by
  unfold FileStore.origin Path.isAbsolute
  rw [toList_path]
  cases partitions.stem.toList with
  | nil =>
    obtain ⟨c, rest, hdigits⟩ := List.exists_cons_of_ne_nil (Nat.toDigits_ne_nil (n := index) (b := 10))
    have hdigit : c.isDigit = true :=
      Nat.isDigit_of_mem_toDigits (by decide) (by decide) (hdigits ▸ List.mem_cons_self : c ∈ Nat.toDigits 10 index)
    have hslash : c ≠ '/' := by
      rintro rfl
      exact absurd hdigit (by decide)
    rw [hdigits]
    simp [hslash]
  | cons c rest => rfl

/-- The paths of partitions differ in their last part only, which is a name. -/
theorem parts_path (partitions : Partitions) (index : Nat) :
    Path.parts (partitions.path index) =
      (Path.segments partitions.stem.toList).dropLast.map Path.part ++ [.name (partitions.fileName index)] := by
  unfold Path.parts
  rw [toList_path, Path.segments_append _ (not_mem_extension index), List.map_append, List.map_singleton, part_fileName]

/-- A partition is located in the directory of all partitions, under its own name. -/
theorem location_path (partitions : Partitions) (index : Nat) :
    Path.location (partitions.path index) = partitions.directory ++ [partitions.fileName index] := by
  unfold Path.location
  rw [origin_path, parts_path, Path.destination_append]
  rfl

/-- No two partitions have the same location. -/
theorem location_injective (partitions : Partitions) {i j : Nat}
    (h : Path.location (partitions.path i) = Path.location (partitions.path j)) : i = j := by
  rw [location_path, location_path] at h
  have hname : partitions.fileName i = partitions.fileName j := List.singleton_inj.1 (List.append_cancel_left h)
  have hdigits : Nat.toDigits 10 i = Nat.toDigits 10 j :=
    List.append_cancel_right (List.append_cancel_left (String.ofList_inj.1 hname))
  calc
    i = Nat.ofDigitChars 10 (Nat.toDigits 10 i) 0 := Nat.ofDigitChars_ten_toDigits.symm
    _ = Nat.ofDigitChars 10 (Nat.toDigits 10 j) 0 := by rw [hdigits]
    _ = j := Nat.ofDigitChars_ten_toDigits

end Partitions

end KeyedFlow
