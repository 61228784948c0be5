import KeyedFlow.Disk.Path

/-!
# File stores

A file store says for every location whether a file or a directory is there.  A path is followed part by part from the
root or from the working directory; every part but the last has to lead to a directory.
-/

namespace KeyedFlow

/-- A location: the names on the way from the root. -/
abbrev Location := List String

/-- What is at a location. -/
inductive FileEntry where
  | file (content : ByteArray)
  | directory

/-- Files and directories by location. -/
structure FileStore where
  entry : Location → Option FileEntry

/-- Where a path leads. -/
inductive Target where
  | directory (location : Location)
  | file (location : Location) (content : ByteArray)
  /-- Nothing is there, but the directory for it is. -/
  | free (location : Location)
  /-- Nothing is there, nor the directory for it. -/
  | absent
  /-- The path leads through a file, or no file can have it. -/
  | blocked

/-- What opening a path for reading finds. -/
inductive Opened where
  | file (content : ByteArray)
  | directory
  | absent
  | blocked

namespace FileStore

/-- The working directory. -/
def home : Location :=
  ["home"]

/-- The store with nothing but the working directory. -/
def empty : FileStore :=
  ⟨fun location => if location = home then some .directory else none⟩

/-- The store with another entry at a location. -/
def set (store : FileStore) (location : Location) (entry : Option FileEntry) : FileStore :=
  ⟨fun other => if other = location then entry else store.entry other⟩

/-- Where parts lead from a directory. -/
def follow (store : FileStore) (location : Location) : List PathPart → Target
  | [] => .directory location
  | .stay :: rest => follow store location rest
  | .up :: rest => follow store location.dropLast rest
  | .name name :: rest =>
    match store.entry (location ++ [name]) with
    | some .directory => follow store (location ++ [name]) rest
    | some (.file content) => if rest.isEmpty then .file (location ++ [name]) content else .blocked
    | none => if rest.isEmpty then .free (location ++ [name]) else .absent

/-- Where a path starts. -/
def origin (path : String) : Location :=
  if Path.isAbsolute path then [] else home

/-- Where a path leads. -/
def resolve (store : FileStore) (path : String) : Target :=
  if Path.isImpossible path then .blocked
  else if path.isEmpty then .absent
  else store.follow (origin path) (Path.parts path)

/-- Opens a path for reading. -/
def openFile (store : FileStore) (path : String) : Opened :=
  match store.resolve path with
  | .file _ content => .file content
  | .directory _ => .directory
  | .free _ => .absent
  | .absent => .absent
  | .blocked => .blocked

/-- Makes the directories on the way of parts that do not exist; fails at a file, with those before it made. -/
def makeDirectories (store : FileStore) (location : Location) : List PathPart → FileStore × Bool
  | [] => (store, true)
  | .stay :: rest => makeDirectories store location rest
  | .up :: rest => makeDirectories store location.dropLast rest
  | .name name :: rest =>
    match store.entry (location ++ [name]) with
    | some .directory => makeDirectories store (location ++ [name]) rest
    | some (.file _) => (store, false)
    | none => makeDirectories (store.set (location ++ [name]) (some .directory)) (location ++ [name]) rest

/-- Makes the directories that a file at a path is put into. -/
def makeParents (store : FileStore) (path : String) : FileStore × Bool :=
  let parents := Path.parentParts path
  if parents.any (fun part => match part with | .name name => name.toList.contains '\x00' | _ => false) then
    (store, false)
  else store.makeDirectories (origin path) parents

/-- Puts a file at a path, in place of one that is there; the directory for it has to exist. -/
def write (store : FileStore) (path : String) (content : ByteArray) : FileStore × Bool :=
  match store.resolve path with
  | .file location _ => (store.set location (some (.file content)), true)
  | .free location => (store.set location (some (.file content)), true)
  | _ => (store, false)

/-- Puts a file at a path and makes the directories for it. -/
def put (store : FileStore) (path : String) (content : ByteArray) : FileStore :=
  ((store.makeParents path).1.write path content).1

/-- Makes a directory at a path, with the directories for it. -/
def putDirectory (store : FileStore) (path : String) : FileStore :=
  (store.makeDirectories (origin path) (Path.parts path)).1

/-- Removes the file at a path. -/
def remove (store : FileStore) (path : String) : FileStore :=
  match store.resolve path with
  | .file location _ => store.set location none
  | _ => store

end FileStore

end KeyedFlow
