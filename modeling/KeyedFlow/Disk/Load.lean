import KeyedFlow.Disk.Action
import KeyedFlow.RecordFile.Table

/-!
# Tables and texts on disk

A file that does not exist is a missing input; every other obstacle is a storage failure, except that a directory in the
place of a record file is no record file.
-/

namespace KeyedFlow

/-- The table in the record file at a path. -/
def Table.load (path : String) (header : Header) : DiskAction (Except Failure Table) := do
  match ← DiskAction.openFile path with
  | .file content => return RecordFile.decode path header content
  | .directory => return .error .recordFormat
  | .absent => return .error (.missingInput path)
  | .blocked => return .error .storage

/-- Writes a table to a record file, for which directories are made. -/
def Table.save (path : String) (t : Table) : DiskAction (Except Failure Unit) := do
  if ← DiskAction.writeFile path (RecordFile.encode t).toUTF8 then return .ok () else return .error .storage

/-- The text of the file at a path. -/
def loadText (path : String) : DiskAction (Except Failure String) := do
  match ← DiskAction.openFile path with
  | .file content =>
    match String.fromUTF8? content with
    | some text => return .ok text
    | none => return .error .storage
  | .directory => return .error .storage
  | .absent => return .error (.missingInput path)
  | .blocked => return .error .storage

/-- The value of the document at a path, whose text `parse` reads. -/
def loadDocument {α : Type} (parse : String → String → Except Failure α) (path : String) :
    DiskAction (Except Failure α) := do
  match ← loadText path with
  | .ok text => return parse path text
  | .error failure => return .error failure

end KeyedFlow
