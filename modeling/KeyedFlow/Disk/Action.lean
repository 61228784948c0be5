import KeyedFlow.Disk.FileStore

/-!
# Disk actions

What a program does with files is described by a disk action: a value that says which path is read, or written, next,
and how to go on with what was found.  An action can be run on a file store, and it can be performed on real files; in
either case the same reads and writes are made in the same order.
-/

namespace KeyedFlow

/-- Reads and writes that end in a value. -/
inductive DiskAction (α : Type) where
  | done (a : α)
  | read (path : String) (next : Opened → DiskAction α)
  | makeParents (path : String) (next : Bool → DiskAction α)
  | write (path : String) (content : ByteArray) (next : Bool → DiskAction α)

namespace DiskAction

variable {α β : Type}

/-- An action followed by the action that its value decides. -/
def bind : DiskAction α → (α → DiskAction β) → DiskAction β
  | done a, f => f a
  | read path next, f => .read path fun opened => (next opened).bind f
  | makeParents path next, f => .makeParents path fun ok => (next ok).bind f
  | write path content next, f => .write path content fun ok => (next ok).bind f

instance : Monad DiskAction where
  pure := done
  bind := bind

/-- Runs an action on a file store. -/
def run : DiskAction α → FileStore → α × FileStore
  | done a, store => (a, store)
  | read path next, store => (next (store.openFile path)).run store
  | makeParents path next, store =>
    let (store, ok) := store.makeParents path
    (next ok).run store
  | write path content next, store =>
    let (store, ok) := store.write path content
    (next ok).run store

/-- Opens a path for reading. -/
def openFile (path : String) : DiskAction Opened :=
  .read path .done

/-- Puts a file at a path and makes the directories for it, unless that fails. -/
def writeFile (path : String) (content : ByteArray) : DiskAction Bool :=
  .makeParents path fun ok => if ok then .write path content .done else .done false

/-- Puts a file at a path whose directory exists. -/
def writeInPlace (path : String) (content : ByteArray) : DiskAction Bool :=
  .write path content .done

@[simp]
theorem run_pure (a : α) (store : FileStore) : (pure a : DiskAction α).run store = (a, store) := rfl

/-- The second of two actions meets the store that the first one leaves. -/
@[simp]
theorem run_bind (action : DiskAction α) (f : α → DiskAction β) (store : FileStore) :
    (action >>= f).run store = (f (action.run store).1).run (action.run store).2 := by
  show (action.bind f).run store = _
  induction action generalizing store with
  | done a => rfl
  | read path next ih => exact ih _ _
  | makeParents path next ih => exact ih _ _
  | write path content next ih => exact ih _ _

@[simp]
theorem run_openFile (path : String) (store : FileStore) :
    (openFile path).run store = (store.openFile path, store) := rfl

end DiskAction

end KeyedFlow
