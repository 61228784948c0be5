import KeyedFlow.Disk.Load

/-!
# Partitions

The input of a run is divided into partitions, which are record files numbered from one.  Their paths have the same
beginning, the stem, which is followed by the number.
-/

namespace KeyedFlow

/-- Partitions by the stem of their paths. -/
structure Partitions where
  stem : String
  deriving DecidableEq, Repr

namespace Partitions

/-- The path of a partition. -/
def path (partitions : Partitions) (index : Nat) : String :=
  partitions.stem ++ toString index ++ ".csv"

/-- The table of a partition. -/
def read (partitions : Partitions) (index : Nat) : DiskAction (Except Failure Table) :=
  Table.load (partitions.path index) .absent

/-- Writes a partition. -/
def write (partitions : Partitions) (index : Nat) (t : Table) : DiskAction (Except Failure Unit) :=
  Table.save (partitions.path index) t

/-- The tables of `count` partitions from `index` on, joined in order; the first that cannot be read decides. -/
def loadFrom (partitions : Partitions) (index : Nat) : Nat → DiskAction (Except Failure Table)
  | 0 => return .ok []
  | count + 1 => do
    match ← partitions.read index with
    | .error failure => return .error failure
    | .ok t =>
      match ← loadFrom partitions (index + 1) count with
      | .error failure => return .error failure
      | .ok rest => return .ok (t ++ rest)

/-- The tables of the first `count` partitions, joined in order. -/
def load (partitions : Partitions) (count : Nat) : DiskAction (Except Failure Table) :=
  partitions.loadFrom 1 count

/-- Writes partitions from `index` on, up to the first that cannot be written. -/
def writeFrom (partitions : Partitions) (index : Nat) : List Table → DiskAction (Except Failure Unit)
  | [] => return .ok ()
  | t :: rest => do
    match ← partitions.write index t with
    | .error failure => return .error failure
    | .ok _ => writeFrom partitions (index + 1) rest

/-- Writes the first partitions. -/
def writeAll (partitions : Partitions) (tables : List Table) : DiskAction (Except Failure Unit) :=
  partitions.writeFrom 1 tables

end Partitions

end KeyedFlow
