import KeyedFlow.Partitions
import KeyedFlow.Program

/-!
# Fixtures

Partitions and a program that are put together for a trial run and written to disk.
-/

namespace KeyedFlow

/-- Tables that become the partitions from one on. -/
structure PartitionFixture where
  tables : List Table
  deriving DecidableEq, Repr

namespace PartitionFixture

/-- The fixture without partitions. -/
def empty : PartitionFixture :=
  ⟨[]⟩

/-- The fixture with one more partition. -/
def add (fixture : PartitionFixture) (t : Table) : PartitionFixture :=
  ⟨fixture.tables ++ [t]⟩

/-- The fixture with one more partition, whose number is the key of all its records. -/
def addValues (fixture : PartitionFixture) (values : List Int64) : PartitionFixture :=
  fixture.add (Table.keyed (clamped (fixture.tables.length + 1)) values)

/-- The tables of all partitions, joined in order. -/
def merged (fixture : PartitionFixture) : Table :=
  fixture.tables.flatten

/-- Writes all partitions. -/
def save (fixture : PartitionFixture) (partitions : Partitions) : DiskAction (Except Failure Unit) :=
  partitions.writeAll fixture.tables

end PartitionFixture

/-- Writes the document of a program over several lines into a directory that exists. -/
def Program.save (program : Program) (path : String) : DiskAction (Except Failure Unit) := do
  if ← DiskAction.writeInPlace path program.toJson.indented.toUTF8 then return .ok () else return .error .storage

end KeyedFlow
