import KeyedFlow.Partitions

/-!
# Generation of partitions

Generation writes partitions for a number of keys: partition `i` has the key `i` in all its rows, and values drawn from
one up to a maximum.  The draws are given from outside as a sequence of words, so that what is written is determined by
the request and the draws.
-/

namespace KeyedFlow

/-- A sequence of words that values are drawn from. -/
abbrev Draws := Nat → UInt64

namespace Draws

/-- Scrambles a word so that neighbouring words come out unrelated. -/
def scramble (w : UInt64) : UInt64 :=
  let w := (w ^^^ (w >>> 30)) * 0xbf58476d1ce4e5b9
  let w := (w ^^^ (w >>> 27)) * 0x94d049bb133111eb
  w ^^^ (w >>> 31)

/-- The draws of a seed. -/
def seeded (seed : UInt64) : Draws :=
  fun n => scramble (seed + UInt64.ofNat (n + 1) * 0x9e3779b97f4a7c15)

end Draws

/-- What partitions are generated: how many, with how many rows each, and up to which value. -/
structure Generation where
  keys : UInt64
  rowsPerKey : UInt64
  maxValue : Int64
  deriving DecidableEq, Repr

namespace Generation

/-- The value that a word stands for, which lies between one and the maximum. -/
def value (generation : Generation) (word : UInt64) : Int64 :=
  Int64.ofNat (word.toNat % generation.maxValue.toInt.toNat + 1)

/-- The table of a partition.  Every partition has its own part of the draws. -/
def table (generation : Generation) (draws : Draws) (index : Nat) : Table :=
  let rows := generation.rowsPerKey.toNat
  (List.range rows).map fun row => ⟨clamped index, generation.value (draws ((index - 1) * rows + row))⟩

/-- Writes `count` partitions from `index` on, up to the first that cannot be written. -/
def writeFrom (generation : Generation) (draws : Draws) (partitions : Partitions) (index : Nat) :
    Nat → DiskAction (Except Failure Unit)
  | 0 => return .ok ()
  | count + 1 => do
    match ← partitions.write index (generation.table draws index) with
    | .error failure => return .error failure
    | .ok _ => writeFrom generation draws partitions (index + 1) count

/-- Writes all partitions and tells how many they are.  Without a value to draw nothing is written. -/
def perform (generation : Generation) (draws : Draws) (partitions : Partitions) :
    DiskAction (Except Failure UInt64) := do
  if generation.maxValue < 1 then
    return .error (.invalidDocument partitions.stem
      ("max value must be at least 1, got " ++ toString generation.maxValue))
  match ← generation.writeFrom draws partitions 1 generation.keys.toNat with
  | .error failure => return .error failure
  | .ok _ => return .ok generation.keys

end Generation

end KeyedFlow
