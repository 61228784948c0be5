import KeyedFlow.CommandLine.Execution
import Std.Time.DateTime.Timestamp

/-!
# The program

Performs on real files what a command line asks for.
-/

namespace KeyedFlow

/-- The code by which the system says that a file is a directory. -/
def directoryCode : UInt32 :=
  21

/-- Opens a real file. -/
def openReal (path : String) : IO Opened := do
  try
    return .file (← IO.FS.readBinFile path)
  catch
    | .noFileOrDirectory .. => return .absent
    | .inappropriateType _ code _ => return if code = directoryCode then .directory else .blocked
    | _ => return .blocked

/-- Whether an effect on real files succeeds. -/
def succeeds (effect : IO Unit) : IO Bool := do
  try
    effect
    return true
  catch _ => return false

/-- The directory that a real file is put into. -/
def parentPath (path : String) : String :=
  String.ofList ((path.toList.reverse.dropWhile (· ≠ '/')).drop 1).reverse

/-- Performs an action on real files. -/
def DiskAction.perform {α : Type} : DiskAction α → IO α
  | .done a => return a
  | .read path next => do (next (← openReal path)).perform
  | .makeParents path next => do
    let directory := parentPath path
    (next (← succeeds (unless directory.isEmpty do IO.FS.createDirAll directory))).perform
  | .write path content next => do
    (next (← succeeds (IO.FS.writeBinFile path content))).perform

/-- A random word. -/
def randomWord : IO UInt64 := do
  let bytes ← IO.getRandomBytes 8
  return bytes.data.foldl (fun w b => (w <<< 8) ||| b.toUInt64) 0

/-- The time since the beginning of 1970 in nanoseconds. -/
def nanosecondsNow : IO Int := do
  return (← Std.Time.Timestamp.now).toNanosecondsSinceUnixEpoch.val

/-- The bytes of the next line, behind those that have been read of it. -/
partial def readLine (input : IO.FS.Stream) (line : ByteArray) : IO ByteArray := do
  let bytes ← input.read 1
  let line := line ++ bytes
  if bytes.isEmpty || bytes[0]? == some 0x0A then return line else readLine input line

/-- Says what a turn has to say; tells how the menu ends if it does not go on. -/
def say (output : IO.FS.Stream) (turn : Turn) : IO (Option (Except Failure Unit)) := do
  let said ← succeeds do
    output.putStr turn.said
    output.flush
  return if said then turn.ended else some (.error .storage)

/-- Talks with the user until the menu ends or the input does. -/
partial def talk (input output : IO.FS.Stream) (turn : Turn) : IO (Except Failure Unit) := do
  match ← say output turn with
  | some ended => return ended
  | none =>
    let line ← readLine input ByteArray.empty
    if line.isEmpty then return (← say output turn.next.endOfInput).getD (.ok ())
    else talk input output (← (turn.next.take (Line.ofBytes line.data.toList)).perform)

/-- Prints what a command has printed and returns its code. -/
def finish (ending : CommandLine.Ending) : IO UInt32 := do
  (← IO.getStdout).write ending.output
  IO.eprint ending.errors
  return ending.code.toUInt32

/-- The menu on the terminal. -/
def mainMenu (setup : Setup) (seed : UInt64) : IO UInt32 := do
  let supply := fun n => Draws.seeded (seed + UInt64.ofNat n)
  let result ← talk (← IO.getStdin) (← IO.getStdout) (Menu.start (Session.start setup) supply).opening
  match result with
  | .ok _ => return 0
  | .error failure => finish (CommandLine.failing [] failure [])

/-- The stamp of a run that starts now and has not taken any time. -/
def stampNow : IO RunStamp := do
  let now ← nanosecondsNow
  let id := RunId.random ((← randomWord).toBitVec ++ (← randomWord).toBitVec)
  return ⟨id, ⟨now.fdiv 1000000000, (now.fmod 1000000000).toNat⟩, Decimal.zero⟩

/-- A command in a setup.  Running a program is timed. -/
def mainCommand (setup : Setup) (seed : UInt64) (command : CommandLine.Command) : IO UInt32 := do
  match command with
  | .apply partitions json =>
    let started ← IO.monoNanosNow
    let run ← (Run.perform setup partitions).perform
    let ended ← IO.monoNanosNow
    finish (CommandLine.reporting setup json { ← stampNow with milliseconds := ⟨false, ended - started, -6⟩ } run)
  | command => finish (← (CommandLine.execute setup (fun _ => Draws.seeded seed) (← stampNow) [] command).perform)

end KeyedFlow

open KeyedFlow in
/-- The entry point. -/
def main (args : List String) : IO UInt32 := do
  match CommandLine.read args with
  | .error refusal => finish (CommandLine.refusing refusal)
  | .ok invocation =>
    match ← (CommandLine.loadSetup invocation).perform with
    | .error failure => finish (CommandLine.withoutSetup invocation failure)
    | .ok setup =>
      let seed ← randomWord
      match invocation.command with
      | .menu => mainMenu setup seed
      | command => mainCommand setup seed command
