import KeyedFlow.Menu.Turn

/-!
# Conversations with the menu

A conversation takes the lines of an input one after the other until the menu ends or the input does.  What the menu
says goes to an output that may take only so many bytes; the conversation ends where the output is full.
-/

namespace KeyedFlow

/-- What has been said, and how many bytes may be said in all. -/
structure Output where
  limit : Option Nat
  bytes : ByteArray

namespace Output

/-- Says a text: as much of it as there is room for, and whether that is all of it. -/
def say (output : Output) (text : String) : Output × Bool :=
  let bytes := output.bytes ++ text.toUTF8
  match output.limit with
  | none => ({ output with bytes }, true)
  | some limit => if bytes.size ≤ limit then ({ output with bytes }, true) else
    ({ output with bytes := bytes.extract 0 limit }, false)

end Output

/-- How a conversation ends, what has been said and what has happened in it. -/
structure Transcript where
  ended : Except Failure Unit
  output : ByteArray
  events : List Event
  session : Session

namespace Line

/-- The lines of an input; each has its line feed, which only the last may lack. -/
def split : List UInt8 → List (List UInt8)
  | [] => []
  | b :: rest =>
    if b = 0x0A then [b] :: split rest
    else
      match split rest with
      | [] => [[b]]
      | line :: lines => (b :: line) :: lines

/-- The line of some bytes. -/
def ofBytes (bytes : List UInt8) : Line :=
  match String.fromUTF8? ⟨bytes.toArray⟩ with
  | some s => .text s.toList
  | none => .unreadable

/-- The lines of an input. -/
def all (input : List UInt8) : List Line :=
  (split input).map ofBytes

end Line

namespace Turn

/-- Takes up what a turn has said; tells how the conversation ends if it does not go on. -/
def settle (turn : Turn) (output : Output) : Output × Option (Except Failure Unit) :=
  match output.say turn.said with
  | (output, true) => (output, turn.ended)
  | (output, false) => (output, some (.error .storage))

end Turn

namespace Menu

/-- Goes on with a conversation after a turn. -/
def converse (output : Output) (events : List Event) (turn : Turn) : List Line → DiskAction Transcript
  | [] => do
    match turn.settle output with
    | (output, some ended) => return ⟨ended, output.bytes, events ++ turn.events, turn.next.session⟩
    | (output, none) =>
      let last := turn.next.endOfInput
      let (output, ended) := last.settle output
      return ⟨ended.getD (.ok ()), output.bytes, events ++ turn.events, turn.next.session⟩
  | line :: rest => do
    match turn.settle output with
    | (output, some ended) => return ⟨ended, output.bytes, events ++ turn.events, turn.next.session⟩
    | (output, none) =>
      let next ← turn.next.take line
      converse output (events ++ turn.events) next rest

/-- The turn before the first line. -/
def opening (menu : Menu) : Turn :=
  menu.ask menu.question welcome []

/-- The conversation of a session with an input. -/
def run (session : Session) (supply : Nat → Draws) (limit : Option Nat) (input : List UInt8) :
    DiskAction Transcript :=
  converse ⟨limit, ByteArray.empty⟩ [] (start session supply).opening (Line.all input)

end Menu

end KeyedFlow
