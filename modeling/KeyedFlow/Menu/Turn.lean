import KeyedFlow.Session

/-!
# Turns of the menu

The menu asks a question and gets a line in answer; answering is a turn, which may send a request to the session, says
something, and leads to the next question.  An answer that cannot be read as the number asked for drops the request that
was being put together, and the menu asks for a choice again.
-/

namespace KeyedFlow

/-- What the menu asks, with the answers it has been given for the request that is being put together. -/
inductive Question where
  | choice
  | keys
  | rowsPerKey (keys : UInt64)
  | maxValue (keys rowsPerKey : UInt64)
  | partitions
  deriving DecidableEq, Repr

/-- A session, the question that waits for an answer, and the draws for the generations to come. -/
structure Menu where
  session : Session
  question : Question
  supply : Nat → Draws

/-- A line of input, which may be no text. -/
inductive Line where
  | text (s : List Char)
  | unreadable
  deriving DecidableEq, Repr

/-- What a turn says, the events in it, and how the menu goes on: with another question, or not at all. -/
structure Turn where
  said : String
  events : List Event
  next : Menu
  ended : Option (Except Failure Unit)

namespace Menu

/-- The first words of the menu. -/
def welcome : String :=
  "Welcome to our Fault Tolerant Dataflow Platform!\n"

/-- The options among which to choose. -/
def options : String :=
  "\nPlease choose an option:\n1. Generate data\n2. Apply operations\n3. Validate result\n4. Exit\n"

/-- The words of the question of a menu. -/
def prompt (menu : Menu) : String :=
  match menu.question with
  | .choice => options ++ "Enter your choice: "
  | .keys => "Enter the number of keys: "
  | .rowsPerKey _ => "Enter the number of values per key: "
  | .maxValue _ _ => "Enter the maximum value: "
  | .partitions =>
    let usual := match menu.session.lastGenerated with
      | none => "program setting"
      | some n => toString n
    "Specify the number of partitions (default set to: " ++ usual ++ "): "

/-- The menu of a session that waits for a choice. -/
def start (session : Session) (supply : Nat → Draws) : Menu :=
  ⟨session, .choice, supply⟩

/-- A turn that says something and then asks a question. -/
def ask (menu : Menu) (question : Question) (said : String) (events : List Event) : Turn :=
  let next := { menu with question }
  ⟨said ++ next.prompt, events, next, none⟩

/-- A turn after which the menu does not go on. -/
def stop (menu : Menu) (said : String) (result : Except Failure Unit) : Turn :=
  ⟨said, [], menu, some result⟩

/-- What the menu says about the reply of a session. -/
def replyText (setup : Setup) : Except Failure Reply → String
  | .error failure => "Error: " ++ failure.message ++ "\n"
  | .ok (.generated count) => s!"Generated {count} partitions.\n"
  | .ok (.applied (.completed summary)) =>
    "Result written to " ++ setup.resultPath ++ " (" ++ toString summary.outputRows ++ " rows).\n"
  | .ok (.applied .nothingToProcess) => "No partitions to process.\n"
  | .ok (.validated validation) => validation.message ++ "\n"

/-- Sends a request to the session, tells the reply and asks for a choice. -/
def request (menu : Menu) (request : Request) (supply : Nat → Draws) : DiskAction Turn := do
  let answer ← menu.session.perform request
  return { menu with session := answer.session, supply }.ask .choice (replyText menu.session.setup answer.reply)
    answer.events

/-- Drops what has been put together because an answer is no number. -/
def refuse (menu : Menu) : Turn :=
  menu.ask .choice "Invalid number.\n" []

/-- Goes on with a number that has been read. -/
def withNumber {α ε : Type} (menu : Menu) (number : Except ε α) (go : α → DiskAction Turn) : DiskAction Turn :=
  match number with
  | .ok n => go n
  | .error _ => return menu.refuse

/-- The turn of a choice. -/
def choose (menu : Menu) (answer : List Char) : DiskAction Turn :=
  if answer = ['1'] then return menu.ask .keys "" []
  else if answer = ['2'] then return menu.ask .partitions "" []
  else if answer = ['3'] then menu.request .validate menu.supply
  else if answer = ['4'] then return menu.stop "Goodbye!\n" (.ok ())
  else return menu.ask .choice "Invalid choice. Please try again.\n" []

/-- The turn of a trimmed answer. -/
def answer (menu : Menu) (answer : List Char) : DiskAction Turn :=
  match menu.question with
  | .choice => menu.choose answer
  | .keys => menu.withNumber (Text.Numeral.readCount answer) fun keys => return menu.ask (.rowsPerKey keys) "" []
  | .rowsPerKey keys =>
    menu.withNumber (Text.Numeral.readCount answer) fun rows => return menu.ask (.maxValue keys rows) "" []
  | .maxValue keys rows =>
    menu.withNumber (Text.Numeral.readInt64 answer) fun maxValue =>
      menu.request (.generate ⟨keys, rows, maxValue⟩ (menu.supply 0)) fun n => menu.supply (n + 1)
  | .partitions =>
    if answer.isEmpty then menu.request (.apply none) menu.supply
    else menu.withNumber (Text.Numeral.readCount answer) fun n => menu.request (.apply (some n)) menu.supply

/-- The turn of a line.  A line that is no text ends the menu where a choice is asked for, and elsewhere drops the
request that was being put together. -/
def take (menu : Menu) : Line → DiskAction Turn
  | .text s => menu.answer (Text.trim s)
  | .unreadable =>
    match menu.question with
    | .choice => return menu.stop "" (.error .storage)
    | _ => return menu.ask .choice (replyText menu.session.setup (.error .storage)) []

/-- The turn at the end of the input: a request that was being put together is dropped. -/
def endOfInput (menu : Menu) : Turn :=
  match menu.question with
  | .choice => menu.stop "" (.ok ())
  | _ => { menu.ask .choice "" [] with ended := some (.ok ()) }

end Menu

end KeyedFlow
