import KeyedFlow.CommandLine.Arguments
import KeyedFlow.Generation
import KeyedFlow.Setup

/-!
# Invocations

A command line, read: the setup it asks for and the command to carry out.  Options that concern the setup may stand
before or behind the command; behind it they count more.  Without a command the menu is meant.
-/

namespace KeyedFlow.CommandLine

/-- What is to be done. -/
inductive Command where
  | generate (generation : Generation) (seed : Option UInt64)
  | apply (partitions : Option UInt64) (json : Bool)
  | validate
  | menu
  deriving DecidableEq, Repr

/-- A command with the setup for it. -/
structure Invocation where
  configPath : Option String
  overrides : Setup.Overrides
  command : Command
  deriving DecidableEq, Repr

/-- The options that stand before or behind a command. -/
def commonForms : List OptionForm := [
  ⟨.verbose, some 'v', "verbose", false⟩, ⟨.config, some 'c', "config", true⟩,
  ⟨.partitionStem, none, "partition-prefix", true⟩, ⟨.program, none, "program", true⟩,
  ⟨.result, none, "result", true⟩, ⟨.expected, none, "expected", true⟩, ⟨.help, some 'h', "help", false⟩]

/-- The options before a command. -/
def leadingForms : List OptionForm :=
  commonForms ++ [⟨.version, some 'V', "version", false⟩]

/-- The options behind `generate`. -/
def generateForms : List OptionForm :=
  commonForms ++ [⟨.keys, some 'k', "keys", true⟩, ⟨.valuesPerKey, some 'n', "values-per-key", true⟩,
    ⟨.maxValue, some 'm', "max-value", true⟩, ⟨.seed, none, "seed", true⟩]

/-- The options behind `apply`. -/
def applyForms : List OptionForm :=
  commonForms ++ [⟨.partitions, some 'p', "partitions", true⟩, ⟨.json, none, "json", false⟩]

/-- Whether a value is one that its option can have: a path is not empty, a number is in its range. -/
def isValue (name : OptionName) (value : String) : Bool :=
  match name with
  | .maxValue => (Text.Numeral.readInt64 value.toList).isOk
  | .keys => (Text.Numeral.readCount value.toList).isOk
  | .valuesPerKey => (Text.Numeral.readCount value.toList).isOk
  | .seed => (Text.Numeral.readCount value.toList).isOk
  | .partitions => (Text.Numeral.readCount value.toList).isOk
  | _ => !value.isEmpty

/-- The value of an option, if it is given. -/
def value? (settings : List Setting) (name : OptionName) : Option String :=
  (settings.find? (·.name = name)).map Setting.value

/-- The count that is the value of an option. -/
def count? (settings : List Setting) (name : OptionName) : Option UInt64 := do
  (Text.Numeral.readCount (← value? settings name).toList).toOption

/-- The number that is the value of an option. -/
def int64? (settings : List Setting) (name : OptionName) : Option Int64 := do
  (Text.Numeral.readInt64 (← value? settings name).toList).toOption

/-- The setup that options ask for; the first of two settings of an option counts. -/
def invocation (settings : List Setting) (command : Command) : Invocation where
  configPath := value? settings .config
  overrides := {
    partitionStem := value? settings .partitionStem
    programPath := value? settings .program
    resultPath := value? settings .result
    expectedPath := value? settings .expected }
  command := command

/-- The options of a command, behind which no word may stand. -/
def readOwnOptions (forms : List OptionForm) (args : List String) : Except Refusal (List Setting) :=
  match readOptions forms isValue [] none args with
  | .error refusal => .error refusal
  | .ok (settings, none) => .ok settings
  | .ok (_, some _) => .error .wrong

/-- The generation that options ask for; only the seed may be left out. -/
def generation? (settings : List Setting) : Option Command := do
  let keys ← count? settings .keys
  let rowsPerKey ← count? settings .valuesPerKey
  let maxValue ← int64? settings .maxValue
  return .generate ⟨keys, rowsPerKey, maxValue⟩ (count? settings .seed)

/-- Whether help is asked for about the program or one of its commands. -/
def isHelpTopic (args : List String) : Bool :=
  match args with
  | [] => true
  | [topic] => ["generate", "apply", "validate", "menu", "help"].contains topic
  | _ => false

/-- Reads a command and the options behind it. -/
def readCommand (leading : List Setting) (word : String) (args : List String) : Except Refusal Invocation :=
  match word with
  | "generate" => do
    let settings ← readOwnOptions generateForms args
    match generation? settings with
    | some command => return invocation (settings ++ leading) command
    | none => throw .wrong
  | "apply" => do
    let settings ← readOwnOptions applyForms args
    return invocation (settings ++ leading)
      (.apply (count? settings .partitions) (value? settings .json).isSome)
  | "validate" => do
    let settings ← readOwnOptions commonForms args
    return invocation (settings ++ leading) .validate
  | "menu" => do
    let settings ← readOwnOptions commonForms args
    return invocation (settings ++ leading) .menu
  | "help" => throw (if isHelpTopic args then .help else .wrong)
  | _ => throw .wrong

/-- Reads a command line. -/
def read (args : List String) : Except Refusal Invocation := do
  match ← readOptions leadingForms isValue [] none args with
  | (settings, none) => return invocation settings .menu
  | (settings, some (word, rest)) => readCommand settings word rest

end KeyedFlow.CommandLine
