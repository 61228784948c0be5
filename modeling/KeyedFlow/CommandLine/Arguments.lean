/-!
# Arguments of a command line

An argument is an option or a word.  Options have a long name, and some have a letter; letters may be joined behind one
hyphen.  The value of an option is joined to it, or is the next argument, which then must not look like an option.
Arguments are taken from the left, and the first that is wrong, or that asks for help or for the version, decides.
-/

namespace KeyedFlow.CommandLine

/-- The options. -/
inductive OptionName where
  | verbose
  | config
  | partitionStem
  | program
  | result
  | expected
  | help
  | version
  | keys
  | valuesPerKey
  | maxValue
  | seed
  | partitions
  | json
  deriving DecidableEq, Repr

/-- How an option is written, and whether it has a value. -/
structure OptionForm where
  name : OptionName
  letter : Option Char
  long : String
  hasValue : Bool

/-- Why a command line is not carried out. -/
inductive Refusal where
  | wrong
  | help
  | version
  deriving DecidableEq, Repr

/-- An option that has been given, with its value. -/
structure Setting where
  name : OptionName
  value : String
  deriving DecidableEq, Repr

/-- An argument that is being read. -/
inductive Argument where
  /-- Two hyphens, behind which all arguments are words. -/
  | separator
  | long (name : String) (value : Option String)
  | letters (letters : List Char)
  | word (word : String)
  deriving DecidableEq, Repr

/-- What kind of argument a text is.  A single hyphen is a word. -/
def Argument.ofText (text : String) : Argument :=
  match text.toList with
  | ['-', '-'] => .separator
  | '-' :: '-' :: rest =>
    match rest.dropWhile (· ≠ '=') with
    | [] => .long (String.ofList rest) none
    | _ :: value => .long (String.ofList (rest.takeWhile (· ≠ '='))) (some (String.ofList value))
  | '-' :: c :: rest => .letters (c :: rest)
  | _ => .word text

/-- Adds an option without a value.  Only the verbosity may be given more than once. -/
def addFlag (settings : List Setting) (name : OptionName) : Except Refusal (List Setting) :=
  if name = .help then .error .help
  else if name = .version then .error .version
  else if name ≠ .verbose ∧ settings.any (·.name = name) then .error .wrong
  else .ok (settings ++ [⟨name, ""⟩])

/-- Adds an option with its value. -/
def addValue (check : OptionName → String → Bool) (settings : List Setting) (name : OptionName) (value : String) :
    Except Refusal (List Setting) :=
  if settings.any (·.name = name) || !check name value then .error .wrong else .ok (settings ++ [⟨name, value⟩])

/-- Letters that stand together: options without a value, up to the first with one, whose value may follow at once. -/
def readLetters (forms : List OptionForm) (check : OptionName → String → Bool) (settings : List Setting) :
    List Char → Except Refusal (List Setting × Option OptionName)
  | [] => .ok (settings, none)
  | c :: rest =>
    match forms.find? (·.letter == some c) with
    | none => .error .wrong
    | some form =>
      if form.hasValue then
        match rest with
        | [] => .ok (settings, some form.name)
        | '=' :: value => (addValue check settings form.name (String.ofList value)).map (·, none)
        | value => (addValue check settings form.name (String.ofList value)).map (·, none)
      else
        match addFlag settings form.name with
        | .ok settings => readLetters forms check settings rest
        | .error refusal => .error refusal

/-- An option by its long name, with the value joined to it. -/
def readLong (forms : List OptionForm) (check : OptionName → String → Bool) (settings : List Setting) (name : String)
    (value : Option String) : Except Refusal (List Setting × Option OptionName) :=
  match forms.find? (·.long == name) with
  | none => .error .wrong
  | some form =>
    match form.hasValue, value with
    | true, some value => (addValue check settings form.name value).map (·, none)
    | true, none => .ok (settings, some form.name)
    | false, some _ => .error .wrong
    | false, none => (addFlag settings form.name).map (·, none)

/-- Options up to the first word; also the word and the arguments behind it.  `pending` is an option that still waits
for its value. -/
def readOptions (forms : List OptionForm) (check : OptionName → String → Bool) (settings : List Setting)
    (pending : Option OptionName) : List String → Except Refusal (List Setting × Option (String × List String))
  | [] => if pending.isSome then .error .wrong else .ok (settings, none)
  | text :: rest =>
    match pending, Argument.ofText text with
    | some name, .word value =>
      match addValue check settings name value with
      | .ok settings => readOptions forms check settings none rest
      | .error refusal => .error refusal
    | some _, _ => .error .wrong
    | none, .separator => if rest.isEmpty then .ok (settings, none) else .error .wrong
    | none, .word word => .ok (settings, some (word, rest))
    | none, .letters letters =>
      match readLetters forms check settings letters with
      | .ok (settings, pending) => readOptions forms check settings pending rest
      | .error refusal => .error refusal
    | none, .long name value =>
      match readLong forms check settings name value with
      | .ok (settings, pending) => readOptions forms check settings pending rest
      | .error refusal => .error refusal

end KeyedFlow.CommandLine
