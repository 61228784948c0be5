import KeyedFlow.Json.Tree

/-!
# Reading typed values from document trees

A reader takes a tree and gives a value of its type or the first fault it meets.  Structures are read from objects,
whose members may stand in any order and among unknown ones, or from lists of their fields in order.
-/

namespace KeyedFlow.Json

/-- A reader of values of a type. -/
abbrev Reader (α : Type) :=
  Tree → Except Fault α

/-- What an atom is called where something else was expected. -/
def Atom.found : Atom → Found
  | .null => .null
  | .bool b => .bool b
  | .integer n => .integer n
  | .decimal _ => .decimal

/-- The fault of a tree for a reader that expected something else. -/
def unexpected (expected : String) : Tree → Fault
  | .atom ⟨.ok a, _⟩ => .wrongType a.found expected
  | .atom ⟨.error fault, _⟩ => fault
  | .text ⟨.ok s, _⟩ => .wrongType (.text s) expected
  | .text ⟨.error fault, _⟩ => fault
  | .list _ => .wrongType .list expected
  | .object _ => .wrongType .object expected
  | .stop wanted _ => wanted

/-! ### Simple values -/

/-- Reads a text under the name `expected`. -/
def readTextAs (expected : String) : Reader String
  | .text lexeme => lexeme.content
  | t => .error (unexpected expected t)

/-- Reads a text. -/
def readText : Reader String :=
  readTextAs "a string"

/-- Reads a path. -/
def readPath : Reader String :=
  readTextAs "path string"

/-- Reads an integer of a range. -/
def readIntegerAs (expected : String) (range : IntegerRange) : Reader Int
  | .atom ⟨.ok (.integer n), _⟩ => if range.contains n then .ok n else .error (.wrongValue n expected)
  | t => .error (unexpected expected t)

/-- Reads a signed 64-bit integer. -/
def readInt64 : Reader Int64 := fun t =>
  (readIntegerAs "i64" .signed64 t).map Int64.ofInt

/-- Reads an unsigned 64-bit integer. -/
def readCount : Reader UInt64 := fun t =>
  (readIntegerAs "usize" .unsigned64 t).map fun n => UInt64.ofNat n.toNat

/-- Reads a number of any kind. -/
def readDecimal : Reader Decimal
  | .atom ⟨.ok (.integer n), _⟩ => .ok (.ofInt n)
  | .atom ⟨.ok (.decimal d), _⟩ => .ok d
  | t => .error (unexpected "f64" t)

/-- Reads `null`. -/
def readNull : Reader Unit
  | .atom ⟨.ok .null, _⟩ => .ok ()
  | t => .error (unexpected "unit" t)

/-- Reads `null` as nothing. -/
def readOption {α : Type} (reader : Reader α) : Reader (Option α)
  | .atom ⟨.ok .null, _⟩ => .ok none
  | t => (reader t).map some

/-- Reads a list of any length. -/
def readList {α : Type} (reader : Reader α) : Reader (List α)
  | .list items => items.mapM reader
  | t => .error (unexpected "a sequence" t)

/-! ### Names -/

/-- The value of a name among the known ones. -/
def readName {α : Type} (known : List (String × α)) (name : String) : Except Fault α :=
  match known.lookup name with
  | some a => .ok a
  | none => .error (.unknownName name (known.map Prod.fst))

/-- Reads one of several names: the name itself, or an object whose one member has the name as its key and `null` as
its value. -/
def readChoice {α : Type} (known : List (String × α)) : Reader α
  | .text lexeme => lexeme.content.bind (readName known)
  | .object [] => .error .noValue
  | .object ((key, t) :: rest) =>
    match key.content with
    | .error fault => .error fault
    | .ok name => do
      let a ← readName known name
      readNull t
      match rest with
      | [] => .ok a
      | (⟨.error .endInObject, _⟩, _) :: _ => .error .endInObject
      | _ => .error .noValue
  | .stop wanted _ => .error wanted
  | _ => .error .noValue

/-! ### Structures -/

/-- Reads the members of an object in order into a draft.  `field` says what a known key does with its value; the
values of other keys are passed over. -/
def readMembers {δ : Type} (field : δ → String → Tree → Option (Except Fault δ)) :
    δ → List (Lexeme String × Tree) → Except Fault δ
  | draft, [] => .ok draft
  | draft, (key, t) :: rest =>
    match key.content with
    | .error fault => .error fault
    | .ok name =>
      match field draft name t with
      | some (.ok draft) => readMembers field draft rest
      | some (.error fault) => .error fault
      | none =>
        match t.skip with
        | .ok _ => readMembers field draft rest
        | .error fault => .error fault

/-- Fills a field that is read at most once. -/
def readOnce {α : Type} (name : String) (field : Option α) (reader : Reader α) (t : Tree) : Except Fault (Option α) :=
  if field.isSome then .error (.repeatedField name) else (reader t).map some

/-- A field that has to be there. -/
def required {α : Type} (name : String) : Option α → Except Fault α
  | some a => .ok a
  | none => .error (.missingField name)

/-- Reading the items of a list one after the other. -/
abbrev Items :=
  StateT (List Tree) (Except Fault)

/-- The next item; `default` stands for items left off at the end. -/
def itemOr {α : Type} (default : α) (reader : Reader α) : Items α := fun
  | [] => .ok (default, [])
  | t :: rest => (reader t).map (·, rest)

/-- The next item, which has to be there: `index` items stand before it. -/
def item {α : Type} (index : Nat) (expected : String) (reader : Reader α) : Items α := fun
  | [] => .error (.wrongLength index expected)
  | t :: rest => (reader t).map (·, rest)

/-- Behind the last field a list has to end. -/
def endOfItems : List Tree → Except Fault Unit
  | [] => .ok ()
  | .stop .endInList _ :: _ => .error .endInList
  | .stop .trailingComma _ :: _ => .error .trailingComma
  | _ :: _ => .error .trailingCharacters

/-- Reads a structure, by `ofMembers` from an object and by `ofItems` from a list. -/
def readStructure {α : Type} (expected : String) (ofMembers : List (Lexeme String × Tree) → Except Fault α)
    (ofItems : Items α) : Reader α
  | .object members => ofMembers members
  | .list items => do
    let (a, rest) ← ofItems items
    endOfItems rest
    return a
  | t => .error (unexpected expected t)

/-- Reads a whole text, behind whose value only white space may stand. -/
def ofText {α : Type} (reader : Reader α) (text : String) : Except Fault α := do
  let document := Document.ofText text
  let a ← reader document.tree
  if document.trailing then .error .trailingCharacters else return a

end KeyedFlow.Json
