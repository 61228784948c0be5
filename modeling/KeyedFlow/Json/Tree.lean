import KeyedFlow.Json.Scan

/-!
# Document trees

A document tree is a JSON text as far as it could be read, with the faults in it at the places where a reader meets
them.  Where the text stops being JSON, the tree has a `stop`, or a key that is a fault, and whatever contains that
place ends there.  A reader of some type goes through the tree from left to right and reports the first fault in its
way, so the fault reported is the first in reading order, be it one of the text or one of the type.
-/

namespace KeyedFlow.Json

/-- A value as far as it could be read. -/
inductive Tree where
  | atom (lexeme : Lexeme Atom)
  | text (lexeme : Lexeme String)
  | list (items : List Tree)
  | object (members : List (Lexeme String × Tree))
  /-- No value is here: the fault for a reader that wants one, and the fault for one that passes over it. -/
  | stop (wanted skipped : Fault)

/-- A place without a key, with the faults for a reader that wants one and for one that passes over it. -/
def keyFault (wanted skipped : Fault) : Lexeme String :=
  ⟨.error wanted, .error skipped⟩

/-- A list or an object around the place that is being read, with what stands before it in reverse. -/
inductive Frame where
  | list (before : List Tree)
  | object (before : List (Lexeme String × Tree)) (key : Lexeme String)

/-- What is expected next. -/
inductive Place where
  | value
  | colon (before : List (Lexeme String × Tree)) (key : Lexeme String)
  | after (t : Tree)

/-- A tree and whether anything follows its text. -/
structure Document where
  tree : Tree
  trailing : Bool

/-- Ends the containers of a value behind which nothing is read. -/
def enclose (t : Tree) : List Frame → Tree
  | [] => t
  | .list before :: outer => enclose (.list (before.reverse ++ [t])) outer
  | .object before key :: outer => enclose (.object (before.reverse ++ [(key, t)])) outer

/-- Ends the document with a value inside `outer`. -/
def endWith (t : Tree) (outer : List Frame) : Document :=
  ⟨enclose t outer, false⟩

/-- Ends the document where the value of a key in an object inside `outer` is missing. -/
def endAtValue (before : List (Lexeme String × Tree)) (key : Lexeme String) (fault : Fault) (outer : List Frame) :
    Document :=
  endWith (.object ((key, .stop fault fault) :: before).reverse) outer

/-- Ends the document where a key is missing in an object inside `outer`; nothing is read in place of its value. -/
def endAtKey (before : List (Lexeme String × Tree)) (wanted skipped : Fault) (outer : List Frame) : Document :=
  endWith (.object ((keyFault wanted skipped, .stop wanted skipped) :: before).reverse) outer

/-- Reads tokens at a place inside `outer`. -/
def read (place : Place) (outer : List Frame) (tokens : List Token) : Document :=
  match place, tokens with
  | .value, [] => endWith (.stop .endInValue .endInValue) outer
  | .value, .atom lexeme :: rest => read (.after (.atom lexeme)) outer rest
  | .value, .text lexeme :: rest => read (.after (.text lexeme)) outer rest
  | .value, [.mark '['] => endWith (.list [.stop .endInList .endInList]) outer
  | .value, .mark '[' :: .mark ']' :: rest => read (.after (.list [])) outer rest
  | .value, .mark '[' :: rest => read .value (.list [] :: outer) rest
  | .value, [.mark '\x7b'] => endAtKey [] .endInObject .endInObject outer
  | .value, .mark '\x7b' :: .mark '\x7d' :: rest => read (.after (.object [])) outer rest
  | .value, .mark '\x7b' :: .text key :: rest => read (.colon [] key) outer rest
  | .value, .mark '\x7b' :: _ => endAtKey [] .noKey .noKey outer
  | .value, _ :: _ => endWith (.stop .noValue .noValue) outer
  | .colon before key, [] => endAtValue before key .endInObject outer
  | .colon before key, .mark ':' :: rest => read .value (.object before key :: outer) rest
  | .colon before key, _ :: _ => endAtValue before key .noColon outer
  | .after t, tokens =>
    match outer, tokens with
    | [], rest => ⟨t, !rest.isEmpty⟩
    | .list before :: outer, [] => endWith (.list (.stop .endInList .endInList :: t :: before).reverse) outer
    | .list before :: outer, .mark ']' :: rest => read (.after (.list (t :: before).reverse)) outer rest
    -- a reader of items objects to the comma, and one that passes over the list to what stands behind it
    | .list before :: outer, .mark ',' :: .mark ']' :: _ =>
      endWith (.list (.stop .trailingComma .noValue :: t :: before).reverse) outer
    | .list before :: outer, .mark ',' :: rest => read .value (.list (t :: before) :: outer) rest
    | .list before :: outer, _ :: _ => endWith (.list (.stop .noListEnd .noListEnd :: t :: before).reverse) outer
    | .object before key :: outer, [] => endAtKey ((key, t) :: before) .endInObject .endInObject outer
    | .object before key :: outer, .mark '\x7d' :: rest =>
      read (.after (.object ((key, t) :: before).reverse)) outer rest
    | .object before key :: outer, .mark ',' :: .text next :: rest => read (.colon ((key, t) :: before) next) outer rest
    | .object before key :: outer, [.mark ','] => endAtKey ((key, t) :: before) .endInValue .endInObject outer
    | .object before key :: outer, .mark ',' :: .mark '\x7d' :: _ =>
      endAtKey ((key, t) :: before) .trailingComma .noKey outer
    | .object before key :: outer, .mark ',' :: _ :: _ => endAtKey ((key, t) :: before) .noKey .noKey outer
    | .object before key :: outer, _ :: _ => endAtKey ((key, t) :: before) .noObjectEnd .noObjectEnd outer

/-- The document of a text. -/
def Document.ofText (text : String) : Document :=
  read .value [] (scan text.toList)

mutual

/-- Whether a value can be passed over. -/
def Tree.skip : Tree → Except Fault Unit
  | .atom lexeme => lexeme.skipped
  | .text lexeme => lexeme.skipped
  | .list items => skipItems items
  | .object members => skipMembers members
  | .stop _ fault => .error fault

/-- Whether the items of a list can be passed over. -/
def skipItems : List Tree → Except Fault Unit
  | [] => .ok ()
  | t :: rest =>
    match t.skip with
    | .ok _ => skipItems rest
    | .error fault => .error fault

/-- Whether the members of an object can be passed over. -/
def skipMembers : List (Lexeme String × Tree) → Except Fault Unit
  | [] => .ok ()
  | (key, t) :: rest =>
    match key.skipped with
    | .error fault => .error fault
    | .ok _ =>
      match t.skip with
      | .ok _ => skipMembers rest
      | .error fault => .error fault

end

end KeyedFlow.Json
