/-!
# Paths

A path is a text whose parts are divided by slashes.  An empty part and a single dot stay in the directory reached, two
dots go to the directory above, and every other part is a name.  A slash at the beginning starts from the root.
-/

namespace KeyedFlow

/-- A part of a path. -/
inductive PathPart where
  | stay
  | up
  | name (name : String)
  deriving DecidableEq, Repr

namespace Path

/-- The texts between slashes. -/
def segments : List Char → List (List Char)
  | [] => [[]]
  | c :: s =>
    if c = '/' then [] :: segments s
    else
      match segments s with
      | [] => [[c]]
      | first :: rest => (c :: first) :: rest

/-- The part that stands between two slashes. -/
def part (segment : List Char) : PathPart :=
  if segment = [] ∨ segment = ['.'] then .stay
  else if segment = ['.', '.'] then .up
  else .name (String.ofList segment)

/-- The parts of a path. -/
def parts (path : String) : List PathPart :=
  (segments path.toList).map part

/-- Whether a path starts from the root. -/
def isAbsolute (path : String) : Bool :=
  path.toList.head? == some '/'

/-- Whether no file can have this path, since it holds the character NUL. -/
def isImpossible (path : String) : Bool :=
  path.toList.contains '\x00'

/-- The parts of the directory that a file at a path is put into. -/
def parentParts (path : String) : List PathPart :=
  ((parts path).filter (· != .stay)).dropLast

/-- A file in a directory: the two are divided by a slash, unless there is one already. -/
def join (directory file : String) : String :=
  if directory.isEmpty ∨ directory.toList.getLast? = some '/' then directory ++ file else directory ++ "/" ++ file

end Path

end KeyedFlow
