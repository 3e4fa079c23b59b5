import PlannerTrials.Text.Segments

/-!
# Paths

A path is a text whose names are separated by slashes.  It is kept exactly as it was written: it is
shown so, and only asking for its components looks behind double slashes, single points and a slash
at the end.

`join` appends a path to another one, and a path that starts with a slash replaces what it is
appended to.  `components` is the meaning of a path, the list of the steps that it takes;
`fileName?`, `parent?` and `withFileName` are defined by it.
-/

namespace PlannerTrials.Path

open Text (segments)

/-- One step of a path. -/
inductive Component where
  /-- The slash at the start. -/
  | root
  /-- The single point at the start. -/
  | here
  /-- Two points. -/
  | up
  /-- A name. -/
  | name (text : List Char)
  deriving DecidableEq, Repr

namespace Component

/-- The text of a component. -/
def text : Component → List Char
  | .root => ['/']
  | .here => ['.']
  | .up => ['.', '.']
  | .name n => n

/-- The component that a part between slashes stands for, if it stands for one. -/
def ofSegment? (s : List Char) : Option Component :=
  if s = [] ∨ s = ['.'] then none
  else if s = ['.', '.'] then some .up
  else some (.name s)

end Component

/-- Whether a path starts at the root. -/
def isAbsolute : List Char → Bool
  | '/' :: _ => true
  | _ => false

/-- Whether a character separates the names of a path. -/
def isSlash (c : Char) : Bool := c = '/'

/-- The steps of a path.  A single point counts only where the path starts with it. -/
def componentsOf (path : List Char) : List Component :=
  let names := (segments isSlash path).filterMap Component.ofSegment?
  if isAbsolute path then .root :: names
  else if (segments isSlash path).head? = some ['.'] then .here :: names
  else names

/-- Appends a path to another one. -/
def joinChars (left right : List Char) : List Char :=
  if isAbsolute right then right
  else if left = [] ∨ left.getLast? = some '/' then left ++ right
  else left ++ '/' :: right

/-- Appends a path to another one. -/
def join (left right : String) : String := String.ofList (joinChars left.toList right.toList)

/-- The steps of a path. -/
def components (path : String) : List Component := componentsOf path.toList

/-- The last step of a path, if it is a name. -/
def fileName? (path : String) : Option String :=
  match (components path).getLast? with
  | some (.name n) => some (String.ofList n)
  | _ => none

/-- The start of a path that is a step of its own, the root or a single point, and what follows it. -/
def splitStart (path : List Char) : List Char × List Char :=
  if isAbsolute path then (['/'], path.drop 1)
  else if (segments isSlash path).head? = some ['.'] then (['.'], path.drop 1)
  else ([], path)

/-- Segments without the ones at their end that are no steps. -/
def dropNoSteps (reversed : List (List Char)) : List (List Char) :=
  reversed.dropWhile fun s => (Component.ofSegment? s).isNone

/-- The path without its last step; nothing precedes the root or the empty path.  What stays is as it
was written. -/
def parentOf? (path : List Char) : Option (List Char) :=
  let (start, body) := splitStart path
  match dropNoSteps (segments isSlash body).reverse with
  | _ :: before => some (start ++ ['/'].intercalate (dropNoSteps before).reverse)
  | [] => if start = ['.'] then some [] else none

/-- The path without its last step. -/
def parent? (path : String) : Option String := (parentOf? path.toList).map String.ofList

/-- The path with another last name.  A path whose last step is no name gets one. -/
def withFileName (path name : String) : String :=
  match fileName? path with
  | some _ => join ((parent? path).getD "") name
  | none => join path name

end PlannerTrials.Path
