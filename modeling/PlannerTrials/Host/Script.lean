import PlannerTrials.Host.Raw

/-!
# Scripts of the shell

A script is a `Script`, built from simple commands by sequences, conditions, loops and pipelines.  A
word of a command is a list of parts, some of which stand for a value that is only known when the
command runs.

The text of a here-document stands after the line on which it is asked for, so that a redirection only
knows its number.
-/

namespace PlannerTrials.Host

/-- What is done with the value of a parameter. -/
inductive ValueUse where
  | plain
  /-- The number of its characters. -/
  | length
  /-- No such use is known; running it is an error. -/
  | invalid
  /-- Another text stands for a missing value. -/
  | instead
  /-- A missing value is replaced for good. -/
  | assigned
  /-- A missing value is an error. -/
  | required
  /-- Another text stands for a value that is not missing. -/
  | alternative
  /-- The value loses the start or the end that a pattern matches, the shortest or the longest. -/
  | cut (atEnd longest : Bool)
  deriving DecidableEq, Repr

/-- How a file is opened by a redirection. -/
inductive FileMode where
  | reading
  | writing
  /-- Writing, also where the shell protects files. -/
  | replacing
  | appending
  | both
  deriving DecidableEq, Repr

mutual

/-- A part of a word.  What stands for a value is split at blanks unless it is quoted. -/
inductive Part where
  | text (quoted : Bool) (cs : Raw)
  /-- A parameter; `orEmpty` says that an empty value counts as missing. -/
  | parameter (quoted : Bool) (name : Raw) (use : ValueUse) (orEmpty : Bool) (word : List Part)
  | command (quoted : Bool) (script : Option Script)
  | calculation (quoted : Bool) (expression : List Part)

/-- Where a channel leads. -/
inductive Redirect where
  | file (channel : Nat) (mode : FileMode) (target : List Part)
  /-- The channel becomes another one; a dash closes it. -/
  | channel (channel : Nat) (target : List Part)
  /-- The channel reads a here-document. -/
  | here (channel : Nat) (number : Nat)

/-- A script. -/
inductive Script where
  | simple (line : Nat) (assignments : List (Raw × List Part)) (words : List (List Part))
      (redirects : List Redirect)
  | redirected (line : Nat) (redirects : List Redirect) (body : Script)
  | sequence (first second : Script)
  | andThen (first second : Script)
  | orElse (first second : Script)
  | negated (body : Script)
  | piped (stages : List Script)
  /-- What runs beside the rest. -/
  | beside (line : Nat) (body : Script)
  | choose (condition yes : Script) (no : Option Script)
  /-- A loop while a condition holds, or until it does. -/
  | loop (untilTrue : Bool) (condition body : Script)
  | each (line : Nat) (name : Raw) (words : List (List Part)) (body : Script)
  | select (line : Nat) (word : List Part) (branches : List (List (List Part) × Option Script))
  /-- A script that runs in a shell of its own. -/
  | inside (line : Nat) (redirects : List Redirect) (body : Script)
  | function (line : Nat) (name : Raw) (body : Script)

end

/-- A word. -/
abbrev Word := List Part

namespace Word

/-- Whether a part has been quoted. -/
def partQuoted : Part → Bool
  | .text quoted _ | .parameter quoted _ _ _ _ | .command quoted _ | .calculation quoted _ => quoted

/-- A word with its neighbouring texts of one kind put together. -/
def joined : Word → Word
  | .text q cs :: rest =>
    match joined rest with
    | .text r ds :: more => if q = r then .text q (cs ++ ds) :: more else .text q cs :: .text r ds :: more
    | more => .text q cs :: more
  | part :: rest => part :: joined rest
  | [] => []

/-- The text of a word that is nothing but plain text. -/
def plain? : Word → Option Raw
  | [] => some []
  | [.text false cs] => some cs
  | _ => none

/-- The text of a word without its quotations; what stands for a value is left out. -/
def bare (word : Word) : Raw :=
  word.flatMap fun
    | .text _ cs => cs
    | _ => []

/-- Whether a character may start a name. -/
def startsName (c : Char) : Bool := c.isAlpha || c = '_'

/-- Whether a character may stand in a name. -/
def isNameChar (c : Char) : Bool := c.isAlphanum || c = '_'

/-- Whether a text is a name. -/
def isName : Raw → Bool
  | [] => false
  | c :: cs => startsName c && cs.all isNameChar

/-- The assignment that a word is. -/
def assignment? : Word → Option (Raw × Word)
  | .text false cs :: parts =>
    let name := cs.takeWhile isNameChar
    match cs.dropWhile isNameChar with
    | '=' :: value =>
      if isName name then some (name, if value = [] then parts else .text false value :: parts)
      else none
    | _ => none
  | _ => none

end Word

end PlannerTrials.Host
