import PlannerTrials.Log.Pattern.Members
import PlannerTrials.Text.LetterTable
import PlannerTrials.Text.Quoted

/-!
# Values in filters

A directive may ask for the value of a field.  A value is a truth value, a number, or else a pattern, and
a text that is none of these makes the directive unreadable.  Since values are of spans only, which
values a pattern has does not matter here, only whether it is one.

The text comes without closing braces, so that a pattern with counts is never complete.  A pattern may
not be too deep: each group, repetition, choice and sequence of more than one sign adds one level.
-/

namespace PlannerTrials.Pattern

/-- What has been read of a pattern, or of a group that is open. -/
structure Row where
  /-- The depth of the deepest of the choices before the last one. -/
  choices? : Option Nat := none
  /-- How many parts the last choice has. -/
  count : Nat := 0
  /-- The depth of the deepest part but the last one. -/
  deepest : Nat := 0
  /-- The depth of the last part. -/
  last : Nat := 0
  /-- Whether the last part can be repeated. -/
  repeats : Bool := false

namespace Row

/-- The row with another part. -/
def add (r : Row) (depth : Nat) (repeats : Bool) : Row :=
  { r with count := r.count + 1, deepest := max r.deepest r.last, last := depth, repeats }

/-- The row with its last part repeated. -/
def again (r : Row) : Row := { r with last := r.last + 1 }

/-- The depth of the last choice. -/
def lastDepth (r : Row) : Nat := if r.count < 2 then r.last else max r.deepest r.last + 1

/-- The row with another choice. -/
def next (r : Row) : Row := { choices? := some (max (r.choices?.getD 0) r.lastDepth) }

/-- The depth of a row. -/
def depth (r : Row) : Nat :=
  match r.choices? with
  | none => r.lastDepth
  | some choices => max choices r.lastDepth + 1

end Row

/-- What is known at a place of a pattern. -/
structure Reading where
  mode : Mode := {}
  row : Row := {}
  /-- The rows in which the open groups stand, and the modes there. -/
  outer : List (Mode × Row) := []
  /-- The names that groups have been given. -/
  names : List (List Char) := []

namespace Reading

/-- The reading after another part. -/
def add (r : Reading) (depth : Nat) : Reading := { r with row := r.row.add depth true }

/-- The reading in a group that starts. -/
def enter (r : Reading) : Reading := { r with row := {}, outer := (r.mode, r.row) :: r.outer }

/-- The reading after the end of a group. -/
def leave? (r : Reading) : Option Reading :=
  match r.outer with
  | [] => none
  | (mode, row) :: outer => some { r with mode, outer, row := row.add (r.row.depth + 1) true }

/-- Whether flags are well written: each at most once, and after a minus sign at least one. -/
def goodFlags (flags : List Char) : Bool :=
  flags.all (fun c => "imsUuRx-".toList.contains c) && flags.eraseDups.length == flags.length &&
    flags.getLast? != some '-'

/-- Whether a character is a letter. -/
def isLetter (c : Char) : Bool :=
  Text.covers Text.letterRanges c.toNat &&
    !Text.covers (Text.digitRanges ++ Text.numberRanges) c.toNat

/-- Whether a name may be given to a group. -/
def goodName : List Char → Bool
  | [] => false
  | c :: rest =>
    (isLetter c || c = '_') &&
      rest.all fun d => Text.covers Text.letterRanges d.toNat || "_.[]".toList.contains d

/-- Reads the name of a group up to the sign that ends it. -/
def named? (r : Reading) (text : List Char) : Option (Reading × List Char) :=
  let name := text.takeWhile (· ≠ '>')
  match text.drop name.length with
  | _ :: rest =>
    if goodName name && !r.names.contains name then
      some ({ r.enter with names := name :: r.names }, rest)
    else none
  | [] => none

/-- Reads the flags of a group, or those that hold up to the end of the group in which they stand. -/
def flagged? (r : Reading) (text : List Char) : Option (Reading × List Char) :=
  let flags := text.takeWhile fun c => c ≠ ':' && c ≠ ')'
  let mode := r.mode.change true flags
  if !goodFlags flags then none
  else
    match text.drop flags.length with
    | ':' :: rest => some ({ r.enter with mode }, rest)
    | ')' :: rest => if flags = [] then none else some ({ r with mode, row := r.row.add 0 false }, rest)
    | _ => none

/-- Reads the start of a group after its parenthesis. -/
def group? (r : Reading) (text : List Char) : Option (Reading × List Char) :=
  match r.mode.skip text with
  | '?' :: 'P' :: '<' :: rest => r.named? rest
  | '?' :: '<' :: rest => r.named? rest
  | '?' :: rest => r.flagged? rest
  | rest => some (r.enter, rest)

/-- Reads one sign of a pattern. -/
def step? (r : Reading) (c : Char) (rest : List Char) : Option (Reading × List Char) :=
  match c with
  | '(' => r.group? rest
  | ')' => r.leave?.map fun r => (r, rest)
  | '|' => some ({ r with row := r.row.next }, rest)
  | '{' => none
  | '[' => (readSet? r.mode rest).map fun (depth, rest) => (r.add depth, rest)
  | '\\' =>
    (Sign.readEscape? r.mode rest).bind fun (sign, rest) =>
      if sign.isReadable r.mode then some (r.add 0, rest) else none
  | '.' => if r.mode.isUnicode then some (r.add 0, rest) else none
  | '*' | '+' | '?' =>
    if r.row.repeats then
      some ({ r with row := r.row.again }, if rest.head? = some '?' then rest.drop 1 else rest)
    else none
  | _ => some (r.add 0, rest)

end Reading

/-- How deep a pattern may be. -/
def depthLimit : Nat := 250

/-- Whether a text is the rest of a pattern. -/
def isRest : (fuel : Nat) → Reading → List Char → Bool
  | 0, _, _ => false
  | fuel + 1, r, text =>
    match r.mode.skip text with
    | [] => r.outer.isEmpty && decide (r.row.depth ≤ depthLimit)
    | c :: rest =>
      match r.step? c rest with
      | some (r, rest) => isRest fuel r rest
      | none => false

/-- Whether a text is a pattern. -/
def isPattern (text : List Char) : Bool := isRest (text.length + 1) {} text

/-- Whether a text may be asked for as a value. -/
def isValue (text : List Char) : Bool :=
  text = "true".toList || text = "false".toList || (Double.read text).toOption.isSome ||
    isPattern text

end PlannerTrials.Pattern
