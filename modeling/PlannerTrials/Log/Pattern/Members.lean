import PlannerTrials.Log.Pattern.Sign

/-!
# The sets of a pattern

A set stands in square brackets.  Its members are signs, ranges, sets with a name and other sets, and signs
between two lists of members say how these are put together.  Of all this it only matters whether it can be
read and how deep it is: each pair of brackets, each list with more than one member and each of those signs
adds one level.
-/

namespace PlannerTrials.Pattern

/-- What has been read of a set whose bracket is open. -/
structure OpenSet where
  /-- The depth of what stands before the last sign between two lists. -/
  operand? : Option Nat := none
  /-- How many members the list has. -/
  count : Nat := 0
  /-- The depth of the deepest member. -/
  deepest : Nat := 0

namespace OpenSet

/-- The set with another member. -/
def add (s : OpenSet) (depth : Nat) : OpenSet :=
  { s with count := s.count + 1, deepest := max s.deepest depth }

/-- The depth of the last list. -/
def listDepth (s : OpenSet) : Nat := if s.count < 2 then s.deepest else s.deepest + 1

/-- The depth of what stands between the brackets. -/
def depth (s : OpenSet) : Nat :=
  match s.operand? with
  | none => s.listDepth
  | some operand => max operand s.listDepth + 1

/-- The set after a sign between two lists. -/
def next (s : OpenSet) : OpenSet := { operand? := some s.depth }

end OpenSet

/-- Reads a member of a set. -/
def readMember? (m : Mode) : List Char → Option (Sign × List Char)
  | [] => none
  | '\\' :: rest => Sign.readEscape? m rest
  | c :: rest => some (.letter c false, rest)

/-- What follows a member of a set, or the range that starts with it. -/
def skipRange? (m : Mode) (text : List Char) : Option (List Char) := do
  let (first, rest) ← readMember? m text
  let rest := m.skip rest
  let single : Option (List Char) := if first.isMember m then some rest else none
  match rest with
  | '-' :: more =>
    let next := m.peek more
    if next = some ']' ∨ next = some '-' then single
    else
      let (last, rest) ← readMember? m (m.skip more)
      match first, last with
      | .letter a _, .letter b _ =>
        if a ≤ b ∧ first.isMember m ∧ last.isMember m then some rest else none
      | _, _ => none
  | _ => single

/-- The names of the sets that may stand in a set. -/
def setNames : List (List Char) :=
  ["alnum", "alpha", "ascii", "blank", "cntrl", "digit", "graph", "lower", "print", "punct", "space",
    "upper", "word", "xdigit"].map String.toList

/-- What follows the name of a set after its bracket, and whether the set is reversed. -/
def skipNamed? (text : List Char) : Option (Bool × List Char) :=
  match text with
  | ':' :: rest =>
    let isReversed := rest.head? == some '^'
    let rest := if isReversed then rest.drop 1 else rest
    let name := rest.takeWhile (· ≠ ':')
    match rest.drop name.length with
    | ':' :: ']' :: more => if setNames.contains name then some (isReversed, more) else none
    | _ => none
  | _ => none

/-- Takes the hyphens at the start of a set, which stand for themselves. -/
def takeHyphens (m : Mode) : (fuel : Nat) → OpenSet → List Char → OpenSet × List Char
  | fuel + 1, s, '-' :: rest => takeHyphens m fuel (s.add 0) (m.skip rest)
  | _, s, text => (s, text)

/-- Reads the start of a set after its bracket: it may be reversed, and hyphens or a bracket that come
first stand for themselves. -/
def openSet? (m : Mode) (text : List Char) : Option (OpenSet × List Char) :=
  let text := m.skip text
  let isReversed := text.head? == some '^'
  let text := if isReversed then m.skip (text.drop 1) else text
  if isReversed && !m.isUnicode then none
  else
    match takeHyphens m text.length {} text with
    | (s, ']' :: rest) => if s.count = 0 then some (s.add 0, m.skip rest) else some (s, ']' :: rest)
    | found => some found

/-- The depth of a set, and what follows it, after the start of the sets that are open. -/
def readSets? (m : Mode) : (fuel : Nat) → OpenSet → (outer : List OpenSet) → List Char →
    Option (Nat × List Char)
  | 0, _, _, _ => none
  | fuel + 1, s, outer, text =>
    match m.skip text with
    | [] => none
    | c :: rest =>
      if c = ']' then
        match outer with
        | [] => some (s.depth + 1, rest)
        | up :: outer => readSets? m fuel (up.add (s.depth + 1)) outer rest
      else if c = '[' then
        match skipNamed? rest with
        | some (isReversed, rest) =>
          if isReversed && !m.isUnicode then none else readSets? m fuel (s.add 0) outer rest
        | none =>
          match openSet? m rest with
          | some (inner, rest) => readSets? m fuel inner (s :: outer) rest
          | none => none
      else if (c = '&' ∨ c = '-' ∨ c = '~') ∧ rest.head? = some c then
        readSets? m fuel s.next outer (rest.drop 1)
      else
        match skipRange? m (c :: rest) with
        | some rest => readSets? m fuel (s.add 0) outer rest
        | none => none

/-- The depth of the set that starts after an opening bracket, and what follows it. -/
def readSet? (m : Mode) (text : List Char) : Option (Nat × List Char) := do
  let (s, rest) ← openSet? m text
  readSets? m (rest.length + 1) s [] rest

end PlannerTrials.Pattern
