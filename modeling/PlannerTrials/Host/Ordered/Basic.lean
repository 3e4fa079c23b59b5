import PlannerTrials.Host.Ordered.Fault
import PlannerTrials.Host.Regex.Basic

/-!
# Ordered patterns

An ordered pattern is tried choice by choice, and the first way in which all of it matches is its match, which
need not be the longest one.  So that it can be said what comes first, repetitions are eager or lazy, and a
pattern may give up the choices that are left in a part of it.  It may look around a place, refer back to
what its groups have matched, and call a group as if its part were written there again.

`Ordered.width` is the number of characters that a part always takes, if there is such a number.  Only
parts with a width can be looked for before a place.
-/

namespace PlannerTrials.Host

/-! ## Sets of characters -/

/-- A kind of characters in a set.  The cases of letters may not count. -/
structure Member where
  test : CharTest
  /-- Whether the letters that count as the same are characters or bytes, if cases do not count. -/
  fold : Option Bool := none
  deriving DecidableEq, Repr

/-- A set of characters by its members, or by the members of what is left. -/
structure CharSet where
  negated : Bool := false
  members : List Member
  deriving DecidableEq, Repr

/-- Capital letters with a sign of their own that have the same small form as another one. -/
def doubleCapitals : List Char := [0x1e9e, 0x2126, 0x212a, 0x212b].map Char.ofNat

/-- The form of a letter that it shares with all letters that count as the same.  The small letter i without
a dot is a letter of its own. -/
def foldKey (c : Char) : Char := if c.toNat = 0x131 then c else smallOf (capitalOf c)

/-- The other letters that count as the same. -/
def sameLetters (unicode : Bool) (c : Char) : List Char :=
  if !unicode then counterparts false c
  else
    let key := foldKey c
    ([capitalOf c, smallOf c, key, capitalOf key] ++ lonesome ++ doubleCapitals).filter fun d =>
      d ≠ c && foldKey d = key

namespace Member

/-- Whether a character is of a kind. -/
def holds (m : Member) (c : Char) : Bool :=
  m.test.passes c ||
    match m.fold with
    | some unicode => (sameLetters unicode c).any m.test.passes
    | none => false

end Member

namespace CharSet

/-- Whether a character is in a set.  A byte that is no part of a character is in none. -/
def passes (set : CharSet) (c : Char) : Bool :=
  !Locale.isStray c && (set.members.any fun m => m.holds c) != set.negated

/-- All characters. -/
def all : CharSet := ⟨true, []⟩

/-- All characters of a line. -/
def ofLine : CharSet := ⟨true, [⟨.exactly '\n', none⟩]⟩

/-- A single character. -/
def single (fold : Option Bool) (c : Char) : CharSet := ⟨false, [⟨.exactly c, fold⟩]⟩

/-- The characters of some ranges, or all others. -/
def ofRanges (negated : Bool) (ranges : List (Char × Char)) : CharSet :=
  ⟨negated, [⟨.among false ranges [], none⟩]⟩

end CharSet

/-! ## Parts of patterns -/

namespace Ordered

/-- What is asked of a place. -/
inductive Landmark where
  | textStart
  /-- The place where the search started. -/
  | searchStart
  | textEnd
  /-- The end, or a line feed at the end. -/
  | lastEnd
  | lineStart
  | lineEnd
  | wordEdge
  | noWordEdge
  deriving DecidableEq, Repr

/-- How a group is named. -/
inductive Reference where
  | number (n : Nat)
  | name (text : List Char)
  deriving DecidableEq, Repr

/-- On what it depends which of two parts is tried. -/
inductive Condition where
  /-- A group has matched. -/
  | matched (group : Reference)
  /-- The pattern is being called, or one of its groups is. -/
  | called (group : Option Reference)
  /-- It is known from the start. -/
  | known (holds : Bool)
  /-- Never; the part is only there to be called. -/
  | definition
  deriving DecidableEq, Repr

/-- What becomes of the choices before a place when there is no match from there on. -/
inductive Verb where
  /-- There is no match at all. -/
  | commit
  /-- There is no match that starts where this one was to start. -/
  | prune
  /-- There is no match that starts before this place, or before a marked one. -/
  | skip (mark : Option (List Char))
  /-- The next branch of one of the groups around is tried. -/
  | next (groups : List Nat)
  deriving DecidableEq, Repr

/-- A part of a pattern. -/
inductive Part where
  | empty
  /-- The part that never matches. -/
  | fail
  | one (set : CharSet)
  | place (asked : Landmark)
  | both (first second : Part)
  /-- The branches of a group, which has a number of its own. -/
  | either (group : Nat) (first second : Part)
  /-- At least so many times, and at most so many times if there is a most; the fewest times are tried first
  if it is lazy. -/
  | repeated (body : Part) (least : Nat) (most : Option Nat) (isLazy : Bool)
  /-- A group, which has a number if what it matches is kept. -/
  | group (number : Option Nat) (body : Part)
  /-- The choices that are left in the part are given up once it has matched. -/
  | atomic (body : Part)
  /-- The part matches, or does not match, after or before the place. -/
  | look (behind holds : Bool) (body : Part)
  /-- What a group has matched; cases may not count. -/
  | back (group : Reference) (fold : Option Bool)
  | call (group : Reference)
  | condition (asked : Condition) (yes no : Part)
  /-- The match starts here. -/
  | keep
  /-- The match ends here. -/
  | accept
  | mark (name : List Char)
  | verb (verb : Verb)
  deriving Repr

namespace Part

/-- Parts one after the other. -/
def sequence (parts : List Part) : Part := parts.foldr .both .empty

/-- The number of characters that a part always takes, from the numbers for groups.  What comes after the end
of a match does not count, and how often it is looked ahead does not either. -/
def width (groups : Reference → Except Fault Nat) : Part → Except Fault Nat
  | .one _ => .ok 1
  | .both .accept _ | .both .fail _ => .ok 0
  | .both a b => do return (← a.width groups) + (← b.width groups)
  | .either _ a b => do
    let m ← a.width groups
    if m = (← b.width groups) then return m else throw .variableWidth
  | .repeated (.look false _ _) _ _ _ => .ok 0
  | .repeated body least most _ => do
    let n ← body.width groups
    if most = some least then return least * n else throw .variableWidth
  | .group _ body | .atomic body => body.width groups
  | .back r _ | .call r => groups r
  | .condition _ yes .empty => yes.width groups
  | .condition _ yes no => do
    let m ← yes.width groups
    if m = (← no.width groups) then return m else throw .variableWidth
  | _ => .ok 0

/-- The branches of a part. -/
def branches : Part → List Part
  | .either _ a b => a :: b.branches
  | part => [part]

end Part

end Ordered

/-- A pattern with its groups and their names. -/
structure Ordered where
  body : Ordered.Part
  groups : List (Nat × Ordered.Part)
  names : List (List Char × Nat)

namespace Ordered

/-- The numbers of the groups that a reference means. -/
def numbers (p : Ordered) : Reference → List Nat
  | .number n => [n]
  | .name text => (p.names.filter fun named => named.1 = text).map (·.2)

/-- The part that a reference calls; the number zero is the one of the whole pattern. -/
def called? (p : Ordered) (r : Reference) : Option (Nat × Part) := do
  let n ← (p.numbers r).head?
  if n = 0 then some (0, p.body) else (p.groups.lookup n).map fun body => (n, .group (some n) body)

/-- The number of characters that a part always takes, with references up to a depth. -/
def widthWithin (p : Ordered) : (depth : Nat) → Part → Except Fault Nat
  | 0, part => part.width fun _ => .error .variableWidth
  | depth + 1, part => part.width fun r =>
    match p.called? r with
    | some (0, _) => .error .variableWidth
    | some (_, body) => widthWithin p depth body
    | none => .error .noSuchGroup

/-- The number of characters that a part always takes, if there is such a number. -/
def width (p : Ordered) (part : Part) : Except Fault Nat := p.widthWithin (p.groups.length + 1) part

end Ordered

end PlannerTrials.Host
