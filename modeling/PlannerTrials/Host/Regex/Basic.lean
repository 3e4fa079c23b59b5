import PlannerTrials.Host.CharClass

/-!
# Regular expressions

A regular expression matches stretches of a line.  `Regex.ends` gives every place at which a match that
starts at a given place may end, each of them once, so that the longest match is found without
going back and forth, and the leftmost match is the one with the first start that has an end at all.

What the groups of an expression have matched is only kept where a later part refers back to it.
-/

namespace PlannerTrials.Host

/-- What a single character must be. -/
inductive CharTest where
  | any
  | exactly (c : Char)
  /-- In one of the ranges, or beyond the characters of a single byte in one of the classes, or else in
  none of these. -/
  | among (negated : Bool) (ranges : List (Char × Char)) (classes : List CharClass)
  deriving DecidableEq, Repr

namespace CharTest

/-- Whether a character passes a test.  A byte that is no part of a character passes none but the one for
itself. -/
def passes (test : CharTest) (c : Char) : Bool :=
  match test with
  | .any => !Locale.isStray c
  | .exactly d => c = d
  | .among negated ranges classes =>
    ((ranges.any fun r => r.1 ≤ c && c ≤ r.2) ||
      (!isNarrow c && classes.any fun cls => cls.holdsWide c)) != negated &&
      !(negated && Locale.isStray c)

/-- The test for a character of a word, or for every other one. -/
def ofWords (unicode negated : Bool) : CharTest :=
  .among negated wordRanges (if unicode then [.alnum] else [])

/-- The test for a class, or for all characters outside of it. -/
def ofClass (unicode negated : Bool) (cls : CharClass) : CharTest :=
  .among negated cls.ranges (if unicode then [cls] else [])

/-- The characters of a range. -/
def charsOf (r : Char × Char) : List Char :=
  (List.range (r.2.toNat + 1 - r.1.toNat)).map fun n => Char.ofNat (r.1.toNat + n)

/-- The test for the same characters without regard to their cases. -/
def folded (unicode : Bool) : CharTest → CharTest
  | .any => .any
  | .exactly c =>
    match counterparts unicode c with
    | [] => .exactly c
    | others => .among false ((c :: others).map fun d => (d, d)) []
  | .among negated ranges classes =>
    let others := (ranges.flatMap charsOf).flatMap (counterparts unicode)
    .among negated (ranges ++ others.map fun c => (c, c))
      (classes.map fun cls => if cls = .upper ∨ cls = .lower then .alpha else cls)

end CharTest

/-- What is asked of the place between two characters. -/
inductive Edge where
  | lineStart
  | lineEnd
  /-- Words are made of other characters where bytes are read as UTF-8. -/
  | wordStart (unicode : Bool)
  | wordEnd (unicode : Bool)
  | wordEdge (unicode : Bool)
  | noWordEdge (unicode : Bool)
  deriving DecidableEq, Repr

/-- A regular expression. -/
inductive Regex where
  | empty
  | one (test : CharTest)
  | edge (edge : Edge)
  | both (first second : Regex)
  | either (first second : Regex)
  /-- At least so many times, and at most so many times if there is a most. -/
  | repeated (body : Regex) (least : Nat) (most : Option Nat)
  | group (number : Nat) (body : Regex)
  /-- What a group has matched before; the text may be compared without regard to cases. -/
  | back (number : Nat) (fold : Option Bool)
  deriving DecidableEq, Repr

namespace Regex

/-- A place in a line. -/
structure Spot where
  /-- The characters before the place, the nearest one first. -/
  before : List Char
  rest : List Char
  /-- The length of the rest. -/
  left : Nat
  /-- What the groups have matched. -/
  groups : List (Nat × List Char)

namespace Spot

/-- The start of a line. -/
def ofLine (line : List Char) : Spot := ⟨[], line, line.length, []⟩

/-- The place some characters further on. -/
def advance (s : Spot) (n : Nat) : Spot :=
  ⟨(s.rest.take n).reverse ++ s.before, s.rest.drop n, s.left - n, s.groups⟩

/-- Whether two places with their groups are the same. -/
def same (s t : Spot) : Bool := s.left == t.left && s.groups == t.groups

/-- The places of a list, each once. -/
def distinct (spots : List Spot) : List Spot :=
  (spots.foldl (fun seen s => if seen.any s.same then seen else s :: seen) []).reverse

/-- Whether the character before a place belongs to a word. -/
def wordBefore (unicode : Bool) (s : Spot) : Bool :=
  (s.before.head?.map (isWordChar unicode)).getD false

/-- Whether the character after a place belongs to a word. -/
def wordAfter (unicode : Bool) (s : Spot) : Bool :=
  (s.rest.head?.map (isWordChar unicode)).getD false

/-- Whether a place is as asked. -/
def meets (s : Spot) : Edge → Bool
  | .lineStart => s.before.isEmpty
  | .lineEnd => s.rest.isEmpty
  | .wordStart unicode => !s.wordBefore unicode && s.wordAfter unicode
  | .wordEnd unicode => s.wordBefore unicode && !s.wordAfter unicode
  | .wordEdge unicode => s.wordBefore unicode != s.wordAfter unicode
  | .noWordEdge unicode => s.wordBefore unicode == s.wordAfter unicode

/-- The places after exactly so many steps. -/
def times (step : Spot → List Spot) : Nat → List Spot → List Spot
  | 0, spots => spots
  | n + 1, spots => times step n (distinct (spots.flatMap step))

/-- The places after at most so many steps, each of which goes forward. -/
def within (step : Spot → List Spot) : Nat → List Spot → List Spot
  | 0, spots => spots
  | n + 1, spots =>
    let next := distinct (spots.flatMap fun s => (step s).filter fun t => t.left < s.left)
    if next.isEmpty then spots else within step n next ++ spots

end Spot

/-- The places at which a match from a place may end. -/
def ends : Regex → Spot → List Spot
  | .empty, s => [s]
  | .one test, s =>
    match s.rest with
    | [] => []
    | c :: rest =>
      if test.passes c then [⟨c :: s.before, rest, s.left - 1, s.groups⟩] else []
  | .edge e, s => if s.meets e then [s] else []
  | .both first second, s =>
    match ends first s with
    | [t] => ends second t
    | spots => Spot.distinct (spots.flatMap (ends second))
  | .either first second, s => Spot.distinct (ends first s ++ ends second s)
  | .repeated body least most, s =>
    let needed := Spot.times (ends body) least [s]
    let more := match most with
      | some most => most - least
      | none => s.left
    Spot.distinct (Spot.within (ends body) more needed)
  | .group number body, s =>
    (ends body s).map fun t =>
      { t with groups := (number, s.rest.take (s.left - t.left)) ::
          t.groups.filter (·.1 ≠ number) }
  | .back number fold?, s =>
    match s.groups.lookup number with
    | none => []
    | some text =>
      let fold (cs : List Char) : List Char := match fold? with
        | some unicode => cs.map (caseKey unicode)
        | none => cs
      if fold (s.rest.take text.length) = fold text then [s.advance text.length] else []

/-- Whether an expression refers back to a group. -/
def refersBack : Regex → Bool
  | .both a b | .either a b => a.refersBack || b.refersBack
  | .repeated a _ _ | .group _ a => a.refersBack
  | .back _ _ => true
  | _ => false

/-- An expression without its groups. -/
def ungrouped : Regex → Regex
  | .both a b => .both a.ungrouped b.ungrouped
  | .either a b => .either a.ungrouped b.ungrouped
  | .repeated a least most => .repeated a.ungrouped least most
  | .group _ a => a.ungrouped
  | e => e

/-- An expression without groups to which nothing refers. -/
def simplified (e : Regex) : Regex := if e.refersBack then e else e.ungrouped

/-- The expression for the same texts without regard to cases. -/
def folded (unicode : Bool) : Regex → Regex
  | .one test => .one (test.folded unicode)
  | .both a b => .both (a.folded unicode) (b.folded unicode)
  | .either a b => .either (a.folded unicode) (b.folded unicode)
  | .repeated a least most => .repeated (a.folded unicode) least most
  | .group number a => .group number (a.folded unicode)
  | .back number _ => .back number (some unicode)
  | e => e

/-- The text letter by letter. -/
def literal (cs : List Char) : Regex := cs.foldr (fun c e => .both (.one (.exactly c)) e) .empty

/-- The farthest of some places. -/
def farthest : List Spot → Option Spot
  | [] => none
  | s :: spots =>
    match farthest spots with
    | none => some s
    | some t => if t.left < s.left then some t else some s

/-- The leftmost stretch, and the longest one from there, whose ends pass a check: the place where
it starts and the place where it ends. -/
def findFrom (check : Spot → Spot → Bool) (e : Regex) : (steps : Nat) → Spot →
    Option (Spot × Spot)
  | 0, s => (farthest ((ends e s).filter (check s))).map fun t => (s, t)
  | steps + 1, s =>
    match farthest ((ends e s).filter (check s)) with
    | some t => some (s, t)
    | none => if s.rest.isEmpty then none else findFrom check e steps (s.advance 1)

/-- The first match from a place on. -/
def find? (check : Spot → Spot → Bool) (e : Regex) (s : Spot) :
    Option (Spot × Spot) :=
  findFrom check e s.left s

/-- Whether an expression matches a text as a whole. -/
def matchesAll (e : Regex) (cs : List Char) : Bool :=
  (e.ends (Spot.ofLine cs)).any fun s => s.left = 0

end Regex

end PlannerTrials.Host
