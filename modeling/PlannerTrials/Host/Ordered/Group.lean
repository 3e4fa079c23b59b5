import PlannerTrials.Host.Ordered.Members

/-!
# Groups that are being read

While a pattern is read, each of its groups that is open has a `Frame` with the branches and the parts read so
far.  What a group is for decides what becomes of them when it is closed.  The settings that a group changes
hold up to its end.
-/

namespace PlannerTrials.Host

namespace Ordered

/-- How the signs of a pattern are meant. -/
structure Settings where
  /-- Cases do not count. -/
  folded : Bool := false
  /-- Lines start and end within the text. -/
  inLines : Bool := false
  /-- A point is for all characters, those that end lines too. -/
  dotAll : Bool := false
  /-- Blanks and comments stand for nothing, and in sets too. -/
  isLoose : Bool := false
  isLooser : Bool := false
  /-- Only groups with names are kept. -/
  namedOnly : Bool := false
  /-- Groups may share names. -/
  sharedNames : Bool := false
  /-- Repetitions are lazy, if they are not marked. -/
  isLazy : Bool := false
  deriving DecidableEq, Repr

namespace Settings

/-- The settings after a letter for one of them has been given. -/
def change (s : Settings) (value : Bool) : Char → Option Settings
  | 'i' => some { s with folded := value }
  | 'm' => some { s with inLines := value }
  | 's' => some { s with dotAll := value }
  | 'x' => some { s with isLoose := value, isLooser := false }
  | 'n' => some { s with namedOnly := value }
  | 'J' => some { s with sharedNames := value }
  | 'U' => some { s with isLazy := value }
  | _ => none

/-- Reads settings up to a sign that ends them.  After a hyphen they are taken back, and if all have been
taken back at the start there is no hyphen. -/
def read : (value hyphen : Bool) → Settings → List Char → Except Fault (Settings × List Char)
  | _, _, _, [] => .error .openGroup
  | _, _, s, ')' :: rest => .ok (s, ')' :: rest)
  | _, _, s, ':' :: rest => .ok (s, ':' :: rest)
  | _, hyphen, s, '-' :: rest => if hyphen then read false false s rest else .error .lateHyphen
  | value, hyphen, s, 'x' :: 'x' :: rest => read value hyphen { s with isLoose := value, isLooser := value } rest
  | value, hyphen, s, c :: rest =>
    match s.change value c with
    | some s => read value hyphen s rest
    | none => .error .unknownSign

/-- The settings that are taken back all at once. -/
def cleared (s : Settings) : Settings := { sharedNames := s.sharedNames, isLazy := s.isLazy }

end Settings

/-- What a group is for. -/
inductive GroupKind where
  | plain
  | kept (number : Nat)
  | atomic
  | look (behind holds : Bool)
  | condition (asked : Condition)
  /-- Its first part is a look on which it depends how it goes on. -/
  | lookingCondition
  deriving DecidableEq, Repr

/-- A group that is open. -/
structure Frame where
  kind : GroupKind
  /-- The number of the group among all groups. -/
  number : Nat
  /-- The settings around the group. -/
  settings : Settings
  /-- The branches that are complete, the last one first. -/
  branches : List (List Part) := []
  /-- The parts of the last branch, the last one first. -/
  parts : List Part := []
  /-- If each branch numbers its groups anew: the number of groups before, and the most after a branch. -/
  numbering : Option (Nat × Nat) := none
  /-- The group is the look of a condition. -/
  isAsked : Bool := false

namespace Frame

/-- All branches. -/
def allBranches (f : Frame) : List (List Part) := (f.parts.reverse :: f.branches).reverse

/-- Branches of which the first one that matches is taken. -/
def choice (number : Nat) : List (List Part) → Part
  | [] => .empty
  | [branch] => .sequence branch
  | branch :: branches => .either number (.sequence branch) (choice number branches)

/-- What stands between the brackets. -/
def body (f : Frame) : Part := choice f.number f.allBranches

/-- The group with another part. -/
def put (f : Frame) (part : Part) : Frame := { f with parts := part :: f.parts }

/-- The group with what becomes of its last part. -/
def mapLast (f : Frame) (g : Part → Part) : Frame :=
  match f.parts with
  | [] => f
  | part :: parts => { f with parts := g part :: parts }

/-- The part that a group is. -/
def close (f : Frame) : Part :=
  match f.kind with
  | .plain => .group none f.body
  | .kept number => .group (some number) f.body
  | .atomic => .atomic f.body
  | .look behind holds => .look behind holds f.body
  | .condition asked =>
    match f.allBranches with
    | yes :: others => .condition asked (.sequence yes) (choice 0 others)
    | [] => .empty
  | .lookingCondition =>
    match f.allBranches with
    | (.look behind holds asked :: yes) :: others =>
      .either 0 (.both (.look behind holds asked) (.sequence yes))
        (.both (.look behind (!holds) asked) (choice 0 others))
    | _ => .empty

/-- What is wrong with the number of branches. -/
def branchFault? (f : Frame) : Option Fault :=
  let count := f.allBranches.length
  match f.kind with
  | .condition .definition => if 1 < count then some .tooManyDefinitions else none
  | .condition _ | .lookingCondition => if 2 < count then some .tooManyBranches else none
  | _ => none

/-- Whether it is looked around a place. -/
def isLook (f : Frame) : Bool := f.kind matches .look _ _

end Frame

end Ordered

end PlannerTrials.Host
