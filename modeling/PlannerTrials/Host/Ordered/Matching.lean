import PlannerTrials.Host.Ordered.Basic

/-!
# Matching ordered patterns

A pattern is matched step by step.  At each step there is a list of tasks that are left, a place in the
text, and a list of the choices that have not been tried.  A step does the first task, which may put others
before those that are left, and where a task cannot be done, `retreat` goes back to the last choice.
Choices that are given up are dropped from the list.

Since a list never changes, a task that gives up choices just holds the list as it was, and what groups
have matched comes back with the place to which it belongs.
-/

namespace PlannerTrials.Host

namespace Ordered

/-- A place in a text with what is known there. -/
structure Stand extends Regex.Spot where
  /-- What is left of the text at the place where the match starts. -/
  start : Nat

mutual

/-- What is left to do. -/
inductive Task where
  | run (part : Part)
  /-- Goes back by the width of one of the branches and does that branch. -/
  | rewound (part : Part)
  /-- Does a part again, unless it has not moved from the place where so much of the text was left. -/
  | again (body : Part) (least : Nat) (most : Option Nat) (isLazy : Bool) (left : Nat)
  /-- Keeps what a group has matched since a place with so much left. -/
  | close (number : Nat) (text : List Char) (left : Nat)
  /-- Gives up the choices since the ones it holds. -/
  | cut (choices : List Choice)
  /-- Returns to the place from which it was looked around. -/
  | found (stand : Stand) (choices : List Choice)
  /-- Something has been found that must not be there. -/
  | refuted (choices : List Choice)
  /-- Ends the call of a group. -/
  | finish (number : Nat) (groups : List (Nat × List Char))

/-- What has not been tried. -/
inductive Choice where
  | resume (tasks : List Task) (stand : Stand)
  /-- The next branch of a group. -/
  | branch (group : Nat) (tasks : List Task) (stand : Stand)
  /-- A group has no branch left. -/
  | fence (group : Nat)
  /-- It is being looked for something that must be there. -/
  | barrier
  /-- It is being looked for something that must not be there. -/
  | denial (tasks : List Task) (stand : Stand)
  | mark (name : List Char) (left : Nat)
  | verb (verb : Verb) (left : Nat)

end

/-- Where a search goes on after a start without a match. -/
inductive Onward where
  | next
  | nowhere
  /-- At the place with so much left. -/
  | place (left : Nat)
  deriving DecidableEq, Repr

/-- What comes of a step. -/
inductive Progress where
  | on (tasks : List Task) (stand : Stand) (choices : List Choice)
  | done (stand : Stand)
  | failed (onward : Onward)

/-- How it is gone back. -/
inductive Retreat where
  /-- To the last choice. -/
  | any
  /-- To what is before the place from which it is being looked around, or to another start. -/
  | away (onward : Onward)
  /-- To the next branch of one of some groups. -/
  | branch (groups : List Nat)

/-- What was left of the text at the last place with a mark. -/
def marked? (name : List Char) : List Choice → Option Nat
  | [] => none
  | .mark text left :: choices => if text = name then some left else marked? name choices
  | _ :: choices => marked? name choices

/-- Goes back to one of the choices. -/
def retreat : Retreat → List Choice → Progress
  | .away onward, [] => .failed onward
  | _, [] => .failed .next
  | .any, .resume tasks stand :: rest => .on tasks stand rest
  | .any, .branch group tasks stand :: rest => .on tasks stand (.fence group :: rest)
  | .branch groups, .branch group tasks stand :: rest =>
    if groups.contains group then .on tasks stand (.fence group :: rest) else retreat (.branch groups) rest
  | .branch groups, .fence group :: rest =>
    retreat (if groups.contains group then .any else .branch groups) rest
  | _, .denial tasks stand :: rest => .on tasks stand rest
  | _, .barrier :: rest => retreat .any rest
  | .any, .verb asked left :: rest =>
    match asked with
    | .commit => retreat (.away .nowhere) rest
    | .prune => retreat (.away .next) rest
    | .skip none => retreat (.away (.place left)) rest
    | .skip (some name) =>
      match marked? name rest with
      | some left => retreat (.away (.place left)) rest
      | none => retreat .any rest
    | .next groups => retreat (.branch groups) rest
  | how, _ :: rest => retreat how rest

namespace Stand

/-- The place with what a group has matched. -/
def keepGroup (s : Stand) (number : Nat) (text : List Char) : Stand :=
  { s with groups := (number, text) :: s.groups.filter (·.1 ≠ number) }

/-- The place so many characters before. -/
def goBack (s : Stand) (n : Nat) : Stand :=
  { s with before := s.before.drop n, rest := (s.before.take n).reverse ++ s.rest, left := s.left + n }

/-- Whether a place is as asked, in a search that started with so much left. -/
def meets (s : Stand) (origin : Nat) : Landmark → Bool
  | .textStart => s.before.isEmpty
  | .searchStart => s.left = origin
  | .textEnd => s.rest.isEmpty
  | .lastEnd => s.rest.isEmpty || s.rest == ['\n']
  | .lineStart => s.before.isEmpty || (s.before.head? == some '\n' && !s.rest.isEmpty)
  | .lineEnd => s.rest.isEmpty || s.rest.head? == some '\n'
  | .wordEdge => s.toSpot.meets (.wordEdge false)
  | .noWordEdge => s.toSpot.meets (.noWordEdge false)

end Stand

/-- The tasks that are left when a match ends early, after what the open groups have matched is kept. -/
def acceptedAt (s : Stand) : List Task → List Task × Stand
  | [] => ([], s)
  | .close number text left :: tasks =>
    acceptedAt (s.keepGroup number (text.take (left - s.left))) tasks
  | .found stand choices :: tasks => (.found stand choices :: tasks, s)
  | .refuted choices :: tasks => (.refuted choices :: tasks, s)
  | .finish number groups :: tasks => (.finish number groups :: tasks, s)
  | _ :: tasks => acceptedAt s tasks

/-- The number of the group that is being called. -/
def calling? : List Task → Option Nat
  | [] => none
  | .finish number _ :: _ => some number
  | _ :: tasks => calling? tasks

/-- What a group that a reference means has matched. -/
def kept? (p : Ordered) (s : Stand) (r : Reference) : Option (List Char) :=
  (p.numbers r).findSome? fun n => s.groups.lookup n

/-- Whether a condition holds. -/
def Condition.holds (p : Ordered) (tasks : List Task) (s : Stand) : Condition → Bool
  | .matched group => (p.kept? s group).isSome
  | .called none => (calling? tasks).isSome
  | .called (some group) =>
    match calling? tasks with
    | some n => (p.numbers group).contains n
    | none => false
  | .known holds => holds
  | .definition => false

/-- Does a part. -/
def runPart (p : Ordered) (origin : Nat) (part : Part) (tasks : List Task) (s : Stand)
    (choices : List Choice) : Progress :=
  match part with
  | .empty => .on tasks s choices
  | .fail => retreat .any choices
  | .one set =>
    match s.rest with
    | [] => retreat .any choices
    | c :: rest =>
      if set.passes c then
        .on tasks { s with before := c :: s.before, rest, left := s.left - 1 } choices
      else retreat .any choices
  | .place asked => if s.meets origin asked then .on tasks s choices else retreat .any choices
  | .both a b => .on (.run a :: .run b :: tasks) s choices
  | .either group a b => .on (.run a :: tasks) s (.branch group (.run b :: tasks) s :: choices)
  | .repeated body least most isLazy =>
    if most = some 0 then .on tasks s choices
    else
      let more := .run body :: .again body (least - 1) (most.map (· - 1)) isLazy s.left :: tasks
      if least ≠ 0 then .on more s choices
      else if isLazy then .on tasks s (.resume more s :: choices)
      else .on more s (.resume tasks s :: choices)
  | .group none body => .on (.run body :: tasks) s choices
  | .group (some number) body => .on (.run body :: .close number s.rest s.left :: tasks) s choices
  | .atomic body => .on (.run body :: .cut choices :: tasks) s choices
  | .look behind holds body =>
    let task := if behind then .rewound body else .run body
    if holds then .on (task :: .found s choices :: tasks) s (.barrier :: choices)
    else .on (task :: .refuted choices :: tasks) s (.denial tasks s :: choices)
  | .back group fold? =>
    match p.kept? s group with
    | none => retreat .any choices
    | some text =>
      let found := s.rest.take text.length
      let same (c d : Char) : Bool := c = d ||
        match fold? with
        | some unicode => (sameLetters unicode c).contains d
        | none => false
      if found.length = text.length ∧ (found.zip text).all fun (c, d) => same c d then
        .on tasks { s with toSpot := s.toSpot.advance text.length } choices
      else retreat .any choices
  | .call group =>
    match p.called? group with
    | some (number, body) => .on (.run body :: .finish number s.groups :: tasks) s choices
    | none => retreat .any choices
  | .condition asked yes no =>
    .on (.run (if asked.holds p tasks s then yes else no) :: tasks) s choices
  | .keep => .on tasks { s with start := s.left } choices
  | .accept =>
    let (tasks, s) := acceptedAt s tasks
    .on tasks s choices
  | .mark name => .on tasks s (.mark name s.left :: choices)
  | .verb asked => .on tasks s (.verb asked s.left :: choices)

/-- Does the first of the tasks. -/
def step (p : Ordered) (origin : Nat) (tasks : List Task) (s : Stand) (choices : List Choice) : Progress :=
  match tasks with
  | [] => .done s
  | task :: tasks =>
    match task with
    | .run part => p.runPart origin part tasks s choices
    | .rewound (.either group a b) =>
      .on (.rewound a :: tasks) s (.branch group (.rewound b :: tasks) s :: choices)
    | .rewound part =>
      match p.width part with
      | .ok n =>
        if s.before.length < n then retreat .any choices
        else .on (.run part :: tasks) (s.goBack n) choices
      | .error _ => retreat .any choices
    | .again body least most isLazy left =>
      if least = 0 ∧ most = none ∧ s.left = left then .on tasks s choices
      else p.runPart origin (.repeated body least most isLazy) tasks s choices
    | .close number text left => .on tasks (s.keepGroup number (text.take (left - s.left))) choices
    | .cut kept => .on tasks s kept
    | .found stand kept => .on tasks { stand with groups := s.groups, start := s.start } kept
    | .refuted kept => retreat .any kept
    | .finish _ groups => .on tasks { s with groups } choices

/-- The most steps for a match that starts at one place. -/
def stepLimit : Nat := 3000000

/-- Does all tasks, unless they take too many steps. -/
def proceed (p : Ordered) (origin : Nat) : (steps : Nat) → List Task → Stand → List Choice →
    Option (Except Onward Stand)
  | 0, _, _, _ => none
  | steps + 1, tasks, s, choices =>
    match p.step origin tasks s choices with
    | .on tasks s choices => proceed p origin steps tasks s choices
    | .done s => some (.ok s)
    | .failed onward => some (.error onward)

/-- What a search finds. -/
inductive Finding where
  | nothing
  /-- A match from the first place to the second one. -/
  | stretch (first last : Regex.Spot)
  /-- It takes too long to know. -/
  | tooLong

/-- Searches from a place on.  The search started with so much left. -/
def findFrom (p : Ordered) (origin : Nat) : (starts : Nat) → Regex.Spot → Finding
  | 0, _ => .nothing
  | starts + 1, s =>
    let further (n : Nat) : Finding :=
      if s.left < n then .nothing else findFrom p origin starts (s.advance n)
    match p.proceed origin stepLimit [.run p.body] ⟨s, s.left⟩ [] with
    | some (.ok t) => .stretch (s.advance (s.left - t.start)) t.toSpot
    | some (.error .next) => further 1
    | some (.error .nowhere) => .nothing
    | some (.error (.place left)) => further (max 1 (s.left - left))
    | none => .tooLong

/-- The first match from a place on.  Nothing is known of matches before. -/
def find (p : Ordered) (s : Regex.Spot) : Finding := p.findFrom s.left (s.left + 1) { s with groups := [] }

end Ordered

end PlannerTrials.Host
