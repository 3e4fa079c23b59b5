import PlannerTrials.Host.Ordered.Group

/-!
# How ordered patterns are written

A pattern is read sign by sign.  What a sign means depends on the settings, which may change within the
pattern, on the groups that are open, and on whether the sign before it can be repeated.  Groups may be
meant before they are opened, so that only at the end it is known whether all of them exist; the faults that
are only found then come after all others.
-/

namespace PlannerTrials.Host

namespace Ordered

/-- What must be true of a complete pattern. -/
inductive Need where
  | known (group : Reference)
  /-- Nothing makes it right that a match starts where it is looked around a place. -/
  | keepOutside
  deriving DecidableEq, Repr

/-- What has been read of a pattern. -/
structure Reader where
  /-- Patterns are about characters, and otherwise about bytes. -/
  unicode : Bool
  settings : Settings
  /-- The innermost group, and those around it. -/
  frame : Frame
  outer : List Frame := []
  /-- The number of groups, and of those that are kept. -/
  frames : Nat := 0
  opened : Nat := 0
  /-- The names of groups, the last one first. -/
  names : List (List Char × Nat) := []
  /-- The groups that are complete, the last one first. -/
  groups : List (Nat × Part) := []
  /-- What must be true in the end, and the parts that must have a width, the last one first. -/
  needs : List Need := []
  behinds : List Part := []
  /-- The first group with too many branches. -/
  late : Option Fault := none
  /-- All signs stand for themselves. -/
  quoted : Bool := false
  /-- The last sign can be repeated. -/
  repeatable : Bool := false
  /-- The look of a condition must come next: two before a note, one after it. -/
  expecting : Nat := 0

namespace Reader

/-- A step of reading. -/
abbrev Step := Except Fault (Reader × List Char)

/-- The reader with another part. -/
def put (r : Reader) (part : Part) (repeatable : Bool) : Reader :=
  { r with frame := r.frame.put part, repeatable }

/-- How letters are compared. -/
def fold (r : Reader) : Option Bool := if r.settings.folded then some r.unicode else none

/-- The reader with another letter. -/
def putLetter (r : Reader) (c : Char) : Reader := r.put (.one (.single r.fold c)) true

/-- The reader with another part that means a group. -/
def putReference (r : Reader) (group : Reference) (part : Part) : Reader :=
  { r.put part true with needs := .known group :: r.needs }

/-- The reader with a part that calls a group. -/
def putCall (r : Reader) (group : Reference) : Reader := r.putReference group (.call group)

/-- The reader with a part for what a group has matched. -/
def putBack (r : Reader) (group : Reference) : Reader := r.putReference group (.back group r.fold)

/-- The reader with another open group, whose settings are those at the place. -/
def openFrame (r : Reader) (kind : GroupKind) : Reader :=
  { r with
    frame := { kind, number := r.frames + 1, settings := r.settings }
    outer := r.frame :: r.outer
    frames := r.frames + 1 }

/-- The reader with another open group that is kept. -/
def openKept (r : Reader) : Reader :=
  { r.openFrame (.kept (r.opened + 1)) with opened := r.opened + 1 }

/-- The reader with a look that is opened. -/
def openLook (r : Reader) (expecting : Nat) (behind holds : Bool) : Reader :=
  let r := r.openFrame (.look behind holds)
  { r with frame := { r.frame with isAsked := 0 < expecting } }

/-- The reader after the end of a branch. -/
def nextBranch (r : Reader) : Reader :=
  let f := { r.frame with branches := r.frame.parts.reverse :: r.frame.branches, parts := [] }
  match f.numbering with
  | none => { r with frame := f }
  | some (before, most) =>
    { r with frame := { f with numbering := some (before, max most r.opened) }, opened := before }

/-- The reader after the end of a group. -/
def close (r : Reader) : Except Fault Reader :=
  let f := r.frame
  match r.outer with
  | [] => .error .closedGroup
  | parent :: outer =>
    .ok { r with
      frame := parent.put f.close
      outer
      settings := f.settings
      opened := match f.numbering with
        | some (_, most) => max most r.opened
        | none => r.opened
      groups := match f.kind with
        | .kept number => (number, f.body) :: r.groups
        | _ => r.groups
      behinds := match f.kind with
        | .look true _ => f.body :: r.behinds
        | _ => r.behinds
      late := r.late <|> f.branchFault?
      repeatable := !f.isAsked }

/-! ## Repetitions -/

/-- Reads what stands after a sign of repetition: the choices may be given up, or the other end may come
first. -/
def takeRepetition (r : Reader) (repeatable : Bool) (least : Nat) (most : Option Nat)
    (rest : List Char) : Step :=
  if !repeatable then .error .nothingToRepeat
  else
    let again (isLazy : Bool) (part : Part) : Part := .repeated part least most isLazy
    match rest with
    | '+' :: rest => .ok ({ r with frame := r.frame.mapLast fun part => .atomic (again false part) }, rest)
    | '?' :: rest => .ok ({ r with frame := r.frame.mapLast (again !r.settings.isLazy) }, rest)
    | _ => .ok ({ r with frame := r.frame.mapLast (again r.settings.isLazy) }, rest)

/-! ## Escapes -/

/-- The end of a line. -/
def lineBreak : Part :=
  .atomic (.either 0 (.both (.one (.single none '\r')) (.one (.single none '\n')))
    (.one (.ofRanges false lineBlanks)))

/-- A character with the marks that belong to it. -/
def cluster : Part :=
  let joined := CharSet.mk false [⟨Property.marks.test false, none⟩, ⟨.exactly (Char.ofNat 0x200d), none⟩]
  .atomic (.either 0 (.both (.one (.single none '\r')) (.one (.single none '\n')))
    (.both (.one .all) (.repeated (.one joined) 0 none false)))

/-- The place that a letter after a backslash asks for. -/
def landmark? : Char → Option Landmark
  | 'A' => some .textStart
  | 'G' => some .searchStart
  | 'Z' => some .lastEnd
  | 'z' => some .textEnd
  | 'b' => some .wordEdge
  | 'B' => some .noWordEdge
  | _ => none

/-- The sign that ends a name after a sign that starts it. -/
def nameEnding? : Char → Option Char
  | '<' => some '>'
  | '\'' => some '\''
  | '\x7b' => some '\x7d'
  | _ => none

/-- Reads the name of a group that is called or referred back to. -/
def takeNamedReference (r : Reader) (calls : Bool) (rest : List Char) : Step := do
  let fault : Fault := if calls then .badCall else .badNamedReference
  match rest with
  | [] => throw fault
  | c :: inner =>
    match nameEnding? c with
    | none => throw fault
    | some ending =>
      let number ← if calls then readNumber r.opened inner else pure (none, inner)
      match number with
      | (some n, d :: rest) => if d = ending then return (r.putCall (.number n), rest) else throw .badCall
      | (some _, []) => throw .badCall
      | (none, _) =>
        let (name, rest) ← readName r.unicode ending inner
        return (if calls then r.putCall (.name name) else r.putBack (.name name), rest)

/-- Whether it is being looked around a place. -/
def isLooking (r : Reader) : Bool := (r.frame :: r.outer).any Frame.isLook

/-- Reads what stands after a backslash. -/
def takeEscape (r : Reader) (rest : List Char) : Step := do
  match ← readEscape r.unicode false r.opened rest with
  | (.letter c, rest) => return (r.putLetter c, rest)
  | (.back n, rest) => return (r.putBack (.number n), rest)
  | (.sign 'K', rest) =>
    let needs := if r.isLooking then .keepOutside :: r.needs else r.needs
    return ({ r.put .keep false with needs }, rest)
  | (.sign 'C', rest) => return (r.put (.one .all) true, rest)
  | (.sign 'N', rest) => return (r.put (.one .ofLine) true, rest)
  | (.sign 'R', rest) => return (r.put lineBreak true, rest)
  | (.sign 'X', rest) => return (r.put cluster true, rest)
  | (.sign 'g', rest) => r.takeNamedReference true rest
  | (.sign 'k', rest) => r.takeNamedReference false rest
  | (.sign c, rest) =>
    if c = 'p' ∨ c = 'P' then
      let (test, rest) ← readProperty (c = 'P') rest
      return (r.put (.one ⟨false, [⟨test, none⟩]⟩) true, rest)
    else
      match kind? c, landmark? c with
      | some test, _ => return (r.put (.one ⟨false, [⟨test, none⟩]⟩) true, rest)
      | none, some asked => return (r.put (.place asked) false, rest)
      | none, none => throw .unknownEscape

/-! ## Verbs -/

/-- What a name after a bracket and a star means. -/
inductive StarName where
  | marking
  | accept
  | fail
  | commit
  | prune
  | skip
  | next
  deriving DecidableEq, Repr

/-- The names after a bracket and a star. -/
def starNames : List (String × StarName) :=
  [("", .marking), ("MARK", .marking), ("ACCEPT", .accept), ("F", .fail), ("FAIL", .fail),
    ("COMMIT", .commit), ("PRUNE", .prune), ("SKIP", .skip), ("THEN", .next)]

/-- The groups that can be opened by a name. -/
def groupNames : List (String × GroupKind) :=
  let look (behind holds : Bool) (names : List String) : List (String × GroupKind) :=
    names.map fun name => (name, .look behind holds)
  look false true ["pla", "positive_lookahead", "napla", "non_atomic_positive_lookahead"] ++
    look true true ["plb", "positive_lookbehind", "naplb", "non_atomic_positive_lookbehind"] ++
    look false false ["nla", "negative_lookahead"] ++ look true false ["nlb", "negative_lookbehind"] ++
    ["atomic", "asr", "atomic_script_run"].map (fun name => (name, .atomic)) ++
    ["sr", "script_run"].map fun name => (name, .plain)

/-- The longest name of a mark. -/
def markLimit : Nat := 255

/-- Reads a group that is opened by a name. -/
def takeGroupName (r : Reader) (expecting : Nat) (rest : List Char) : Step := do
  let name := rest.takeWhile isNarrowWordChar
  if nameLimit < name.length then throw .nameTooLong
  match rest.drop name.length, groupNames.lookup (String.ofList name) with
  | ':' :: rest, some (.look behind holds) =>
    if 0 < expecting ∧ (name.take 2 = "na".toList ∨ name.take 3 = "non".toList) then
      throw .noAtomicAssertion
    return (r.openLook expecting behind holds, rest)
  | ':' :: rest, some kind => if 0 < expecting then throw .noAssertion else return (r.openFrame kind, rest)
  | _, _ => throw .unknownAssertion

/-- Reads a verb. -/
def takeVerb (r : Reader) (rest : List Char) : Step := do
  let name := rest.takeWhile isNarrowWordChar
  if nameLimit < name.length then throw .nameTooLong
  let rest := rest.drop name.length
  if rest.head? ≠ some ':' ∧ rest.head? ≠ some ')' then throw .badVerb
  match starNames.lookup (String.ofList name) with
  | none => throw .badVerb
  | some meant =>
    let isMarked := rest.head? == some ':' && rest.tail.head? != some ')'
    if meant = .marking ∧ !isMarked then throw .noMark
    let text := rest.drop 1
    let mark := if isMarked then text.takeWhile (· ≠ ')') else []
    let rest := text.drop (if rest.head? == some ')' then 0 else mark.length + 1)
    if isMarked ∧ mark.length = text.length then throw .badVerb
    if markLimit < mark.length then throw .verbNameTooLong
    let r := if isMarked ∧ meant ≠ .skip then r.put (.mark mark) false else r
    let r := match meant with
      | .marking => r
      | .accept => r.put .accept true
      | .fail => r.put .fail false
      | .commit => r.put (.verb .commit) false
      | .prune => r.put (.verb .prune) false
      | .skip => r.put (.verb (.skip (if isMarked then some mark else none))) false
      | .next => r.put (.verb (.next ((r.frame :: r.outer).map Frame.number))) false
    return (r, rest)

/-! ## Groups -/

/-- Opens a group with a name. -/
def openNamed (r : Reader) (ending : Char) (rest : List Char) : Step := do
  let (name, rest) ← readName r.unicode ending rest
  let number := r.opened + 1
  let clash : Option (Except Fault Unit) := r.names.reverse.findSome? fun (other, n) =>
    if other = name then
      if n = number then some (.ok ()) else if r.settings.sharedNames then none else some (.error .nameTaken)
    else if n = number then some (.error .numberNamedTwice)
    else none
  match clash with
  | some (.error fault) => throw fault
  | some (.ok _) => return (r.openKept, rest)
  | none => return ({ r.openKept with names := (name, number) :: r.names }, rest)

/-- Reads a call by a number. -/
def takeNumberedCall (r : Reader) (rest : List Char) : Step := do
  match ← readNumber r.opened rest with
  | (some n, ')' :: rest) => return (r.putCall (.number n), rest)
  | _ => throw .openGroup

/-- What stands around the text of a note. -/
def noteEnding? (c : Char) : Option Char :=
  if c = '\x7b' then some '\x7d' else if "\x60'\"^%#$".toList.contains c then some c else none

/-- What follows the text of a note.  The sign that ends it stands twice for itself. -/
def afterNote (ending : Char) : List Char → Option (List Char)
  | [] => none
  | c :: rest =>
    if c ≠ ending then afterNote ending rest
    else
      match rest with
      | d :: more => if d = ending then afterNote ending more else some rest
      | [] => some []

/-- Passes over a note. -/
def takeNote (r : Reader) (expecting : Nat) (rest : List Char) : Step := do
  let r := { r with expecting := expecting - 1 }
  let rest ← match rest with
    | [] => throw .openGroup
    | c :: inner =>
      if c = ')' ∨ Number.isDigit c then
        let digits := rest.takeWhile Number.isDigit
        if 255 < Number.digitsValue 0 digits then throw .noteTooBig
        pure (rest.drop digits.length)
      else
        match noteEnding? c with
        | none => throw .noteDelimiter
        | some ending =>
          match afterNote ending inner with
          | some rest => pure rest
          | none => throw .openQuotedNote
  match rest with
  | ')' :: rest => return (r, rest)
  | _ => throw .openNote

/-- Reads the condition about the version of patterns, which is 10.42. -/
def readVersion (text : List Char) : Except Fault (Condition × List Char) := do
  let (orLater, text) := match text with
    | '>' :: rest => (true, rest)
    | rest => (false, rest)
  match text with
  | '=' :: text =>
    let major := text.takeWhile Number.isDigit
    if major = [] ∨ 3 < major.length then throw .badVersion
    let rest := text.drop major.length
    let (minor, rest) := match rest with
      | '.' :: rest => (some (rest.takeWhile Number.isDigit), rest.dropWhile Number.isDigit)
      | rest => (none, rest)
    let places := minor.getD ['0']
    if places = [] ∨ 2 < places.length ∨ rest.head? ≠ some ')' then throw .badVersion
    let value := Number.digitsValue 0 major * 100 +
      Number.digitsValue 0 places * (if places.length = 1 then 10 else 1)
    return (.known (if orLater then value ≤ 1042 else value = 1042), rest)
  | _ => throw .badVersion

/-- Reads a condition after its bracket up to the one that ends it, with what must be true for it. -/
def readCondition (r : Reader) (text : List Char) : Except Fault ((Condition × List Need) × List Char) := do
  let about (condition : Reference → Condition) (group : Reference) : Condition × List Need :=
    (condition group, [.known group])
  match ← readNumber r.opened text with
  | (some n, rest) =>
    if n = 0 then throw .noSuchGroup else return (about .matched (.number n), rest)
  | (none, _) =>
    if text.take 7 = "VERSION".toList ∧ 10 ≤ text.length ∧ text[7]? ≠ some ')' then
      let (condition, rest) ← readVersion (text.drop 7)
      return ((condition, []), rest)
    match text with
    | '<' :: inner =>
      let (name, rest) ← readName r.unicode '>' inner
      return (about .matched (.name name), rest)
    | '\'' :: inner =>
      let (name, rest) ← readName r.unicode '\'' inner
      return (about .matched (.name name), rest)
    | 'R' :: '&' :: inner =>
      let (name, rest) ← readName r.unicode ')' inner
      return (about (fun group => .called (some group)) (.name name), ')' :: rest)
    | _ =>
      let (name, rest) ← readName r.unicode ')' text
      let isKnown := (r.names.lookup name).isSome
      let found : Condition × List Need :=
        if name = "DEFINE".toList then (.definition, [])
        else
          match isKnown, name with
          | false, ['R'] => (.called none, [])
          | false, 'R' :: digits =>
            if digits.all Number.isDigit then
              about (fun group => .called (some group)) (.number (Number.digitsValue 0 digits))
            else about .matched (.name name)
          | _, _ => about .matched (.name name)
      return (found, ')' :: rest)

/-- Opens a group with a condition. -/
def openCondition (r : Reader) (rest : List Char) : Step := do
  match rest with
  | [] => throw .openGroup
  | '?' :: _ => return ({ r.openFrame .lookingCondition with expecting := 2 }, '(' :: rest)
  | '*' :: _ => return ({ r.openFrame .lookingCondition with expecting := 2 }, '(' :: rest)
  | _ =>
    let ((condition, needs), rest) ← r.readCondition rest
    match rest with
    | ')' :: rest => return ({ r.openFrame (.condition condition) with needs := needs ++ r.needs }, rest)
    | _ => throw .openCondition

/-- Reads settings, which hold from here on or within the group that they open. -/
def takeSettings (r : Reader) (text : List Char) : Step := do
  let (settings, rest) ← match text with
    | '^' :: rest => Settings.read true false r.settings.cleared rest
    | _ => Settings.read true true r.settings text
  match rest with
  | ':' :: rest => return ({ r.openFrame .plain with settings }, rest)
  | rest => return ({ r with settings }, rest.drop 1)

/-- Reads what stands after a bracket and a question mark. -/
def takeMarked (r : Reader) (expecting : Nat) (text : List Char) : Step := do
  match text with
  | [] => throw .openGroup
  | '|' :: rest =>
    let r := r.openFrame .plain
    return ({ r with frame := { r.frame with numbering := some (r.opened, r.opened) } }, rest)
  | '>' :: rest => return (r.openFrame .atomic, rest)
  | '=' :: rest => return (r.openLook expecting false true, rest)
  | '*' :: rest => return (r.openLook expecting false true, rest)
  | '!' :: rest => return (r.openLook expecting false false, rest)
  | '<' :: '=' :: rest => return (r.openLook expecting true true, rest)
  | '<' :: '*' :: rest => return (r.openLook expecting true true, rest)
  | '<' :: '!' :: rest => return (r.openLook expecting true false, rest)
  | '<' :: rest => r.openNamed '>' rest
  | '\'' :: rest => r.openNamed '\'' rest
  | 'P' :: [] => throw .openGroup
  | 'P' :: '<' :: rest => r.openNamed '>' rest
  | 'P' :: '>' :: rest =>
    let (name, rest) ← readName r.unicode ')' rest
    return (r.putCall (.name name), rest)
  | 'P' :: '=' :: rest =>
    let (name, rest) ← readName r.unicode ')' rest
    return (r.putBack (.name name), rest)
  | 'P' :: _ => throw .unknownNamedSign
  | '&' :: rest =>
    let (name, rest) ← readName r.unicode ')' rest
    return (r.putCall (.name name), rest)
  | 'R' :: ')' :: rest => return (r.putCall (.number 0), rest)
  | 'R' :: _ => throw .openCall
  | 'C' :: rest => r.takeNote expecting rest
  | '(' :: rest => r.openCondition rest
  | '+' :: rest =>
    if (rest.head?.map Number.isDigit).getD false then r.takeNumberedCall text else throw .noDigit
  | c :: rest =>
    let next := if c = '-' then rest.head? else some c
    if (next.map Number.isDigit).getD false then r.takeNumberedCall text else r.takeSettings text

/-- Reads what stands after a bracket. -/
def takeOpening (r : Reader) (expecting : Nat) (text : List Char) : Step := do
  match text with
  | [] => throw .openGroup
  | '?' :: rest => r.takeMarked expecting rest
  | '*' :: rest =>
    match rest with
    | [] => return (r, text)
    | c :: _ =>
      if c = ')' then return (r, text)
      else if c.isLower then r.takeGroupName expecting rest
      else r.takeVerb rest
  | _ => return (if r.settings.namedOnly then r.openFrame .plain else r.openKept, text)

/-! ## Signs -/

/-- Whether a sign stands for nothing where blanks do. -/
def isLooseBlank (c : Char) : Bool :=
  (CharClass.ranges .space).any (fun r => r.1 ≤ c && c ≤ r.2) ||
    [0x85, 0x200e, 0x200f, 0x2028, 0x2029].contains c.toNat

/-- Whether a bracket opens a look that may be a condition. -/
def opensLook (expecting : Nat) : List Char → Bool
  | '*' :: c :: _ :: _ => c.isLower
  | '?' :: 'C' :: _ :: _ => expecting = 2
  | '?' :: '=' :: _ :: _ => true
  | '?' :: '!' :: _ :: _ => true
  | '?' :: '<' :: c :: _ => c = '=' ∨ c = '!'
  | _ => false

/-- Reads a set, or the start or the end of a word. -/
def takeSet (r : Reader) (text : List Char) : Step := do
  let word : Part := .one (.ofRanges false wordRanges)
  let edge (behind : Bool) : Part := .both (.place .wordEdge) (.look behind true word)
  if text.take 6 = "[:<:]]".toList then return (r.put (edge false) true, text.drop 6)
  else if text.take 6 = "[:>:]]".toList then return (r.put (edge true) true, text.drop 6)
  else
    match readNamed text with
    | some _ => throw (if text.head? == some ':' then .classOutside else .collation)
    | none =>
      let manner : SetManner :=
        { unicode := r.unicode, folded := r.settings.folded, isLoose := r.settings.isLooser }
      let (set, rest) ← readSet manner text
      return (r.put (.one set) true, rest)

/-- Reads a sign that stands for something. -/
def takeSign (r : Reader) (c : Char) (rest : List Char) : Step := do
  if 0 < r.expecting ∧ !(c = '(' && opensLook r.expecting rest) then throw .noAssertion
  let expecting := r.expecting
  let repeatable := r.repeatable
  let r := { r with expecting := 0, repeatable := false }
  match c with
  | '\\' => r.takeEscape rest
  | '^' => return (r.put (.place (if r.settings.inLines then .lineStart else .textStart)) false, rest)
  | '$' => return (r.put (.place (if r.settings.inLines then .lineEnd else .textEnd)) false, rest)
  | '.' => return (r.put (.one (if r.settings.dotAll then .all else .ofLine)) true, rest)
  | '*' => r.takeRepetition repeatable 0 none rest
  | '+' => r.takeRepetition repeatable 1 none rest
  | '?' => r.takeRepetition repeatable 0 (some 1) rest
  | '\x7b' =>
    match ← readCounts rest with
    | some ((least, most), rest) => r.takeRepetition repeatable least most rest
    | none => return (r.putLetter c, rest)
  | '[' => r.takeSet rest
  | '(' => r.takeOpening expecting rest
  | '|' => return (r.nextBranch, rest)
  | ')' => return (← r.close, rest)
  | _ => return (r.putLetter c, rest)

/-- The deepest nesting of groups. -/
def depthLimit : Nat := 250

/-- Reads the next sign. -/
def take (r : Reader) (c : Char) (rest : List Char) : Step := do
  if depthLimit < r.outer.length then throw .tooDeep
  match r.quoted, c, rest with
  | true, '\\', 'E' :: rest => return ({ r with quoted := false }, rest)
  | true, _, _ => if 0 < r.expecting then throw .noAssertion else return (r.putLetter c, rest)
  | false, '\\', 'Q' :: rest => return ({ r with quoted := true }, rest)
  | false, '\\', 'E' :: rest => return (r, rest)
  | false, '(', '?' :: '#' :: rest =>
    match rest.dropWhile (· ≠ ')') with
    | [] => throw .openComment
    | _ :: rest => return (r, rest)
  | _, _, _ =>
    if r.settings.isLoose ∧ isLooseBlank c then return (r, rest)
    else if r.settings.isLoose ∧ c = '#' then return (r, (rest.dropWhile (· ≠ '\n')).drop 1)
    else r.takeSign c rest

/-- Reads all signs. -/
def takeAll : (fuel : Nat) → Reader → List Char → Except Fault Reader
  | 0, r, _ => .ok r
  | _, r, [] => .ok r
  | fuel + 1, r, c :: rest => do
    let (r, rest) ← r.take c rest
    takeAll fuel r rest

/-- Whether a need is met. -/
def meets (r : Reader) : Need → Except Fault Unit
  | .known (.number n) => if n ≤ r.opened then .ok () else .error .noSuchGroup
  | .known (.name text) => if (r.names.lookup text).isSome then .ok () else .error .noSuchGroup
  | .keepOutside => .error .keepInLook

/-- The complete pattern. -/
def finish (r : Reader) : Except Fault Ordered := do
  if r.outer ≠ [] then throw .openGroup
  let p : Ordered := { body := r.frame.body, groups := r.groups.reverse, names := r.names.reverse }
  r.behinds.reverse.forM fun part => part.branches.forM fun branch => do
    let _ ← p.width branch
  r.needs.reverse.forM r.meets
  match r.late with
  | some fault => throw fault
  | none => return p

end Reader

/-- How patterns are meant from the start. -/
structure Manner where
  /-- Patterns are about characters, and otherwise about bytes. -/
  unicode : Bool := false
  /-- Cases do not count. -/
  folded : Bool := false
  /-- Only whole words match, or only whole lines. -/
  words : Bool := false
  whole : Bool := false
  deriving DecidableEq, Repr

/-- The words about how a search is done that may stand at the start of a pattern; none of them changes what
matches in a line of text. -/
def startWords : List (List Char) :=
  ["BSR_UNICODE)", "BSR_ANYCRLF)", "CRLF)", "LF)", "CR)", "ANY)", "ANYCRLF)", "NUL)", "NO_AUTO_POSSESS)",
    "NO_DOTSTAR_ANCHOR)", "NO_JIT)", "NO_START_OPT)", "NOTEMPTY)", "NOTEMPTY_ATSTART)", "UCP)",
    "UTF)"].map String.toList

/-- The words at the start of a pattern that are followed by a number. -/
def startLimits : List (List Char) :=
  ["LIMIT_HEAP=", "LIMIT_MATCH=", "LIMIT_DEPTH=", "LIMIT_RECURSION="].map String.toList

/-- What follows the words at the start of a pattern. -/
def dropStart : (fuel : Nat) → List Char → Except Fault (List Char)
  | 0, text => .ok text
  | fuel + 1, text =>
    match text with
    | '(' :: '*' :: rest =>
      let begins (word : List Char) : Bool := word.isPrefixOf rest
      match startWords.find? begins, startLimits.find? begins with
      | some word, _ => dropStart fuel (rest.drop word.length)
      | none, some word =>
        let digits := (rest.drop word.length).takeWhile Number.isDigit
        match rest.drop (word.length + digits.length) with
        | ')' :: rest => if digits = [] then .error .badVerb else dropStart fuel rest
        | _ => .error .badVerb
      | none, none => .ok text
    | _ => .ok text

/-- The pattern for what a text means. -/
def ofText (manner : Manner) (text : List Char) : Except Fault Ordered := do
  let isWord := manner.words && !manner.whole
  let text ← if isWord then pure ("(?<!\\w)(?:".toList ++ text ++ ")(?!\\w)".toList)
    else dropStart text.length text
  let settings : Settings := { folded := manner.folded }
  let start : Reader := {
    unicode := manner.unicode
    settings
    frame := { kind := .plain, number := 0, settings } }
  let r ← Reader.takeAll (2 * text.length + 1) start text
  let p ← r.finish
  if manner.whole then
    return { p with body := .sequence [.place .textStart, .group none p.body, .place .textEnd] }
  else return p

end Ordered

end PlannerTrials.Host
