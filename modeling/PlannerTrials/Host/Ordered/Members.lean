import PlannerTrials.Host.Ordered.Escape
import PlannerTrials.Host.Ordered.Property

/-!
# Sets in brackets

A set of characters stands in square brackets.  Its members are characters, ranges, and kinds of characters
by their names or by a letter after a backslash.  A hyphen between two characters makes a range; next to
a kind it must be the last character.
-/

namespace PlannerTrials.Host

namespace Ordered

/-! ## Kinds of characters -/

/-- Blanks within a line. -/
def flatBlanks : List (Char × Char) :=
  [(0x9, 0x9), (0x20, 0x20), (0xa0, 0xa0), (0x1680, 0x1680), (0x180e, 0x180e), (0x2000, 0x200a),
    (0x202f, 0x202f), (0x205f, 0x205f), (0x3000, 0x3000)].map fun (a, b) => (Char.ofNat a, Char.ofNat b)

/-- Blanks that end a line. -/
def lineBlanks : List (Char × Char) :=
  [(0xa, 0xd), (0x85, 0x85), (0x2028, 0x2029)].map fun (a, b) => (Char.ofNat a, Char.ofNat b)

/-- The kind that a letter after a backslash means; a capital letter means all other characters. -/
def kind? (c : Char) : Option CharTest :=
  let ranges? : Option (List (Char × Char)) :=
    match c.toLower with
    | 'd' => some (CharClass.ranges .digit)
    | 's' => some (CharClass.ranges .space)
    | 'w' => some wordRanges
    | 'h' => some flatBlanks
    | 'v' => some lineBlanks
    | _ => none
  ranges?.map fun ranges => .among c.isUpper ranges []

/-- The ranges of a class with a name. -/
def classRanges? (name : List Char) : Option (List (Char × Char)) :=
  if name = "ascii".toList then some [('\x00', '\x7f')]
  else if name = "word".toList then some wordRanges
  else (CharClass.named? name).map CharClass.ranges

/-- Reads the name of a property in braces, in small letters and without what is between its words, up to
the other brace. -/
def readPropertyName : List Char → Option (List Char × List Char)
  | [] => none
  | '\x7d' :: rest => some ([], rest)
  | c :: rest =>
    (readPropertyName rest).map fun (name, rest) =>
      (if c = '_' ∨ c = '-' ∨ c = ' ' ∨ c = '\t' then name else c.toLower :: name, rest)

/-- The longest name of a property. -/
def propertyNameLimit : Nat := 49

/-- Reads a property after its letter. -/
def readProperty (negated : Bool) (text : List Char) : Except Fault (CharTest × List Char) := do
  let named (negated : Bool) (name : List Char) (rest : List Char) : Except Fault (CharTest × List Char) :=
    match Property.named? name with
    | some p => .ok (p.test negated, rest)
    | none => .error .unknownProperty
  let braced (negated : Bool) (text : List Char) : Except Fault (CharTest × List Char) :=
    match readPropertyName text with
    | some (name, rest) =>
      if propertyNameLimit ≤ name.length then .error .malformedProperty else named negated name rest
    | none => .error .malformedProperty
  match text with
  | '\x7b' :: '^' :: rest => braced (!negated) rest
  | '\x7b' :: rest => braced negated rest
  | c :: rest => if c.isAlpha then named negated [c.toLower] rest else throw .malformedProperty
  | [] => throw .malformedProperty

/-! ## Sets -/

/-- What stands between a bracket with a mark and the mark with a bracket, and what follows, if this is what
a text starts with after its bracket. -/
def readNamed (text : List Char) : Option (List Char × List Char) :=
  let rec go (mark : Char) (name : List Char) : List Char → Option (List Char × List Char)
    | '\\' :: ']' :: rest => go mark (']' :: '\\' :: name) rest
    | '\\' :: '\\' :: rest => go mark ('\\' :: '\\' :: name) rest
    | ']' :: _ => none
    | c :: d :: rest =>
      if c = mark ∧ d = ']' then some (name.reverse, rest)
      else if c = '[' ∧ d = mark then none
      else go mark (c :: name) (d :: rest)
    | _ => none
  match text with
  | mark :: rest => if mark = ':' ∨ mark = '.' ∨ mark = '=' then go mark [] rest else none
  | [] => none

/-- How a set is read. -/
structure SetManner where
  unicode : Bool
  /-- Cases do not count. -/
  folded : Bool
  /-- Blanks stand for nothing. -/
  isLoose : Bool

/-- Whether a hyphen makes a range. -/
inductive RangeStart where
  | none
  /-- It does, after a character. -/
  | after (c : Char)
  /-- There has been one, after a character. -/
  | begun (c : Char)
  deriving DecidableEq, Repr

/-- What has been read of a set. -/
structure SetReader where
  members : List Member := []
  range : RangeStart := .none
  quoted : Bool := false

namespace SetReader

/-- The set with another member. -/
def add (r : SetReader) (m : Member) : SetReader := { r with members := m :: r.members, range := .none }

/-- The set with a character, which may end a range. -/
def addLetter (manner : SetManner) (r : SetReader) (c : Char) : Except Fault SetReader :=
  let fold := if manner.folded then some manner.unicode else none
  match r.range with
  | .begun first =>
    if c < first then .error .rangeOrder
    else .ok (r.add ⟨.among false [(first, c)] [], fold⟩)
  | _ => .ok { r.add ⟨.exactly c, fold⟩ with range := .after c }

/-- The set with a kind of characters, next to which no hyphen makes a range. -/
def addKind (r : SetReader) (test : CharTest) (rest : List Char) : Except Fault (SetReader × List Char) :=
  match rest with
  | '-' :: d :: _ => if d = ']' then .ok (r.add ⟨test, none⟩, rest) else .error .invalidRange
  | _ => .ok (r.add ⟨test, none⟩, rest)

/-- Reads the class with a name. -/
def addNamed (manner : SetManner) (r : SetReader) (mark : Char) (name rest : List Char) :
    Except Fault (SetReader × List Char) := do
  if r.range matches .begun _ then throw .invalidRange
  if mark ≠ ':' then throw .collation
  let negated := name.head? == some '^'
  let name := if negated then name.drop 1 else name
  let isCase := name = "upper".toList ∨ name = "lower".toList
  let name := if manner.folded ∧ isCase then "alpha".toList else name
  match classRanges? name with
  | some ranges => r.addKind (.among negated ranges []) rest
  | none => throw .unknownClass

/-- Reads what stands after a backslash. -/
def addEscape (manner : SetManner) (r : SetReader) (text : List Char) :
    Except Fault (SetReader × List Char) := do
  match ← readEscape manner.unicode true 0 text with
  | (.letter c, rest) => return (← r.addLetter manner c, rest)
  | (.back _, _) => throw .escapeInSet
  | (.sign 'b', rest) => return (← r.addLetter manner '\x08', rest)
  | (.sign 'Q', rest) => return ({ r with quoted := true }, rest)
  | (.sign 'E', rest) => return (r, rest)
  | (.sign c, rest) =>
    if c = 'B' ∨ c = 'R' ∨ c = 'X' then throw .escapeInSet
    if r.range matches .begun _ then throw .invalidRange
    if c = 'N' then throw .lineInSet
    if c = 'p' ∨ c = 'P' then
      let (test, rest) ← readProperty (c = 'P') rest
      r.addKind test rest
    else
      match kind? c with
      | some test => r.addKind test rest
      | none => throw .escapeInSet

/-- Reads what a character begins. -/
def take (manner : SetManner) (r : SetReader) (c : Char) (rest : List Char) :
    Except Fault (SetReader × List Char) := do
  if r.quoted then
    match c, rest with
    | '\\', 'E' :: rest => return ({ r with quoted := false }, rest)
    | _, _ => return (← r.addLetter manner c, rest)
  else if manner.isLoose ∧ (c = ' ' ∨ c = '\t') then return (r, rest)
  else if c = '\\' then r.addEscape manner rest
  else
    match (if c = '[' then readNamed rest else none), c, r.range with
    | some (name, after), _, _ => r.addNamed manner (rest.headD ':') name after
    | none, '-', .after first => return ({ r with range := .begun first }, rest)
    | none, _, _ => return (← r.addLetter manner c, rest)

/-- The members that have been read; a hyphen that makes no range is one of them, and the character before
it is one in any case. -/
def all (r : SetReader) : List Member :=
  match r.range with
  | .begun _ => ⟨.exactly '-', none⟩ :: r.members
  | _ => r.members

end SetReader

/-- Reads the members of a set, of which the first one starts with a character. -/
def readMembers (manner : SetManner) : (fuel : Nat) → SetReader → Char → List Char →
    Except Fault (List Member × List Char)
  | 0, _, _, _ => .error .openSet
  | fuel + 1, r, c, rest => do
    let (r, rest) ← r.take manner c rest
    match rest with
    | [] => throw .openSet
    | c :: rest =>
      if c = ']' ∧ !r.quoted then return (r.all, rest) else readMembers manner fuel r c rest

/-- Passes over what stands for nothing at the start of a set, and over the sign of the other characters. -/
def openSet (isLoose : Bool) : (negated : Bool) → List Char → Bool × List Char
  | negated, '\\' :: 'E' :: rest => openSet isLoose negated rest
  | negated, '\\' :: 'Q' :: '\\' :: 'E' :: rest => openSet isLoose negated rest
  | false, '^' :: rest => openSet isLoose true rest
  | negated, c :: rest =>
    if isLoose ∧ (c = ' ' ∨ c = '\t') then openSet isLoose negated rest else (negated, c :: rest)
  | negated, [] => (negated, [])

/-- Reads a set after its bracket. -/
def readSet (manner : SetManner) (text : List Char) : Except Fault (CharSet × List Char) := do
  let (negated, inner) := openSet manner.isLoose false text
  match inner with
  | [] => throw .openSet
  | c :: rest =>
    let (members, rest) ← readMembers manner (rest.length + 1) {} c rest
    return (⟨negated, members⟩, rest)

end Ordered

end PlannerTrials.Host
