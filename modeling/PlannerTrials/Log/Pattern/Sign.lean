import PlannerTrials.Number.Decimal
import PlannerTrials.Text.Blank

/-!
# The signs of a pattern

Most characters of a pattern stand for themselves, and a backslash gives the character after it another
meaning.  What may be written depends on the `Mode`, which flags in the pattern change.  Patterns are
for texts: in the mode in which they are about bytes, a sign is only readable if what it stands for
cannot be a part of a character.
-/

namespace PlannerTrials.Pattern

/-- How a pattern is read from a place on. -/
structure Mode where
  /-- Blanks stand for nothing, and a number sign starts a comment. -/
  isLoose : Bool := false
  /-- The pattern is about characters, and otherwise about bytes. -/
  isUnicode : Bool := true
  deriving DecidableEq, Repr

namespace Mode

/-- What follows the blanks and the comments at the start of a text. -/
def dropLoose : (inComment : Bool) → List Char → List Char
  | _, [] => []
  | true, c :: rest => dropLoose (c ≠ '\n') rest
  | false, c :: rest =>
    if Text.isBlank c then dropLoose false rest
    else if c = '#' then dropLoose true rest
    else c :: rest

/-- What follows the part of a text that stands for nothing. -/
def skip (m : Mode) (text : List Char) : List Char := if m.isLoose then dropLoose false text else text

/-- The first character that is neither blank nor starts a comment, if there is one. -/
def firstLoose? : (inComment : Bool) → List Char → Option Char
  | _, [] => none
  | inComment, c :: rest =>
    if Text.isBlank c then firstLoose? inComment rest
    else if c = '#' ∧ !inComment then firstLoose? true rest
    else some c

/-- The character that is looked at to decide whether a hyphen makes a range.  A comment is not skipped
for that. -/
def peek (m : Mode) (text : List Char) : Option Char :=
  if m.isLoose then firstLoose? false text <|> text.head? else text.head?

/-- The mode under flags; those after a minus sign are taken back. -/
def change (m : Mode) (setting : Bool) : List Char → Mode
  | [] => m
  | c :: rest =>
    if c = '-' then m.change false rest
    else if c = 'x' then { m with isLoose := setting }.change setting rest
    else if c = 'u' then { m with isUnicode := setting }.change setting rest
    else m.change setting rest

end Mode

/-- What a sign stands for. -/
inductive Sign where
  /-- A character, which may be written as the number of a byte. -/
  | letter (c : Char) (isByte : Bool)
  /-- One of several characters, or every other one. -/
  | set (isReversed : Bool)
  /-- A character with a property. -/
  | property
  /-- A place, which may depend on where words start and end. -/
  | place (ofWords : Bool)
  deriving DecidableEq, Repr

namespace Sign

/-- Whether a number is one of a character of a single byte. -/
def isAscii (c : Char) : Bool := c.toNat < 0x80

/-- Whether a sign can be read outside sets.  Where words end cannot be asked for among characters. -/
def isReadable (m : Mode) : Sign → Bool
  | .letter c isByte => m.isUnicode || !isByte || isAscii c
  | .set isReversed => m.isUnicode || !isReversed
  | .property => m.isUnicode
  | .place ofWords => !(ofWords && m.isUnicode)

/-- Whether a sign can be a member of a set. -/
def isMember (m : Mode) : Sign → Bool
  | .letter c _ => m.isUnicode || isAscii c
  | .set isReversed => m.isUnicode || !isReversed
  | .property => m.isUnicode
  | .place _ => false

/-- Reads as many hexadecimal digits onto the value read so far. -/
def readHex? (m : Mode) : (count : Nat) → Nat → List Char → Option (Nat × List Char)
  | 0, value, text => some (value, text)
  | _, _, [] => none
  | count + 1, value, c :: rest =>
    match Number.digitValue? 16 c with
    | some d => readHex? m count (value * 16 + d) (m.skip rest)
    | none => none

/-- Reads the character that hexadecimal digits stand for. -/
def readNumber? (m : Mode) (count : Nat) (text : List Char) : Option (Sign × List Char) := do
  let (value, rest) ← readHex? m count 0 (m.skip text)
  if value.isValidChar then some (.letter (Char.ofNat value) (count = 2), rest) else none

/-- Reads the letter of a property; there is one for each of the seven kinds of characters. -/
def readProperty? (m : Mode) (text : List Char) : Option (Sign × List Char) :=
  match m.skip text with
  | c :: rest => if "LMNPSZClmnpszc".toList.contains c then some (.property, m.skip rest) else none
  | [] => none

/-- Whether a sign without a meaning of its own may follow a backslash. -/
def mayEscape (c : Char) : Bool := isAscii c && !c.isAlphanum

/-- Reads what follows a backslash. -/
def readEscape? (m : Mode) : List Char → Option (Sign × List Char)
  | [] => none
  | c :: rest =>
    match c with
    | 'x' => readNumber? m 2 rest
    | 'u' => readNumber? m 4 rest
    | 'U' => readNumber? m 8 rest
    | 'p' | 'P' => readProperty? m rest
    | 'd' | 's' | 'w' => some (.set false, rest)
    | 'D' | 'S' | 'W' => some (.set true, rest)
    | 'a' | 'f' | 't' | 'n' | 'r' | 'v' => some (.letter c false, rest)
    | 'A' | 'z' => some (.place false, rest)
    | 'b' | 'B' | '<' | '>' => some (.place true, rest)
    | c => if mayEscape c then some (.letter c false, rest) else none

end Sign

end PlannerTrials.Pattern
