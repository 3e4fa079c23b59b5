import PlannerTrials.Host.Locale
import PlannerTrials.Text.Capital
import PlannerTrials.Text.LetterTable

/-!
# Classes and cases of characters

Programs know classes of characters by name.  Among the characters of a single byte a class is a list of
ranges; where a program reads its bytes as UTF-8, most classes have members beyond those, too.

Where capital and small letters count as the same, a character has `counterparts`.  A few small letters share
their capital with another one and are counterparts of both.
-/

namespace PlannerTrials.Host

/-- A class of characters. -/
inductive CharClass where
  | alnum
  | alpha
  | blank
  | cntrl
  | digit
  | graph
  | lower
  | print
  | punct
  | space
  | upper
  | xdigit
  deriving DecidableEq, Repr

namespace CharClass

/-- The classes by name. -/
def names : List (String × CharClass) :=
  [("alnum", alnum), ("alpha", alpha), ("blank", blank), ("cntrl", cntrl), ("digit", digit),
    ("graph", graph), ("lower", lower), ("print", print), ("punct", punct), ("space", space),
    ("upper", upper), ("xdigit", xdigit)]

/-- The class with a name. -/
def named? (name : List Char) : Option CharClass := names.lookup (String.ofList name)

/-- The characters of a single byte in a class. -/
def ranges : CharClass → List (Char × Char)
  | alpha => [('A', 'Z'), ('a', 'z')]
  | upper => [('A', 'Z')]
  | lower => [('a', 'z')]
  | digit => [('0', '9')]
  | xdigit => [('0', '9'), ('A', 'F'), ('a', 'f')]
  | alnum => [('0', '9'), ('A', 'Z'), ('a', 'z')]
  | punct => [('!', '/'), (':', '@'), ('[', '\x60'), ('\x7b', '~')]
  | space => [('\t', '\r'), (' ', ' ')]
  | blank => [('\t', '\t'), (' ', ' ')]
  | cntrl => [('\x00', '\x1f'), ('\x7f', '\x7f')]
  | print => [(' ', '~')]
  | graph => [('!', '~')]

/-- Blank characters of more than one byte at which a line may be broken. -/
def wideBlanks : List (Nat × Nat) :=
  [(0x1680, 0x1680), (0x2000, 0x2006), (0x2008, 0x200a), (0x205f, 0x205f), (0x3000, 0x3000)]

/-- The separators of lines and of paragraphs. -/
def wideSeparators : List (Nat × Nat) := [(0x2028, 0x2029)]

/-- Whether a character of more than one byte is a letter or a digit. -/
def isWideAlnum (c : Char) : Bool :=
  Text.covers Text.letterRanges c.toNat && !Text.covers Text.numberRanges c.toNat

/-- Whether a character of more than one byte is a space. -/
def isWideSpace (c : Char) : Bool := Text.covers (wideBlanks ++ wideSeparators) c.toNat

/-- Whether a character of more than one byte is in a class. -/
def holdsWide (cls : CharClass) (c : Char) : Bool :=
  !Locale.isStray c &&
    match cls with
    | alpha | alnum => isWideAlnum c
    | upper => Text.lower c ≠ [c]
    | lower => Text.upper c ≠ [c]
    | digit | xdigit => false
    | blank => Text.covers wideBlanks c.toNat
    | space => isWideSpace c
    | cntrl => c.toNat < 0xa0 || Text.covers wideSeparators c.toNat
    | print => Locale.isPrintable true c
    | graph => Locale.isPrintable true c && !isWideSpace c
    | punct => Locale.isPrintable true c && !isWideSpace c && !isWideAlnum c

end CharClass

/-- Whether a character has a single byte. -/
def isNarrow (c : Char) : Bool := c.toNat < 0x80

/-- The ranges of the characters of words. -/
def wordRanges : List (Char × Char) := [('0', '9'), ('A', 'Z'), ('_', '_'), ('a', 'z')]

/-- Whether a character of a single byte belongs to a word. -/
def isNarrowWordChar (c : Char) : Bool := wordRanges.any fun r => r.1 ≤ c && c ≤ r.2

/-- Whether a character belongs to a word. -/
def isWordChar (unicode : Bool) (c : Char) : Bool :=
  if isNarrow c then isNarrowWordChar c else unicode && CharClass.holdsWide .alnum c

/-! ## Cases -/

/-- The letter alone if it is one. -/
def single? : List Char → Option Char
  | [c] => some c
  | _ => none

/-- The capital of a letter if it has a single one, and otherwise the letter. -/
def capitalOf (c : Char) : Char := (single? (Text.upper c)).getD c

/-- The small form of a letter. -/
def smallOf (c : Char) : Char := (single? (Text.lower c)).getD c

/-- Small letters whose capital has another small form. -/
def lonesome : List Char :=
  [0xb5, 0x131, 0x17f, 0x1c5, 0x1c8, 0x1cb, 0x1f2, 0x345, 0x3c2, 0x3d0, 0x3d1, 0x3d5, 0x3d6, 0x3f0,
    0x3f1, 0x3f2, 0x3f5, 0x1e9b, 0x1fbe].map Char.ofNat

/-- The other characters that count as the same if cases do not matter. -/
def counterparts (unicode : Bool) (c : Char) : List Char :=
  if !unicode then
    if c.isUpper then [c.toLower] else if c.isLower then [c.toUpper] else []
  else
    let capital := capitalOf c
    let small := smallOf capital
    (if capital = c then [] else [capital]) ++
      (if small = capital ∨ small = c ∨ capitalOf small ≠ capital then [] else [small]) ++
      lonesome.filter fun d => d ≠ c && d ≠ small && d ≠ capital && capitalOf d = capital

/-- The form in which characters are compared if cases do not matter. -/
def caseKey (unicode : Bool) (c : Char) : Char := if unicode then capitalOf c else c.toUpper

end PlannerTrials.Host
