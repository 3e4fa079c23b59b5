import PlannerTrials.Number.Numeral
import PlannerTrials.Text.InvisibleTable

/-!
# Quoted texts

Messages show arguments and plan steps between double quotes, so that blanks at their ends and
empty ones can be seen.  Inside the quotes a double quote and a backslash are escaped, the common
controls have letters of their own, and every other character without a glyph of its own is
written by its code point.

The names of programs and folders are quoted as the byte sequences that they are for the system: there
a single quote is escaped as well, and a control of ASCII is written by its byte.
-/

namespace PlannerTrials.Text

/-- Whether one of the ranges covers a code point. -/
def covers (ranges : List (Nat × Nat)) (n : Nat) : Bool := ranges.any fun r => r.1 ≤ n && n ≤ r.2

/-- The hexadecimal digits of a number. -/
def hexDigits (n : Nat) : List Char :=
  if n < 16 then [Number.digitChar n] else hexDigits (n / 16) ++ [Number.digitChar (n % 16)]
termination_by n

/-- Whether a character has no glyph of its own, or only in union with the one before it. -/
def isHidden (c : Char) : Bool :=
  if c.toNat < 0x7f then c.toNat < 0x20
  else covers glyphless c.toNat || covers attachedMarks c.toNat

/-- A hidden character by its code point, any other as itself. -/
def shown (c : Char) : List Char :=
  if isHidden c then ['\\', 'u', '\x7b'] ++ hexDigits c.toNat ++ ['\x7d'] else [c]

/-- A character as it stands between the quotes. -/
def escaped (c : Char) : List Char :=
  match c with
  | '"' => ['\\', '"']
  | '\\' => ['\\', '\\']
  | '\t' => ['\\', 't']
  | '\r' => ['\\', 'r']
  | '\n' => ['\\', 'n']
  | '\x00' => ['\\', '0']
  | c => shown c

/-- A byte by its two hexadecimal digits. -/
def byteEscape (n : Nat) : List Char :=
  ['\\', 'x', Number.digitChar (n / 16 % 16), Number.digitChar (n % 16)]

/-- A character of a name as it stands between the quotes. -/
def escapedInName (c : Char) : List Char :=
  match c with
  | '\'' => ['\\', '\'']
  | '"' | '\\' | '\t' | '\r' | '\n' | '\x00' => escaped c
  | c => if c.toNat < 0x20 ∨ c.toNat = 0x7f then byteEscape c.toNat else shown c

/-- A text between double quotes. -/
def quoted (cs : List Char) : List Char := '"' :: cs.flatMap escaped ++ ['"']

/-- A string between double quotes. -/
def quotedString (s : String) : String := String.ofList (quoted s.toList)

/-- The name of a program or a folder between double quotes. -/
def quotedName (s : String) : String :=
  String.ofList ('"' :: s.toList.flatMap escapedInName ++ ['"'])

/-- A list of quoted strings between brackets. -/
def quotedList (ss : List String) : String :=
  "[" ++ String.intercalate ", " (ss.map quotedString) ++ "]"

end PlannerTrials.Text
