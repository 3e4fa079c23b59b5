import PlannerTrials.Number.Numeral
import PlannerTrials.Text.Utf8

/-!
# Byte texts

Programs read and write bytes, and most of them treat a byte below 128 as a character and pass all
others on.  A `Raw` text is a list of characters each of which stands for one byte, so that patterns
for characters apply and no byte is lost.
-/

namespace PlannerTrials.Host

/-- A text whose characters stand for bytes. -/
abbrev Raw := List Char

namespace Raw

/-- The text of bytes. -/
def ofBytes (bs : Bytes) : Raw := bs.map fun b => Char.ofNat b.toNat

/-- The bytes of a text. -/
def toBytes (cs : Raw) : Bytes := cs.map fun c => UInt8.ofNat c.toNat

/-- The bytes of a string as a text. -/
def ofString (s : String) : Raw := ofBytes (Utf8.encodeString s)

/-- The string whose bytes a text stands for; what is no character is replaced. -/
def toString (cs : Raw) : String := String.ofList (Utf8.decodeLossy (toBytes cs))

/-- The lines of a text with their line feeds; the last one may have none. -/
def lines : Raw → List Raw
  | [] => []
  | c :: cs =>
    if c = '\n' then ['\n'] :: lines cs
    else
      match lines cs with
      | [] => [[c]]
      | l :: ls => (c :: l) :: ls

/-- A line without its line feed. -/
def chomp (line : Raw) : Raw := if line.getLast? = some '\n' then line.dropLast else line

/-- The natural number that decimal digits stand for. -/
def nat? (cs : Raw) : Option Nat :=
  if cs ≠ [] ∧ cs.all Number.isDigit then some (Number.digitsValue 0 cs) else none

/-- The integer that digits with an optional sign stand for. -/
def int? : Raw → Option Int
  | '-' :: cs => (nat? cs).map fun n => -(n : Int)
  | '+' :: cs => (nat? cs).map fun n => (n : Int)
  | cs => (nat? cs).map fun n => (n : Int)

/-- The text of an integer. -/
def ofInt (n : Int) : Raw :=
  if n < 0 then '-' :: Number.digits n.natAbs else Number.digits n.natAbs

end Raw

end PlannerTrials.Host
