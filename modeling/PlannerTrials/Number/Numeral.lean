/-!
# Numerals of natural numbers

`digits` writes a natural number in decimal, `Numeral.read` reads one in any radix up to sixteen under an
upper bound, and `Numeral.readWord` reads a cell of a table, where `0x` announces sixteen as the radix.

A numeral is read from left to right, and the first character that does not fit decides: a
character that is no digit is reported at once, also where the digits before it already are at the
bound, while a digit that leads beyond the bound is reported before anything that follows it.
-/

namespace PlannerTrials.Number

/-- The character of a digit below sixteen. -/
def digitChar (d : Nat) : Char :=
  if d < 10 then Char.ofNat (48 + d) else Char.ofNat (87 + d)

/-- The decimal digits of a number, the highest first. -/
def digits (n : Nat) : List Char :=
  if n < 10 then [digitChar n] else digits (n / 10) ++ [digitChar (n % 10)]
termination_by n

/-- The decimal text of a number. -/
def numeral (n : Nat) : String := String.ofList (digits n)

/-- The value of a digit in the given radix. -/
def digitValue? (radix : Nat) (c : Char) : Option Nat :=
  let n := c.toNat
  let value :=
    if 48 ≤ n ∧ n ≤ 57 then n - 48
    else if 97 ≤ n ∧ n ≤ 122 then n - 87
    else if 65 ≤ n ∧ n ≤ 90 then n - 55
    else radix
  if value < radix then some value else none

/-- Whether a character is one of the ten decimal digits. -/
def isDigit (c : Char) : Bool := (digitValue? 10 c).isSome

/-- The value of a run of decimal digits after `start`; other characters count as zero. -/
def digitsValue (start : Nat) (cs : List Char) : Nat :=
  cs.foldl (fun n c => 10 * n + (digitValue? 10 c).getD 0) start

/-- Why a text is no numeral below the bound. -/
inductive NumeralFault where
  | empty
  | invalidDigit
  | tooLarge
  deriving DecidableEq, Repr

/-- The wording of a numeral's fault. -/
def NumeralFault.message : NumeralFault → String
  | .empty => "cannot parse integer from empty string"
  | .invalidDigit => "invalid digit found in string"
  | .tooLarge => "number too large to fit in target type"

namespace Numeral

/-- Reads digits onto the value read so far. -/
def readDigits (radix bound : Nat) : Nat → List Char → Except NumeralFault Nat
  | value, [] => .ok value
  | value, c :: rest =>
    match digitValue? radix c with
    | none => .error .invalidDigit
    | some d =>
      let next := value * radix + d
      if next < bound then readDigits radix bound next rest else .error .tooLarge

/-- Reads a numeral with an optional plus sign. -/
def read (radix bound : Nat) : List Char → Except NumeralFault Nat
  | [] => .error .empty
  | ['+'] => .error .invalidDigit
  | '+' :: rest => readDigits radix bound 0 rest
  | cs => readDigits radix bound 0 cs

/-- The numbers in a table lie below this one. -/
def wordLimit : Nat := 0x100000000

/-- Reads a cell of a table: hexadecimal after `0x`, else decimal, below the limit. -/
def readWord : List Char → Except NumeralFault Nat
  | '0' :: 'x' :: rest => read 16 wordLimit rest
  | cs => read 10 wordLimit cs

end Numeral

end PlannerTrials.Number
