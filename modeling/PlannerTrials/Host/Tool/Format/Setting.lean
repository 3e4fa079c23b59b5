import PlannerTrials.Host.Calculation
import PlannerTrials.Number.Notation

/-!
# How a format sets a value

A conversion of a format says with its flags, its width and its number of places how a number is
written.  Here are the texts of integers and of doubles under each of the letters.
-/

namespace PlannerTrials.Host.Format

/-- How a value is to be set. -/
structure Setting where
  flags : Raw
  width : Nat
  places : Option Nat

/-- A text filled up to the width. -/
def Setting.fill (s : Setting) (zeroed : Bool) (head body : Raw) : Raw :=
  let gap := s.width - (head.length + body.length)
  if s.flags.contains '-' then head ++ body ++ List.replicate gap ' '
  else if zeroed && s.flags.contains '0' then head ++ List.replicate gap '0' ++ body
  else List.replicate gap ' ' ++ head ++ body

/-- The sign of a number. -/
def Setting.sign (s : Setting) (negative : Bool) : Raw :=
  if negative then ['-'] else if s.flags.contains '+' then ['+']
  else if s.flags.contains ' ' then [' '] else []

/-- The text of an integer under a letter. -/
def setInteger (s : Setting) (letter : Char) (n : Int) : Raw :=
  let signed := letter = 'd' || letter = 'i'
  let magnitude := if signed then n.natAbs else (n % Calculation.wordCount).toNat
  let base := if letter = 'o' then 8 else if letter = 'x' || letter = 'X' then 16 else 10
  let digits := Nat.toDigits base magnitude
  let digits := if letter = 'X' then digits.map Char.toUpper else digits
  let digits := if s.places = some 0 ∧ magnitude = 0 then [] else digits
  let digits := List.replicate ((s.places.getD 1) - digits.length) '0' ++ digits
  let digits := if s.flags.contains '#' && letter = 'o' && digits.head? ≠ some '0' then '0' :: digits
    else digits
  let head := if signed then s.sign (n < 0)
    else if s.flags.contains '#' && base = 16 && magnitude ≠ 0 then ['0', letter] else []
  s.fill s.places.isNone head digits

/-- The digits of a number of quanta with so many of them, and the power of ten of the first one. -/
def leadingDigits (count : Nat) (q : Nat) : Raw × Int :=
  if q = 0 then (List.replicate count '0', 0)
  else
    let leading := Number.leadingPower q
    let (near, _) := Number.neighbours q (leading - (count - 1 : Nat))
    let digits := Number.digits near.significand
    if count < digits.length then (digits.take count, leading + 1) else (digits, leading)

/-- A leading part, a point and a fraction; without a fraction the point stands only if asked for. -/
def Setting.pointed (s : Setting) (whole fraction : Raw) : Raw :=
  whole ++ if fraction = [] && !s.flags.contains '#' then [] else '.' :: fraction

/-- The exponent of a text, with a sign and so many digits at least. -/
def exponentText (letter : Char) (least : Nat) (power : Int) : Raw :=
  let digits := Number.digits power.natAbs
  letter :: (if power < 0 then '-' else '+') :: List.replicate (least - digits.length) '0' ++ digits

/-- The text of a number with an exponent. -/
def Setting.scientific (s : Setting) (digits : Raw) (power : Int) : Raw :=
  s.pointed (digits.take 1) (digits.drop 1) ++ exponentText 'e' 2 power

/-- The text with the number of places asked for. -/
def Setting.positional (s : Setting) (x : Double) : Raw :=
  let text := Double.fixed (s.places.getD 6) x
  s.pointed (text.takeWhile (· ≠ '.')) ((text.dropWhile (· ≠ '.')).drop 1)

/-- The text with as many digits as asked for, in the shorter of the two notations. -/
def Setting.general (s : Setting) (q : Nat) : Raw :=
  let count := max 1 (s.places.getD 6)
  let (digits, power) := leadingDigits count q
  let kept := if s.flags.contains '#' then digits else Number.dropTrailingZeros digits
  let kept := if kept = [] then ['0'] else kept
  if power < -4 ∨ count ≤ power then s.scientific kept power
  else if power < 0 then s.pointed ['0'] (List.replicate (-power - 1).toNat '0' ++ kept)
  else s.pointed (digits.take (power.toNat + 1)) (kept.drop (power.toNat + 1))

/-- The text in base sixteen: the digits of the binary format, of which a rounded one may carry into
the leading one, and a power of two. -/
def Setting.hexadecimal (s : Setting) (q : Nat) : Raw :=
  let scale := q.log2 - 52
  let significand := q / Nat.pow 2 scale
  let power : Int := if q = 0 then 0 else scale - 1022
  let count := s.places.getD 13
  let rounded := if count < 13 then Number.roundDiv .toEven significand (Nat.pow 16 (13 - count))
    else significand * Nat.pow 16 (count - 13)
  let fraction := Nat.toDigits 16 (rounded % Nat.pow 16 count)
  let fraction := List.replicate (count - fraction.length) '0' ++ fraction
  let fraction := if count = 0 then [] else fraction
  let fraction := if s.places.isNone then Number.dropTrailingZeros fraction else fraction
  s.pointed (Nat.toDigits 16 (rounded / Nat.pow 16 count)) fraction ++ exponentText 'p' 1 power

/-- The text of a double without a sign under a letter. -/
def setDouble (s : Setting) (letter : Char) (negative : Bool) (x : Double) : Raw :=
  let upper (cs : Raw) : Raw := if letter.isUpper then cs.map Char.toUpper else cs
  match x with
  | .nan => s.fill false (s.sign negative) (upper "nan".toList)
  | .infinite _ => s.fill false (s.sign negative) (upper "inf".toList)
  | .finite _ q h =>
    match letter.toLower with
    | 'e' =>
      let (digits, power) := leadingDigits (s.places.getD 6 + 1) q
      s.fill true (s.sign negative) (upper (s.scientific digits power))
    | 'g' => s.fill true (s.sign negative) (upper (s.general q))
    | 'a' => s.fill true (s.sign negative ++ upper "0x".toList) (upper (s.hexadecimal q))
    | _ => s.fill true (s.sign negative) (s.positional (.finite false q h))

end PlannerTrials.Host.Format
