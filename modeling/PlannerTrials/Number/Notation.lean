import PlannerTrials.Number.Shortest

/-!
# How doubles are written

Two ways of writing a double are in use.  Tables and documents take the shortest decimal that reads
back, in positional notation for moderate sizes and with an exponent otherwise; what differs
between their formats is one `Layout`.  Reports and messages take a fixed number of places.
-/

namespace PlannerTrials.Number

/-- What a format decides about the shortest decimal. -/
structure Layout where
  /-- Positional notation starts with this power of ten of the first digit. -/
  positionalFrom : Int
  /-- Positional notation ends before this power of ten. -/
  positionalBelow : Int
  /-- What stands before an exponent that is not negative. -/
  exponentMark : List Char

/-- Zeros, as many as the integer says. -/
def zeros (n : Int) : List Char := List.replicate n.toNat '0'

/-- Positional notation of the digits whose first one has the given power of ten; it always has
a point with a digit on both sides. -/
def positional (ds : List Char) (leading : Int) : List Char :=
  if leading < 0 then '0' :: '.' :: zeros (-leading - 1) ++ ds
  else
    let whole := (leading + 1).toNat
    if ds.length ≤ whole then ds ++ zeros (whole - ds.length) ++ ['.', '0']
    else ds.take whole ++ '.' :: ds.drop whole

/-- Exponent notation: one digit before the point, and no point without a digit after it. -/
def scientific (layout : Layout) (ds : List Char) (leading : Int) : List Char :=
  let mantissa :=
    match ds with
    | d :: e :: rest => d :: '.' :: e :: rest
    | ds => ds
  let sign := if leading < 0 then ['-'] else layout.exponentMark
  mantissa ++ 'e' :: sign ++ digits leading.natAbs

/-- Digits without the zeros at their end. -/
def dropTrailingZeros (ds : List Char) : List Char := (ds.reverse.dropWhile (· == '0')).reverse

/-- The text of a decimal in a layout. -/
def Decimal.text (layout : Layout) (d : Decimal) : List Char :=
  if d.significand = 0 then "0.0".toList
  else
    let ds := digits d.significand
    let leading := d.magnitude - 1
    let ds := dropTrailingZeros ds
    if layout.positionalFrom ≤ leading ∧ leading < layout.positionalBelow then
      positional ds leading
    else scientific layout ds leading

/-- A minus sign for negative numbers. -/
def signed (negative : Bool) (cs : List Char) : List Char := if negative then '-' :: cs else cs

end PlannerTrials.Number

namespace PlannerTrials.Double

open Number

/-- The shortest text that reads back. -/
def text (layout : Layout) : Double → List Char
  | .nan => "NaN".toList
  | .infinite s => signed s "inf".toList
  | .finite s q _ => signed s ((shortest q).text layout)

/-- The text with a fixed number of places, from the exact value; an exact half goes to the even
last digit. -/
def fixed (places : Nat) : Double → List Char
  | .nan => "NaN".toList
  | .infinite s => signed s "inf".toList
  | .finite s q _ =>
    let scaled := roundDiv .toEven (q * Nat.pow 10 places) one
    let whole := digits (scaled / Nat.pow 10 places)
    let fraction := digits (scaled % Nat.pow 10 places)
    let fraction := List.replicate (places - fraction.length) '0' ++ fraction
    signed s (if places = 0 then whole else whole ++ '.' :: fraction)

end PlannerTrials.Double
