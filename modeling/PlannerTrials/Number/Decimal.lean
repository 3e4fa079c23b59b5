import PlannerTrials.Number.Double
import PlannerTrials.Number.Numeral

/-!
# Decimal fractions and the doubles they denote

A `Decimal` is a natural significand times a power of ten.  `Decimal.quanta` is the exact quotient
it stands for, and `Decimal.toDouble` rounds that quotient once.  Powers of ten far outside the
range of the doubles are decided by the number of digits alone, so that a short text cannot ask
for a number with millions of digits.

`Double.read` reads the texts of the format's numbers: a sign, digits with at most one point, an
exponent, or one of the words `inf`, `infinity` and `nan` in any case.
-/

namespace PlannerTrials.Number

/-- `significand * 10 ^ exponent`. -/
structure Decimal where
  significand : Nat
  exponent : Int
  deriving DecidableEq, Repr

namespace Decimal

/-- The number of digits before the point, negative for zeros after the point. -/
def magnitude (d : Decimal) : Int := (digits d.significand).length + d.exponent

/-- The double nearest to a decimal fraction with the given sign. -/
def toDouble (negative : Bool) (d : Decimal) : Double :=
  if d.significand = 0 then .ofQuanta negative 0 1
  else if 400 < d.magnitude then .infinite negative
  else if d.magnitude < -400 then .ofQuanta negative 0 1
  else if 0 ≤ d.exponent then
    .ofQuanta negative (d.significand * Nat.pow 10 d.exponent.toNat * one) 1
  else .ofQuanta negative (d.significand * one) (Nat.pow 10 (-d.exponent).toNat)

end Decimal

/-- Why a text is no double. -/
inductive DoubleFault where
  | empty
  | invalid
  deriving DecidableEq, Repr

/-- The wording of a double's fault. -/
def DoubleFault.message : DoubleFault → String
  | .empty => "cannot parse float from empty string"
  | .invalid => "invalid float literal"

/-- The exponent after its letter: an optional sign and at least one digit. -/
def readExponent? : List Char → Option Int
  | '+' :: ds => magnitude? ds
  | '-' :: ds => (magnitude? ds).map (-·)
  | ds => magnitude? ds
where
  magnitude? (ds : List Char) : Option Int :=
    if ds ≠ [] ∧ ds.all isDigit then some (digitsValue 0 ds : Nat) else none

/-- An unsigned decimal fraction: digits, a point among or beside them, and an exponent. -/
def readDecimal? (cs : List Char) : Option Decimal :=
  let whole := cs.takeWhile isDigit
  let afterWhole := cs.dropWhile isDigit
  let (fraction, rest) :=
    match afterWhole with
    | '.' :: tail => (tail.takeWhile isDigit, tail.dropWhile isDigit)
    | tail => ([], tail)
  if whole = [] ∧ fraction = [] then none
  else
    let significand := digitsValue 0 (whole ++ fraction)
    match rest with
    | [] => some ⟨significand, -fraction.length⟩
    | c :: tail =>
      if c = 'e' ∨ c = 'E' then
        (readExponent? tail).map fun e => ⟨significand, e - fraction.length⟩
      else none

end PlannerTrials.Number

namespace PlannerTrials.Double

open Number

/-- A text without its sign, as a double with the given sign. -/
def readUnsigned? (negative : Bool) (cs : List Char) : Option Double :=
  let word := cs.map Char.toLower
  if word = "inf".toList ∨ word = "infinity".toList then some (.infinite negative)
  else if word = "nan".toList then some .nan
  else (readDecimal? cs).map (Decimal.toDouble negative)

/-- Reads the text of a double. -/
def read : List Char → Except DoubleFault Double
  | [] => .error .empty
  | '+' :: cs => found (readUnsigned? false cs)
  | '-' :: cs => found (readUnsigned? true cs)
  | cs => found (readUnsigned? false cs)
where
  found : Option Double → Except DoubleFault Double
    | some x => .ok x
    | none => .error .invalid

end PlannerTrials.Double
