import PlannerTrials.Number.Decimal

/-!
# The shortest decimal that reads back

A double is written with the fewest digits that read back to it; among several such decimals the
nearest to its exact value is taken, and of two equally near ones the even one.

For one, two, up to seventeen digits the two neighbours of the exact value on the grid of that
many digits are read back.  If any decimal of the grid lies in the interval of values that round
to the double then one of these two does, because the exact value lies between them.  Seventeen
digits always suffice; past them the exact value itself, a decimal of many digits, closes the
search, so that what is returned reads back without any appeal to that fact.
-/

namespace PlannerTrials.Number

/-- The exact decimal value of a number of quanta. -/
def exactDecimal (q : Nat) : Decimal := ⟨q * Nat.pow 5 1074, -1074⟩

/-- The power of ten of the first digit. -/
def leadingPower (q : Nat) : Int := ((digits (q * Nat.pow 10 400 / one)).length : Int) - 401

/-- The neighbours of `q` quanta among the multiples of `10 ^ unit`, the nearer one first. -/
def neighbours (q : Nat) (unit : Int) : Decimal × Decimal :=
  let num := if 0 ≤ unit then q else q * Nat.pow 10 (-unit).toNat
  let den := if 0 ≤ unit then one * Nat.pow 10 unit.toNat else one
  let below := num / den
  let near := roundDiv .toEven num den
  let far := if near = below then below + 1 else below
  (⟨near, unit⟩, ⟨far, unit⟩)

/-- Whether a decimal reads back to exactly `q` quanta. -/
def readsBack (q : Nat) (d : Decimal) : Bool :=
  match d.toDouble false with
  | .finite false p _ => p == q
  | _ => false

/-- Tries grids of more and more digits, starting with `tried + 1`. -/
def shortestFrom (q : Nat) (leading : Int) : Nat → Nat → Decimal
  | _, 0 => exactDecimal q
  | tried, left + 1 =>
    let (near, far) := neighbours q (leading - tried)
    if readsBack q near then near
    else if readsBack q far then far
    else shortestFrom q leading (tried + 1) left

/-- The decimal by which a number of quanta is written. -/
def shortest (q : Nat) : Decimal :=
  if q = 0 then ⟨0, 0⟩ else shortestFrom q (leadingPower q) 0 17

end PlannerTrials.Number
