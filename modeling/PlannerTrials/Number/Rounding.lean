/-!
# Rounding a quotient

A quotient of natural numbers seldom is a natural number, and everything in this library that
rounds (binary fractions, decimal places, whole milliseconds) rounds such a quotient to one of its
two neighbours.  Only the treatment of an exact half differs from use to use, so it is an argument.

`roundDiv` is the one definition; the lemmas say that it is one of the two neighbours, and that a
quotient which already is whole is left alone.
-/

namespace PlannerTrials.Number

/-- Which neighbour takes a quotient that lies exactly half way between two whole numbers. -/
inductive Tie where
  /-- The even one. -/
  | toEven
  /-- The larger one. -/
  | away
  deriving DecidableEq, Repr

/-- The whole number nearest to `num / den`. -/
def roundDiv (tie : Tie) (num den : Nat) : Nat :=
  let below := num / den
  let rest := num % den
  if 2 * rest < den then below
  else if den < 2 * rest then below + 1
  else
    match tie with
    | .toEven => if below % 2 = 0 then below else below + 1
    | .away => below + 1

/-- Rounding never goes below the floor. -/
theorem div_le_roundDiv (tie : Tie) (num den : Nat) : num / den ≤ roundDiv tie num den := by
  unfold roundDiv
  cases tie <;> simp only <;> repeat' split
  all_goals omega

/-- Rounding goes at most one above the floor. -/
theorem roundDiv_le_div_add_one (tie : Tie) (num den : Nat) :
    roundDiv tie num den ≤ num / den + 1 := by
  unfold roundDiv
  cases tie <;> simp only <;> repeat' split
  all_goals omega

/-- A whole quotient is its own rounding. -/
@[simp] theorem roundDiv_mul_self (tie : Tie) (k : Nat) {den : Nat} (h : 0 < den) :
    roundDiv tie (k * den) den = k := by
  simp [roundDiv, Nat.mul_div_cancel _ h, h]

end PlannerTrials.Number
