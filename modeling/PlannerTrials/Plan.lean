import PlannerTrials.Text.Blank
import PlannerTrials.Text.Segments

/-!
# Plans in the output of a solver

Both solvers print every step of a plan on a line of its own that starts with `0:`, whatever the
number of the step is.  Counting these lines gives the makespan.  Other lines that happen to start
in this way count too.

A line ends at every character that is a line boundary of some device: line feed, carriage return,
vertical tab, form feed, the three separators of the ASCII controls, next line, and the separators
of lines and paragraphs.  Blanks around a line do not count.
-/

namespace PlannerTrials.Plan

/-- Whether a character ends a line. -/
def isBoundary (c : Char) : Bool :=
  let n := c.toNat
  (0x0a ≤ n && n ≤ 0x0d) || (0x1c ≤ n && n ≤ 0x1e) || n == 0x85 || n == 0x2028 || n == 0x2029

/-- The lines of an output. -/
def lines (output : List Char) : List (List Char) := Text.segments isBoundary output

/-- Whether a line, its blanks removed, starts like a step of a plan. -/
def startsStep : List Char → Bool
  | '0' :: ':' :: _ => true
  | _ => false

/-- Whether a line is a step of a plan. -/
def isStep (line : List Char) : Bool := startsStep (Text.trim line)

/-- The steps of the plan in an output, without the blanks around them. -/
def steps (output : List Char) : List (List Char) :=
  ((lines output).map Text.trim).filter startsStep

/-- The largest makespan that is told apart from larger ones. -/
def longest : Nat := 0xffffffff

/-- The number of steps in an output. -/
def makespan (output : List Char) : Nat := min ((lines output).countP isStep) longest

/-- Counting the lines of steps and listing the steps agree. -/
theorem makespan_eq_length_steps (output : List Char) :
    makespan output = min (steps output).length longest := by
  unfold makespan steps
  rw [← List.countP_eq_length_filter, List.countP_map]
  rfl

end PlannerTrials.Plan
