/-!
# Texts in columns

A cell is filled up with spaces to the width of its column; a cell that is wider stays as it is.
Widths count characters.
-/

namespace PlannerTrials.Text

/-- A cell at the left edge of its column. -/
def padRight (width : Nat) (cs : List Char) : List Char :=
  cs ++ List.replicate (width - cs.length) ' '

/-- A cell at the right edge of its column. -/
def padLeft (width : Nat) (cs : List Char) : List Char :=
  List.replicate (width - cs.length) ' ' ++ cs

end PlannerTrials.Text
