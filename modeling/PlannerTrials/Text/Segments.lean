/-!
# Cutting a list at separators

The parts of a list between the items that separate them, the empty ones included: a list with `n`
separators has `n + 1` parts.
-/

namespace PlannerTrials.Text

/-- The parts of a list between its separators. -/
def segments {α : Type} (isSeparator : α → Bool) : List α → List (List α)
  | [] => [[]]
  | a :: as =>
    if isSeparator a then [] :: segments isSeparator as
    else
      match segments isSeparator as with
      | [] => [[a]]
      | s :: ss => (a :: s) :: ss

theorem length_segments {α : Type} (isSeparator : α → Bool) (as : List α) :
    (segments isSeparator as).length = as.countP isSeparator + 1 := by
  induction as with
  | nil => rfl
  | cons a as ih =>
    unfold segments
    by_cases h : isSeparator a = true
    · simp [h, ih]
    · cases hs : segments isSeparator as with
      | nil => simp [hs] at ih
      | cons s ss => simp [h, hs, ← ih]

end PlannerTrials.Text
