/-!
# Replacing a text inside another

Occurrences are found from left to right and do not overlap; what is put in their place is not
looked at again.
-/

namespace PlannerTrials.Text

/-- Every occurrence of the pattern `p :: ps` replaced by `new`. -/
def replaceAll (p : Char) (ps new : List Char) : List Char → List Char
  | [] => []
  | c :: cs =>
    if (p :: ps).isPrefixOf (c :: cs) then new ++ replaceAll p ps new (cs.drop ps.length)
    else c :: replaceAll p ps new cs
termination_by cs => cs.length
decreasing_by
  · simp only [List.length_drop, List.length_cons]; omega
  · simp

/-- Whether a pattern occurs in a text. -/
def occurs (pattern : List Char) (cs : List Char) : Bool :=
  match cs with
  | [] => pattern.isEmpty
  | c :: rest => pattern.isPrefixOf (c :: rest) || occurs pattern rest

end PlannerTrials.Text
