import PlannerTrials.Text.CaseTable

/-!
# Capitalised texts

A title starts with the capital form of its first letter and goes on in small letters.  Both forms
are taken letter by letter, without regard to what stands around the letter, and either may be a
sequence of several letters.
-/

namespace PlannerTrials.Text

/-- The letters that the tables give for one letter, itself if there are none. -/
def mapCase (sequences : List (Nat × List Nat)) (ranges : List CaseRange) (c : Char) : List Char :=
  match sequences.lookup c.toNat with
  | some ns => ns.map Char.ofNat
  | none =>
    match ranges.findSome? (·.map? c.toNat) with
    | some n => [Char.ofNat n]
    | none => [c]

/-- The capital form of a letter. -/
def upper (c : Char) : List Char := mapCase upperSequences upperRanges c

/-- The small form of a letter. -/
def lower (c : Char) : List Char := mapCase lowerSequences lowerRanges c

/-- The first letter in its capital form, all others in their small form. -/
def capitalize : List Char → List Char
  | [] => []
  | c :: cs => upper c ++ cs.flatMap lower

end PlannerTrials.Text
