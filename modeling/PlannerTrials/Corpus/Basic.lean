import PlannerTrials.Path

/-!
# Problems and corpora

A problem is known by the path of its file and by the name of its domain.  A corpus is a domain with
its description and the problems that were selected for it.
-/

namespace PlannerTrials

/-- A problem of a domain. -/
structure Problem where
  domain : String
  path : String
  deriving DecidableEq, Repr

/-- The name of a problem, the last name of its path; a path without a name gives the empty text. -/
def Problem.name (problem : Problem) : String := (Path.fileName? problem.path).getD ""

/-- A domain with its description and its selected problems. -/
structure Corpus where
  domain : String
  /-- The path of the file that describes the domain. -/
  description : String
  problems : List Problem
  deriving DecidableEq, Repr

end PlannerTrials
