/-!
# The two solvers

A trial compares two planners, one based on satisfiability and one on heuristic search.  They are
known by their names in capitals, and within a trial they always run in the order of `Solver.all`.
-/

namespace PlannerTrials

/-- A solver under comparison. -/
inductive Solver where
  /-- The planner based on satisfiability. -/
  | sat
  /-- The planner based on heuristic search. -/
  | hsp
  deriving DecidableEq, Repr

namespace Solver

/-- The solvers in the order in which they run. -/
def all : List Solver := [.sat, .hsp]

/-- The name of a solver. -/
def name : Solver → String
  | .sat => "SAT"
  | .hsp => "HSP"

/-- The solver with a name. -/
def ofName? (s : String) : Option Solver := all.find? fun solver => solver.name = s

@[simp] theorem ofName?_name (solver : Solver) : ofName? solver.name = some solver := by
  cases solver <;> decide

theorem mem_all (solver : Solver) : solver ∈ all := by
  cases solver <;> decide

end Solver

end PlannerTrials
