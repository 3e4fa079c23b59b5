import PlannerTrials.Solver
import PlannerTrials.Text.Replace

/-!
# The configuration of a pass

A configuration says where the benchmark files are, which of them to take, how to launch each
solver and where the results go.  Solvers are stored under their names; a name may occur here that
belongs to no solver, which `PlannerTrials.Config.Validation` refuses.
-/

namespace PlannerTrials

/-- How to launch a solver. -/
structure LaunchSpec where
  program : String
  arguments : List String := []
  /-- The folder to start in; the current one if there is none. -/
  workingFolder : Option String := none
  deriving DecidableEq, Repr

namespace LaunchSpec

/-- What stands in an argument for the path of the domain description. -/
def domainMark : List Char := '{' :: "domain".toList ++ ['}']

/-- What stands in an argument for the path of the problem. -/
def problemMark : List Char := '{' :: "problem".toList ++ ['}']

/-- Whether some argument has a place for a path. -/
def hasMarks (spec : LaunchSpec) : Bool :=
  spec.arguments.any fun a =>
    Text.occurs domainMark a.toList || Text.occurs problemMark a.toList

/-- An argument with the paths in their places, first that of the domain, then that of the
problem. -/
def fill (domain problem : String) (argument : String) : String :=
  let withDomain :=
    Text.replaceAll '{' ("domain".toList ++ ['}']) domain.toList argument.toList
  String.ofList (Text.replaceAll '{' ("problem".toList ++ ['}']) problem.toList withDomain)

/-- The arguments for one problem.  Where no argument has a place for a path, both paths follow the
arguments. -/
def argumentsFor (spec : LaunchSpec) (domain problem : String) : List String :=
  if spec.hasMarks then spec.arguments.map (fill domain problem)
  else spec.arguments ++ [domain, problem]

end LaunchSpec

/-- The configuration of a pass. -/
structure Config where
  /-- The folder with one folder for each domain. -/
  benchmarksFolder : String := "benchmarks"
  /-- The domains in the order in which they run. -/
  domains : List String := ["blocksworld", "depots", "gripper", "logistics"]
  /-- How many problems to take from a domain at most. -/
  sampleSize : Nat := 5
  /-- The name of the file that describes a domain. -/
  descriptionName : String := "domain.pddl"
  /-- How the name of a problem begins. -/
  problemStart : String := "p"
  /-- How the name of a problem ends. -/
  problemEnd : String := ".pddl"
  /-- The file for the results. -/
  outputPath : String := "comparison_results.csv"
  /-- How to launch the solvers, by name. -/
  solvers : List (String × LaunchSpec) := []
  deriving DecidableEq, Repr

namespace Config

/-- How to launch a solver, if that is known. -/
def spec? (config : Config) (solver : Solver) : Option LaunchSpec :=
  config.solvers.lookup solver.name

/-- The solvers that can be launched, each with the way to do it. -/
def launches (config : Config) : List (Solver × LaunchSpec) :=
  Solver.all.filterMap fun solver => (config.spec? solver).map fun spec => (solver, spec)

/-- Stores under a name how to launch a solver, instead of what was there. -/
def setSpec (config : Config) (name : String) (spec : LaunchSpec) : Config :=
  { config with solvers := config.solvers.filter (·.1 ≠ name) ++ [(name, spec)] }

/-- Forgets what is stored under a name. -/
def removeSpec (config : Config) (name : String) : Config :=
  { config with solvers := config.solvers.filter (·.1 ≠ name) }

/-- Whether something is stored under a name. -/
def hasSpec (config : Config) (name : String) : Bool := config.solvers.any (·.1 = name)

end Config

end PlannerTrials
