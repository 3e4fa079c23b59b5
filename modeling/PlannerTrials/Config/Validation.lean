import PlannerTrials.Config.Basic
import PlannerTrials.Config.Rules

/-!
# What a usable configuration is

`Config.validate` goes through the entries in a fixed order and stops at the first one that is not
usable: the paths, the domains, the size of a sample, the names of problem files, and last the
solvers.  No entry is stored under a name that belongs to no solver, and each solver has a program.
-/

namespace PlannerTrials.Config

/-- The names under which the configuration stores an entry belong to solvers. -/
def checkNames : List (String × LaunchSpec) → Except Failure Unit
  | [] => .ok ()
  | (name, _) :: rest =>
    match Solver.ofName? name with
    | some _ => checkNames rest
    | none => .error (.configValue "solvers" name "Unknown solver. Valid solvers: SAT, HSP")

/-- A solver has a program. -/
def checkProgram (config : Config) (solver : Solver) : Except Failure Unit :=
  match config.spec? solver with
  | none => .error (.configMissing ("solvers." ++ solver.name))
  | some spec => Rule.notBlank ("solvers." ++ solver.name ++ ".program") spec.program

/-- Accepts a usable configuration, and otherwise names the first entry that is not usable. -/
def validate (config : Config) : Except Failure Unit := do
  Rule.path "benchmarks_dir" config.benchmarksFolder
  Rule.path "output_path" config.outputPath
  Rule.notEmpty "domains" config.domains
  config.domains.forM (Rule.segment "domains")
  Rule.distinct "domains" config.domains
  Rule.atLeast "sample_size" config.sampleSize 1
  Rule.segment "domain_file" config.descriptionName
  Rule.notBlank "problem_extension" config.problemEnd
  checkNames config.solvers
  Solver.all.forM config.checkProgram

end PlannerTrials.Config
