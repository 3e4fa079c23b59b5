import PlannerTrials.Number.Notation
import PlannerTrials.Pass.Basic
import PlannerTrials.Text.Blank
import PlannerTrials.Text.Quoted

/-!
# What a pass tells

For each run the events are, in this order, what was told before it, a warning if the program could
not be launched or did not exit with zero, the makespan with the time, and the steps of the plan.
-/

namespace PlannerTrials

/-- An exit code as it is told. -/
def exitCodeText : Option Int → String
  | none => "None"
  | some code => "Some(" ++ toString code ++ ")"

/-- A number of seconds to the millisecond. -/
def millisText (seconds : Double) : String := String.ofList (seconds.fixed 3)

namespace Trial

/-- A problem as it is told. -/
def place (trial : Trial) : String := trial.problem.domain ++ "/" ++ trial.problem.name

/-- What goes wrong in the run of a solver. -/
def warnings (trial : Trial) (solver : Solver) : List Event :=
  let invocation := trial.invocation solver
  match invocation.outcome with
  | .notLaunched reason =>
    [⟨.trials, .warn, "⚠️ " ++ solver.name ++ " could not run " ++ trial.place ++ ": " ++ reason⟩]
  | .exited code =>
    if code = some 0 then []
    else
      let warning : Event :=
        ⟨.trials, .warn, "⚠️ " ++ solver.name ++ " exited with " ++ exitCodeText code ++ " on " ++
          trial.place⟩
      if Text.isBlankString invocation.errors then [warning]
      else
        [warning, ⟨.trials, .debug, solver.name ++ " stderr: " ++ Text.trimmed invocation.errors⟩]

/-- What is told of the run of a solver after it has ended. -/
def runEvents (trial : Trial) (solver : Solver) : List Event :=
  let run := trial.run solver
  let steps := Plan.steps (trial.invocation solver).output.toList
  trial.warnings solver ++
    [⟨.trials, .info, solver.name ++ " " ++ trial.place ++ ": makespan=" ++ toString run.makespan ++
        " time=" ++ millisText run.time ++ "s"⟩,
      ⟨.trials, .debug, solver.name ++ " plan: " ++ Text.quotedList (steps.map String.ofList)⟩]

/-- What is told of a trial. -/
def events (announce : Call → List Event) (trial : Trial) : List Event :=
  Solver.all.flatMap fun solver => announce (trial.call solver) ++ trial.runEvents solver

end Trial

/-- What is told of the trials of a pass. -/
def Pass.events (announce : Call → List Event) (pass : Pass) : List Event :=
  pass.trials.flatMap (Trial.events announce)

end PlannerTrials
