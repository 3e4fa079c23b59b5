import PlannerTrials.Config.Basic
import PlannerTrials.Pass.Basic
import PlannerTrials.Text.Quoted
import PlannerTrials.Text.Utf8

/-!
# Launching solvers

A configuration says with which program a solver is launched, with which arguments and in which folder.
What the program does, and whether there is one, is a matter of the world: a `Launch` starts a program,
waits for its end and tells what came of it, and `Config.invoke` makes the answer to a call from that.
How a program is started is not known here, so what is said of the answers holds for every way to start
one.

A solver that the configuration does not say how to launch is not launched, and this takes no time.
-/

namespace PlannerTrials

/-- How a program ended: its outputs, and its exit code unless it was killed. -/
structure Exit where
  output : Bytes
  errors : Bytes
  code : Option Int
  deriving DecidableEq, Repr

/-- Launches a program with arguments in a folder, or in the current one, and waits for its end.  What is
told is how long this took and how the program ended, or why it could not be launched. -/
abbrev Launch (σ : Type) : Type :=
  (program : String) → (arguments : List String) → (folder? : Option String) → σ →
    (Elapsed × Except Files.Fault Exit) × σ

namespace Launch

/-- Whether a text contains NUL. -/
def hasNul (s : String) : Bool := s.toList.contains '\x00'

/-- A text as it can be told; one with NUL cannot be. -/
def tellable (s : String) : String := if hasNul s then "<string-with-nul>" else s

/-- A command as it is told. -/
def commandText (spec : LaunchSpec) (arguments : List String) : String :=
  let folder := match spec.workingFolder with
    | some folder => "cd " ++ Text.quotedName (tellable folder) ++ " && "
    | none => ""
  folder ++ " ".intercalate (Text.quotedName (tellable spec.program) ::
    arguments.map fun a => Text.quotedString (tellable a))

/-- The text of bytes, with a sign in the place of what is no text. -/
def textOf (bytes : Bytes) : String := String.ofList (Utf8.decodeLossy bytes)

/-- The answer to a call whose program was to be launched. -/
def answer (program : String) (elapsed : Elapsed) : Except Files.Fault Exit → Invocation
  | .ok exit => .exited elapsed (textOf exit.output) (textOf exit.errors) exit.code
  | .error fault =>
    .notLaunched elapsed ("failed to launch '" ++ program ++ "': " ++ fault.message)

end Launch

namespace Config

/-- Runs a solver as a configuration says. -/
def invoke {σ : Type} (config : Config) (launch : Launch σ) (call : Call) (s : σ) :
    Invocation × σ :=
  match config.launches.lookup call.solver with
  | none => (.notLaunched .none ("no launch command configured for " ++ call.solver.name), s)
  | some spec =>
    let arguments := spec.argumentsFor call.description call.problem
    let ((elapsed, result), s) := launch spec.program arguments spec.workingFolder s
    (Launch.answer spec.program elapsed result, s)

/-- What is told before a solver is run. -/
def announce (config : Config) (call : Call) : List Event :=
  match config.launches.lookup call.solver with
  | none => []
  | some spec =>
    [⟨.launch, .debug, "Launching " ++ call.solver.name ++ ": " ++
      Launch.commandText spec (spec.argumentsFor call.description call.problem)⟩]

end Config

end PlannerTrials
