import PlannerTrials.Host.Shell.Command.Control
import PlannerTrials.Host.Shell.Command.Text
import PlannerTrials.Host.Shell.Command.Variables

/-!
# The commands of the shell by name
-/

namespace PlannerTrials.Host

namespace Run

/-- The command of the shell with a name. -/
def action? (name : String) : Option Action :=
  match name with
  | "." => some runFile
  | ":" | "true" => some fun _ _ _ => return 0
  | "false" => some fun _ _ _ => return 1
  | "[" => some testBracketed
  | "alias" => some setAliases
  | "bg" | "fg" => some fun _ _ _ => raise "No current job".toList
  | "break" => some (leaveLoops false)
  | "cd" | "chdir" => some changeFolder
  | "command" => some describeOne
  | "continue" => some (leaveLoops true)
  | "echo" => some echoWords
  | "eval" => some evaluate
  | "exec" => some takePlace
  | "exit" => some exitShell
  | "export" => some exportVariables
  | "getopts" => some getOptions
  | "hash" => some hashNames
  | "jobs" => some fun _ _ _ => return 0
  | "kill" => some kill
  | "local" => some localVariables
  | "printf" => some printFormat
  | "pwd" => some printFolder
  | "read" => some readVariables
  | "readonly" => some fixVariables
  | "return" => some leaveFunction
  | "set" => some setAll
  | "shift" => some shift
  | "test" => some testWords
  | "times" => some fun _ _ _ => finish "0m0.000000s 0m0.000000s\n0m0.000000s 0m0.000000s\n".toList 0
  | "trap" => some trapSignals
  | "type" => some describeAll
  | "ulimit" => some printLimit
  | "umask" => some setMask
  | "unalias" => some unsetAliases
  | "unset" => some unsetNames
  | "wait" => some waitFor
  | _ => none

/-- Whether a command of the shell is special: an error in it ends the shell, and assignments before it
stay. -/
def isSpecialCommand (name : String) : Bool := Reader.specialCommands.contains name

/-- Whether the arguments of a command of the shell may be assignments. -/
def takesAssignments (name : String) : Bool := ["export", "local", "readonly"].contains name

end Run

end PlannerTrials.Host
