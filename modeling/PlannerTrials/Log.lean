/-!
# Events of a log

What happens is told as events, each with the part of the program that tells it, a level and a text.
Events never decide anything: every function that tells its events returns them beside its result.
-/

namespace PlannerTrials

/-- How important an event is, from the most to the least. -/
inductive Level where
  | error
  | warn
  | info
  | debug
  | trace
  deriving DecidableEq, Repr

/-- The name of a level. -/
def Level.name : Level → String
  | .error => "ERROR"
  | .warn => "WARN"
  | .info => "INFO"
  | .debug => "DEBUG"
  | .trace => "TRACE"

/-- The rank of a level; more important levels have a lower rank. -/
def Level.rank : Level → Nat
  | .error => 1
  | .warn => 2
  | .info => 3
  | .debug => 4
  | .trace => 5

/-- The parts of the program that tell events. -/
inductive Source where
  | command
  | corpus
  | trials
  | pass
  | table
  | launch
  deriving DecidableEq, Repr

/-- The name under which a part tells its events. -/
def Source.name : Source → String
  | .command => "planner_bench"
  | .corpus => "planner_bench::core::locator"
  | .trials => "planner_bench::core::driver"
  | .pass => "planner_bench::core::engine"
  | .table => "planner_bench::core::writer"
  | .launch => "planner_bench::adapters::process"

/-- An event. -/
structure Event where
  source : Source
  level : Level
  message : String
  deriving DecidableEq, Repr

end PlannerTrials
