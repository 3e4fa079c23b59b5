import PlannerTrials.Report.Group
import PlannerTrials.Text.Capital

/-!
# Charts

Each domain has two charts of grouped bars, one for the times and one for the makespans, with a pair
of bars for each problem.  A chart is known by the name of its file.
-/

namespace PlannerTrials

/-- What a chart shows. -/
inductive ChartKind where
  | time
  | makespan
  deriving DecidableEq, Repr

namespace ChartKind

/-- The kinds in their order. -/
def all : List ChartKind := [.time, .makespan]

/-- The name of a kind. -/
def name : ChartKind → String
  | .time => "time"
  | .makespan => "makespan"

/-- The label of the vertical axis. -/
def axisLabel : ChartKind → String
  | .time => "Time (seconds)"
  | .makespan => "Plan size (makespan)"

/-- What the title says about the bars. -/
def subject : ChartKind → String
  | .time => "Execution time (SAT vs HSP)"
  | .makespan => "Plan size (makespan SAT vs HSP)"

/-- The title of the chart of a domain. -/
def title (kind : ChartKind) (domain : String) : String :=
  String.ofList (Text.capitalize domain.toList) ++ " - " ++ kind.subject

/-- The name of the file of the chart of a domain. -/
def fileName (kind : ChartKind) (domain : String) : String :=
  domain ++ "_" ++ kind.name ++ "_comparison.png"

/-- The height of the bar for a run. -/
def height (kind : ChartKind) (measure : Measure) : Double :=
  match kind with
  | .time => measure.time
  | .makespan => Double.ofNat measure.makespan

end ChartKind

/-- A chart with the heights of its bars. -/
structure Chart where
  kind : ChartKind
  title : String
  fileName : String
  axisLabel : String
  problems : List String
  sat : List Double
  hsp : List Double
  deriving DecidableEq

/-- The chart of a kind for a group. -/
def Group.chart (group : Group) (kind : ChartKind) : Chart where
  kind := kind
  title := kind.title group.domain
  fileName := kind.fileName group.domain
  axisLabel := kind.axisLabel
  problems := group.records.map Record.problem
  sat := group.records.map fun r => kind.height (r.measure .sat)
  hsp := group.records.map fun r => kind.height (r.measure .hsp)

end PlannerTrials
