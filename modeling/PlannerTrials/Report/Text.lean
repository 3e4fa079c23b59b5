import PlannerTrials.Number.Notation
import PlannerTrials.Report.Summary
import PlannerTrials.Text.Pad

/-!
# Reports as text

A report is shown as a header and one line for each domain.  The name of the domain stands at the
left edge of its column and the seven numbers at the right edges of theirs, and there is always a space
between two columns.  A cell that is wider than its column is shown in full.
-/

namespace PlannerTrials.Report

/-- The width of the first column. -/
def nameWidth : Nat := 14

/-- The widths of the other columns. -/
def widths : List Nat := [8, 10, 10, 9, 9, 7, 7]

/-- A line with a name and the cells after it. -/
def line (name : List Char) (cells : List (List Char)) : List Char :=
  Text.padRight nameWidth name ++
    (List.zipWith (fun width cell => ' ' :: Text.padLeft width cell) widths cells).flatten ++ ['\n']

/-- The names of the columns after the first. -/
def columnNames : List String :=
  ["problems", "sat_time", "hsp_time", "sat_plan", "hsp_plan", "sat_0", "hsp_0"]

/-- The header. -/
def headerLine : List Char := line "domain".toList (columnNames.map String.toList)

/-- The cells of a domain: the number of problems, and for each solver the mean time, the mean
makespan and the number of runs without a plan. -/
def cells (summary : DomainSummary) : List (List Char) :=
  [Number.digits summary.problems,
    summary.sat.meanTime.fixed 3, summary.hsp.meanTime.fixed 3,
    summary.sat.meanMakespan.fixed 1, summary.hsp.meanMakespan.fixed 1,
    Number.digits summary.sat.noPlan, Number.digits summary.hsp.noPlan]

/-- The line of a domain. -/
def domainLine (summary : DomainSummary) : List Char := line summary.domain.toList (cells summary)

/-- The report as text. -/
def text (report : Report) : String :=
  String.ofList (headerLine ++ report.domains.flatMap domainLine)

/-- The lines that name the charts of each domain. -/
def chartLines (report : Report) : String :=
  String.join (report.domains.map fun summary =>
    summary.domain ++ ": " ++ ", ".intercalate summary.charts ++ "\n")

end PlannerTrials.Report
