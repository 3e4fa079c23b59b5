import PlannerTrials.Json
import PlannerTrials.Report.Summary

/-!
# Reports as documents

A report is written as a JSON document, with the entries of the report, of its domains and of the two
solvers in a fixed order.
-/

namespace PlannerTrials

/-- The sums and means of a solver as a document. -/
def SolverSummary.document (summary : SolverSummary) : Json :=
  .object [("total_time", .ofDouble summary.totalTime), ("mean_time", .ofDouble summary.meanTime),
    ("total_makespan", .ofNat summary.totalMakespan),
    ("mean_makespan", .ofDouble summary.meanMakespan), ("no_plan", .ofNat summary.noPlan)]

/-- The summary of a domain as a document. -/
def DomainSummary.document (summary : DomainSummary) : Json :=
  .object [("domain", .string summary.domain), ("problems", .ofNat summary.problems),
    ("sat", summary.sat.document), ("hsp", summary.hsp.document),
    ("charts", .array (summary.charts.map Json.string))]

namespace Report

/-- The report as a document. -/
def document (report : Report) : Json :=
  .object [("generated_at", .string report.generatedAt), ("source", .string report.source),
    ("domains", .array (report.domains.map DomainSummary.document))]

/-- The text of the document. -/
def documentText (report : Report) : String := String.ofList (report.document.render 0)

end Report

end PlannerTrials
