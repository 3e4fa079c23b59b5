import PlannerTrials.Report.Chart

/-!
# Sums and means for the domains

For each domain and each solver a report has the total and the mean of the times and of the makespans
and the number of problems without a plan.  Times are added in the order of the table and rounded to
the millisecond only at the end; makespans are added exactly.
-/

namespace PlannerTrials

/-- The sums and means of a solver in a domain. -/
structure SolverSummary where
  totalTime : Double
  meanTime : Double
  totalMakespan : Nat
  meanMakespan : Double
  /-- The number of runs without a plan. -/
  noPlan : Nat
  deriving DecidableEq

namespace SolverSummary

/-- A total divided among a number of runs. -/
def mean (total : Double) (count : Nat) : Double :=
  if count = 0 then Double.zero else total.dividedBy count

/-- The sums and means of runs. -/
def ofMeasures (measures : List Measure) : SolverSummary :=
  let totalTime := measures.foldl (fun total m => total + m.time) Double.zero
  let totalMakespan := measures.foldl (fun total m => total + m.makespan) 0
  { totalTime := totalTime.roundMillis
    meanTime := (mean totalTime measures.length).roundMillis
    totalMakespan := totalMakespan
    meanMakespan := (mean (Double.ofNat totalMakespan) measures.length).roundMillis
    noPlan := measures.countP fun m => m.makespan = 0 }

end SolverSummary

/-- The summary of a domain. -/
structure DomainSummary where
  domain : String
  problems : Nat
  sat : SolverSummary
  hsp : SolverSummary
  /-- The names of the files of the charts. -/
  charts : List String
  deriving DecidableEq

/-- The summary of a group. -/
def Group.summary (group : Group) : DomainSummary where
  domain := group.domain
  problems := group.records.length
  sat := .ofMeasures (group.records.map fun r => r.measure .sat)
  hsp := .ofMeasures (group.records.map fun r => r.measure .hsp)
  charts := ChartKind.all.map fun kind => kind.fileName group.domain

/-- A report on a table. -/
structure Report where
  /-- When the report was made. -/
  generatedAt : String
  /-- The table that it is about. -/
  source : String
  domains : List DomainSummary
  deriving DecidableEq

/-- The report on records. -/
def Report.ofRecords (generatedAt source : String) (records : List Record) : Report :=
  ⟨generatedAt, source, (Group.groups records).map Group.summary⟩

end PlannerTrials
