import PlannerTrials.Report.Summary
import PlannerTrials.Proofs.Number.Notation
import PlannerTrials.Proofs.Report.Group
import Mathlib.Data.List.Dedup
import Mathlib.Data.List.Infix
import Mathlib.Data.List.ProdSigma

/-!
# Charts stay apart and agree with the table

A report names two charts for each domain, and the charts are drawn elsewhere, from the groups themselves.
`charts_apart_and_aligned` says that the two go together: no two charts of a report have the same name, the
name of a chart is the one that the report gives, and the bars of a chart stand for the records of its group,
one after the other.

## Why no domain can imitate another chart

A domain may be any text, and so it may end as the name of a chart does.  Names are compared from their end
all the same.  What stands behind the domain (`ChartKind.ending`) is one of two texts, neither of which is an end of
the other one, so the two names that are equal end in the same of them, and what is left are the domains
(`ChartKind.fileName_injective`).

## What a bar shows

A chart of makespans has doubles for numbers that the table has as words.  The height of a bar is compared
with the cell of the table and not with the record: read as a double, the cell of the record in the column of the
kind and the solver is the height (`ChartKind.read_cell_column`).
-/

namespace PlannerTrials

namespace ChartKind

/-! ## Names of files -/

/-- What stands behind the domain in the name of a file. -/
def ending (kind : ChartKind) : List Char := '_' :: kind.name.toList ++ "_comparison.png".toList

theorem toList_fileName (kind : ChartKind) (domain : String) :
    (kind.fileName domain).toList = domain.toList ++ kind.ending := by
  simp [fileName, ending]

/-- No ending is an end of another one. -/
theorem eq_of_ending_isSuffix {kind kind' : ChartKind} (h : kind.ending <:+ kind'.ending) :
    kind = kind' := by
  revert h
  cases kind <;> cases kind' <;> decide

/-- **The name of a file tells the domain and the kind.** -/
theorem fileName_injective :
    Function.Injective fun chart : String × ChartKind => chart.2.fileName chart.1 := by
  rintro ⟨domain, kind⟩ ⟨domain', kind'⟩ h
  have hnames : domain.toList ++ kind.ending = domain'.toList ++ kind'.ending := by
    rw [← toList_fileName, ← toList_fileName]
    exact congrArg String.toList h
  have hkind : kind = kind' := by
    -- both endings are ends of one name, so that one of them is an end of the other
    have hending : kind.ending <:+ domain'.toList ++ kind'.ending :=
      hnames ▸ List.suffix_append _ _
    rcases List.suffix_or_suffix_of_suffix hending (List.suffix_append _ _) with h | h
    · exact eq_of_ending_isSuffix h
    · exact (eq_of_ending_isSuffix h).symm
  subst hkind
  have hdomain : domain.toList = domain'.toList := List.append_cancel_right hnames
  rw [String.toList_inj.mp hdomain]

theorem getElem?_idxOf_all (kind : ChartKind) : all[all.idxOf kind]? = some kind := by
  cases kind <;> rfl

/-! ## Columns -/

/-- The column of the table that a chart shows for a solver. -/
def column : ChartKind → Solver → Column
  | .time, .sat => .satTime
  | .time, .hsp => .hspTime
  | .makespan, .sat => .satMakespan
  | .makespan, .hsp => .hspMakespan

/-- **A bar is as high as its cell says.** -/
theorem read_cell_column (kind : ChartKind) (solver : Solver) (record : Record) :
    Double.read ((kind.column solver).cell record) = .ok (kind.height (record.measure solver)) := by
  have hlayout : Column.timeLayout.Readable := .inl rfl
  cases kind with
  | time => cases solver <;> exact Double.read_text hlayout _
  | makespan => cases solver <;> exact Double.read_numeral _

end ChartKind

/-! ## The names of a report -/

/-- The domains of the groups of a table are the domains of the table, each of them once. -/
theorem Group.perm_domains_groups (records : List Record) :
    ((groups records).map Group.domain).Perm (records.map Record.domain).dedup := by
  have hgathers := gathers_groups records
  refine (List.perm_ext_iff_of_nodup hgathers.distinct (List.nodup_dedup _)).mpr fun domain => ?_
  rw [hgathers.domains, List.mem_dedup]

namespace Report

variable (records : List Record) (generatedAt source : String)

/-- The names of the charts of all domains of a report. -/
def chartNames (report : Report) : List String := report.domains.flatMap DomainSummary.charts

/-- The charts of a report are those of each domain and each kind. -/
theorem chartNames_ofRecords :
    (ofRecords generatedAt source records).chartNames =
      ((Group.groups records).map Group.domain ×ˢ ChartKind.all).map
        fun chart => chart.2.fileName chart.1 := by
  have hproduct : ((Group.groups records).map Group.domain ×ˢ ChartKind.all) =
      ((Group.groups records).map Group.domain).flatMap fun domain =>
        ChartKind.all.map (Prod.mk domain) := rfl
  have hgroup : ∀ group : Group, group.summary.charts =
      (ChartKind.all.map (Prod.mk group.domain)).map fun chart => chart.2.fileName chart.1 := by
    intro group
    rw [List.map_map]
    rfl
  rw [hproduct, List.map_flatMap, List.flatMap_map]
  simp only [chartNames, ofRecords, List.flatMap_map, hgroup]

theorem nodup_chartNames : (ofRecords generatedAt source records).chartNames.Nodup := by
  have hkinds : ChartKind.all.Nodup := by decide
  have hcharts := (Group.gathers_groups records).distinct.product hkinds
  rw [chartNames_ofRecords]
  exact hcharts.map ChartKind.fileName_injective

theorem length_chartNames :
    (ofRecords generatedAt source records).chartNames.length =
      2 * (records.map Record.domain).dedup.length := by
  have hkinds : ChartKind.all.length = 2 := rfl
  rw [chartNames_ofRecords, List.length_map, List.length_product, hkinds,
    (Group.perm_domains_groups records).length_eq, Nat.mul_comm]

end Report

/-! ## The bars of a chart -/

/-- The heights of the bars for a solver. -/
def Chart.bars (chart : Chart) : Solver → List Double
  | .sat => chart.sat
  | .hsp => chart.hsp

theorem Group.bars_chart (group : Group) (kind : ChartKind) (solver : Solver) :
    (group.chart kind).bars solver = group.records.map fun r => kind.height (r.measure solver) := by
  cases solver <;> rfl

/-- A chart that shows a group. -/
structure Group.IsDrawnBy (group : Group) (kind : ChartKind) (chart : Chart) : Prop where
  /-- The report has the name of the chart at the place of its kind. -/
  fileName : group.summary.charts[ChartKind.all.idxOf kind]? = some chart.fileName
  problems : chart.problems.length = group.summary.problems
  bars : ∀ solver, (chart.bars solver).length = group.summary.problems
  /-- At the place of a record stand its problem and for each solver a bar as high as the cell of the
  record says. -/
  record : ∀ (j : Nat) (record : Record), group.records[j]? = some record →
    chart.problems[j]? = some record.problem ∧
    ∀ solver, ∃ height, (chart.bars solver)[j]? = some height ∧
      Double.read ((kind.column solver).cell record) = .ok height

/-- **The charts of a group show it.** -/
theorem Group.isDrawnBy_chart (group : Group) (kind : ChartKind) :
    group.IsDrawnBy kind (group.chart kind) where
  fileName := by
    show (ChartKind.all.map fun kind => kind.fileName group.domain)[ChartKind.all.idxOf kind]? = _
    rw [List.getElem?_map, ChartKind.getElem?_idxOf_all]
    rfl
  problems := List.length_map _
  bars solver := by
    rw [Group.bars_chart]
    exact List.length_map _
  record j record hrecord := by
    have hproblem : (group.chart kind).problems[j]? = some record.problem := by
      show (group.records.map Record.problem)[j]? = _
      rw [List.getElem?_map, hrecord, Option.map_some]
    have hbar : ∀ solver,
        ((group.chart kind).bars solver)[j]? = some (kind.height (record.measure solver)) := by
      intro solver
      rw [Group.bars_chart, List.getElem?_map, hrecord, Option.map_some]
    exact ⟨hproblem, fun solver => ⟨_, hbar solver, kind.read_cell_column solver record⟩⟩

/-- **Charts stay apart and agree with the table.**  The name of a chart tells its domain and its kind whatever
the domain is; the charts of a report have different names, two for each domain of the table; and the
charts of any group have the names that its summary gives and show its records in their order. -/
theorem charts_apart_and_aligned (records : List Record) (generatedAt source : String) :
    (Function.Injective fun chart : String × ChartKind => chart.2.fileName chart.1) ∧
    (Report.ofRecords generatedAt source records).chartNames.Nodup ∧
    (Report.ofRecords generatedAt source records).chartNames.length =
      2 * (records.map Record.domain).dedup.length ∧
    ∀ (group : Group) (kind : ChartKind), group.IsDrawnBy kind (group.chart kind) :=
  ⟨ChartKind.fileName_injective, Report.nodup_chartNames records generatedAt source,
    Report.length_chartNames records generatedAt source, Group.isDrawnBy_chart⟩

end PlannerTrials
