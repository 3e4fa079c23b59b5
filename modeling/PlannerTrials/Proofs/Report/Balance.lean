import PlannerTrials.Proofs.Pass.Calls
import PlannerTrials.Proofs.Report.Sums
import PlannerTrials.Proofs.Run
import Mathlib.Data.List.Perm.Basic

/-!
# The report balances with the pass

A pass counts its runs while it makes them, and a report adds up what it reads from a file.  Nothing in
the file says how the counts were made: the status of a run is not written, and the names are
trimmed on the way, so that the report may have other domains than the pass.  `report_balances` says
that the sums agree all the same, whatever the solvers answer; an answer that no program could be launched may
come with an output, and a plan in it is not added up.

## Measures

All sums of a report are sums over the measures of its groups.  Grouping permutes the records, so these
measures are a permutation of those in the table (`flatMap_measures_groups`), and those are the
measures of the runs of the pass, two for each problem (`measures_rows`).  The status of a run can be
told from its makespan where it matters: a run that has failed has makespan zero, so that the runs
without a makespan are the failed and the empty ones together (`countP_failed_add_empty`).
-/

namespace PlannerTrials

/-! ## Sums of a report -/

/-- The measures of a group, first those of the one solver. -/
def Group.measures (group : Group) : List Measure :=
  group.records.map Record.sat ++ group.records.map Record.hsp

/-- The measures of a record. -/
def Record.measures (record : Record) : List Measure := [record.sat, record.hsp]

/-- **The measures of all groups are those of the table**, in another order. -/
theorem flatMap_measures_groups (records : List Record) :
    ((Group.groups records).flatMap Group.measures).Perm (records.flatMap Record.measures) := by
  have hgroup : ∀ group : Group, group.measures.Perm (group.records.flatMap Record.measures) := by
    intro group
    have hpairs := List.map_append_flatMap_perm group.records Record.sat fun r => [r.hsp]
    rwa [← List.map_eq_flatMap] at hpairs
  have hall : ((Group.groups records).flatMap Group.measures).Perm
      ((Group.groups records).flatMap fun group => group.records.flatMap Record.measures) :=
    List.Perm.flatMap_left _ fun group _ => hgroup group
  rw [← List.flatMap_assoc] at hall
  exact hall.trans ((Group.flatMap_records_groups records).flatMap_right _)

section Sums

variable (gs : List Group)

theorem sum_problems :
    ((gs.map Group.summary).map DomainSummary.problems).sum = (gs.flatMap Group.records).length := by
  rw [List.map_map, List.length_flatMap]
  rfl

theorem sum_noPlan :
    ((gs.map Group.summary).map fun d => d.sat.noPlan + d.hsp.noPlan).sum =
      (gs.flatMap Group.measures).countP fun m => m.makespan = 0 := by
  rw [List.map_map, List.countP_flatMap]
  congr 1
  refine List.map_congr_left fun group _ => ?_
  exact List.countP_append.symm

theorem sum_totalMakespan :
    ((gs.map Group.summary).map fun d => d.sat.totalMakespan + d.hsp.totalMakespan).sum =
      ((gs.flatMap Group.measures).map Measure.makespan).sum := by
  induction gs with
  | nil => rfl
  | cons group gs ih =>
    have hgroup : group.summary.sat.totalMakespan + group.summary.hsp.totalMakespan =
        (group.measures.map Measure.makespan).sum := by
      rw [Group.measures, List.map_append, List.sum_append_nat]
      exact congrArg₂ _ (SolverSummary.totalMakespan_ofMeasures _)
        (SolverSummary.totalMakespan_ofMeasures _)
    rw [List.map_cons, List.map_cons, List.sum_cons, ih, hgroup, List.flatMap_cons,
      List.map_append, List.sum_append_nat]

end Sums

/-! ## Runs of a pass -/

theorem Plan.makespan_lt_wordLimit (output : List Char) :
    Plan.makespan output < Number.Numeral.wordLimit :=
  Nat.lt_of_le_of_lt (Nat.min_le_right _ _) (by decide)

/-- Every makespan of a run fits into a table. -/
theorem Run.makespan_ofInvocation_lt (i : Invocation) :
    (Run.ofInvocation i).makespan < Number.Numeral.wordLimit := by
  unfold Run.ofInvocation
  split
  · exact Plan.makespan_lt_wordLimit _
  · exact Nat.zero_lt_of_lt (Plan.makespan_lt_wordLimit [])

/-- The rows of a pass fit into a table. -/
theorem Pass.fits_of_mem_rows {pass : Pass} {row : Row} (h : row ∈ pass.rows) :
    row.record.Fits := by
  obtain ⟨trial, _, rfl⟩ := List.mem_map.mp h
  exact ⟨Run.makespan_ofInvocation_lt _, Run.makespan_ofInvocation_lt _⟩

section Passes

variable {σ : Type} (invoke : Call → σ → Invocation × σ) (corpora : List Corpus) (s : σ)

/-- The runs of a pass are what is kept of the answers to its calls. -/
theorem Pass.runs_ofCorpora :
    (Pass.ofCorpora invoke corpora s).1.runs =
      (answersTo invoke (corpora.flatMap Corpus.calls) s).1.map Run.ofInvocation := by
  rw [answersTo_calls, List.map_flatMap]
  rfl

/-- A pass has a trial for each problem. -/
theorem Pass.length_trials_ofCorpora :
    (Pass.ofCorpora invoke corpora s).1.trials.length =
      (corpora.map fun corpus => corpus.problems.length).sum := by
  have hlength := congrArg List.length (map_subject_trialsOf invoke corpora s)
  rw [List.length_map, List.length_flatMap] at hlength
  rw [Pass.ofCorpora_eq, hlength]
  congr 1
  exact List.map_congr_left fun corpus _ => List.length_map _

end Passes

/-- What is read from the table of a pass are the measures of its runs. -/
theorem measures_rows (pass : Pass) :
    (pass.rows.map fun row => row.record.trimmed).flatMap Record.measures =
      pass.runs.map Run.measure := by
  rw [Pass.rows, Pass.runs, List.map_map, List.flatMap_map, List.map_flatMap]
  rfl

/-! ## The balance -/

/-- The totals of a report on records that fit into a table are numbers of 64 bits. -/
theorem Group.totalMakespan_summary_lt {records : List Record} (hfits : ∀ r ∈ records, r.Fits)
    (hlength : records.length < 2 ^ 32) {group : Group} (hgroup : group ∈ Group.groups records) :
    group.summary.sat.totalMakespan < 2 ^ 64 ∧ group.summary.hsp.totalMakespan < 2 ^ 64 := by
  have hcount : ∀ domain, (records.countP fun r => r.domain = domain) < 2 ^ 32 := fun _ =>
    Nat.lt_of_le_of_lt List.countP_le_length hlength
  have hsums := Group.sumsUp_summary hfits hcount hgroup
  exact ⟨hsums.sat.totalMakespan_lt, hsums.hsp.totalMakespan_lt⟩

/-- **The report balances with the pass.**  Whatever the solvers answer, the table of a pass can be
written and read, and the domains of the report on it have together the problems, the runs, the runs
without a plan and the makespans of the pass, also where names of domains coincide once they are
trimmed.  No sum leaves the numbers of 64 bits. -/
theorem report_balances {σ : Type} (invoke : Call → σ → Invocation × σ) (corpora : List Corpus)
    (s : σ) (generatedAt source : String)
    (hcount : (corpora.map fun corpus => corpus.problems.length).sum < 2 ^ 32) :
    let pass := (Pass.ofCorpora invoke corpora s).1
    let answers := (answersTo invoke (corpora.flatMap Corpus.calls) s).1
    ∃ content records, Table.file pass.rows = .ok content ∧ Table.read content = .ok records ∧
      let domains := (Report.ofRecords generatedAt source records).domains
      (domains.map DomainSummary.problems).sum = pass.summary.problems ∧
      2 * (domains.map DomainSummary.problems).sum = pass.summary.runs ∧
      (domains.map fun d => d.sat.noPlan + d.hsp.noPlan).sum =
        pass.summary.failedRuns + pass.summary.emptyPlans ∧
      (domains.map fun d => d.sat.totalMakespan + d.hsp.totalMakespan).sum =
        ((answers.filter Invocation.launched).map fun i => Plan.makespan i.output.toList).sum ∧
      ∀ d ∈ domains, d.sat.totalMakespan < 2 ^ 64 ∧ d.hsp.totalMakespan < 2 ^ 64 := by
  intro pass answers
  have hread : Table.read (Table.encode pass.rows) =
      .ok (pass.rows.map fun row => row.record.trimmed) :=
    Table.read_encode fun row hrow => Pass.fits_of_mem_rows hrow
  refine ⟨_, _, Table.file_eq_ok pass.rows, hread, ?_⟩
  have hfits : ∀ r ∈ pass.rows.map fun row => row.record.trimmed, r.Fits := by
    intro r hr
    obtain ⟨row, hrow, rfl⟩ := List.mem_map.mp hr
    exact ⟨(Pass.fits_of_mem_rows hrow).sat, (Pass.fits_of_mem_rows hrow).hsp⟩
  have hmeasures := flatMap_measures_groups (pass.rows.map fun row => row.record.trimmed)
  rw [measures_rows] at hmeasures
  have hlength : (pass.rows.map fun row => row.record.trimmed).length = pass.trials.length := by
    rw [List.length_map, Pass.rows, List.length_map]
  generalize (pass.rows.map fun row => row.record.trimmed) = records at hfits hmeasures hlength ⊢
  have hruns : pass.runs = answers.map Run.ofInvocation := Pass.runs_ofCorpora invoke corpora s
  have hproblems : (((Group.groups records).map Group.summary).map DomainSummary.problems).sum =
      pass.trials.length := by
    rw [sum_problems, (Group.flatMap_records_groups records).length_eq, hlength]
  have hdomains : (Report.ofRecords generatedAt source records).domains =
      (Group.groups records).map Group.summary := rfl
  simp only [hdomains]
  refine ⟨hproblems, ?_, ?_, ?_, ?_⟩
  · rw [hproblems, Nat.mul_comm]
    rfl
  · show _ = pass.runs.countP Run.isFailed + pass.runs.countP Run.isEmpty
    rw [sum_noPlan, hmeasures.countP_eq, List.countP_map, hruns, countP_failed_add_empty]
    rfl
  · rw [sum_totalMakespan, (hmeasures.map Measure.makespan).sum_eq, ← sum_makespan_ofInvocation,
      hruns, List.map_map]
    rfl
  · intro d hd
    obtain ⟨group, hgroup, rfl⟩ := List.mem_map.mp hd
    have hrecords : records.length < 2 ^ 32 := by
      rw [hlength, Pass.length_trials_ofCorpora]
      exact hcount
    exact Group.totalMakespan_summary_lt hfits hrecords hgroup

/-- Solvers of which every other one cannot be launched, and answers with a plan all the same. -/
def everyOther (_ : Call) (n : Nat) : Invocation × Nat :=
  (⟨⟨0, 1000000⟩, "0: A\n 0: B\n", "", if n % 2 = 0 then .exited (some 1) else .notLaunched "no"⟩,
    n + 1)

/-- Two domains that coincide once they are trimmed. -/
def clashingCorpora : List Corpus :=
  [⟨" a", " a/domain.pddl", [⟨" a", " a/p1.pddl"⟩]⟩,
    ⟨"a", "a/domain.pddl", [⟨"a", "a/p1.pddl"⟩, ⟨"a", "a/p2.pddl"⟩]⟩]

/-- Of six runs with a plan of two steps each, the three that have failed are without one in the report. -/
theorem report_balances_of_clashing_domains :
    (clashingCorpora.map fun corpus => corpus.problems.length).sum < 2 ^ 32 ∧
    let pass := (Pass.ofCorpora everyOther clashingCorpora 0).1
    ∃ content records, Table.file pass.rows = .ok content ∧ Table.read content = .ok records ∧
      let domains := (Report.ofRecords "now" "table.csv" records).domains
      (domains.map DomainSummary.problems).sum = 3 ∧
      (domains.map fun d => d.sat.noPlan + d.hsp.noPlan).sum = 3 ∧ pass.summary.failedRuns = 3 ∧
      (domains.map fun d => d.sat.totalMakespan + d.hsp.totalMakespan).sum = 6 := by
  have hcount : (clashingCorpora.map fun corpus => corpus.problems.length).sum < 2 ^ 32 := by decide
  obtain ⟨content, records, hfile, hread, hproblems, _, hnoPlan, hmakespan, _⟩ :=
    report_balances everyOther clashingCorpora 0 "now" "table.csv" hcount
  refine ⟨hcount, content, records, hfile, hread, ?_, ?_, ?_, ?_⟩
  · rw [hproblems]
    decide
  · rw [hnoPlan]
    decide +kernel
  · decide +kernel
  · rw [hmakespan]
    decide +kernel

end PlannerTrials
