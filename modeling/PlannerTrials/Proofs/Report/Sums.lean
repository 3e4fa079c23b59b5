import PlannerTrials.Report.Summary
import PlannerTrials.Proofs.Report.Group
import PlannerTrials.Proofs.Table.RoundTrip
import Mathlib.Algebra.BigOperators.Group.List.Basic

/-!
# A report adds up every record once

`report_sums_each_domain` says what a report has for a table: it goes through the groups of the table, which
gather all of it (`Group.gathers_groups`), and has for each of them and for each solver the sums over the
records of the group, taken from the columns of this solver alone (`Group.SumsUp`).

## What can go wrong with a sum

Makespans are words of 32 bits and are added up in a word of 64 bits.  Up to `2 ^ 32` of them fit
(`sum_makespan_lt`), and so does the sum of any part from which the rest is still missing, which is what is in
the word while the loop runs.  A mean is a sum divided among the records; a group has a record, so the divisor
is not zero and the case in which there is nothing to divide does not occur.
-/

namespace PlannerTrials

/-! ## Sums of measures -/

namespace SolverSummary

theorem totalMakespan_ofMeasures (measures : List Measure) :
    (ofMeasures measures).totalMakespan = (measures.map Measure.makespan).sum := by
  rw [List.sum_eq_foldl_nat, List.foldl_map]
  rfl

/-- A mean of something is the total divided among all. -/
theorem mean_of_pos {total : Double} {count : Nat} (h : 0 < count) :
    mean total count = total.dividedBy count :=
  if_neg (Nat.ne_of_gt h)

end SolverSummary

/-- The total of makespans that fit into a table is below their number times what a table can hold. -/
theorem sum_makespan_le {measures : List Measure}
    (h : ∀ m ∈ measures, m.makespan < Number.Numeral.wordLimit) :
    (measures.map Measure.makespan).sum ≤ measures.length * (2 ^ 32 - 1) := by
  induction measures with
  | nil => exact Nat.le_refl 0
  | cons m measures ih =>
    have hm : m.makespan < 2 ^ 32 := h m List.mem_cons_self
    have hrest := ih fun m hm => h m (List.mem_cons_of_mem _ hm)
    rw [List.map_cons, List.sum_cons, List.length_cons, Nat.succ_mul]
    omega

/-- The total of makespans that fit into a table is a number of 64 bits. -/
theorem sum_makespan_lt {measures : List Measure}
    (hfits : ∀ m ∈ measures, m.makespan < Number.Numeral.wordLimit)
    (hlength : measures.length < 2 ^ 32) : (measures.map Measure.makespan).sum < 2 ^ 64 := by
  have hbound := sum_makespan_le hfits
  omega

/-! ## Summaries of solvers -/

/-- The sums and means of a solver are those of its measures. -/
structure SolverSummary.Sums (measures : List Measure) (summary : SolverSummary) : Prop where
  totalMakespan : summary.totalMakespan = (measures.map Measure.makespan).sum
  /-- At no place of the sum is the number in the word too large for it. -/
  within : ∀ part, part <+: measures → (part.map Measure.makespan).sum < 2 ^ 64
  noPlan : summary.noPlan = measures.countP fun m => m.makespan = 0
  totalTime : summary.totalTime =
    ((measures.map Measure.time).foldl (· + ·) Double.zero).roundMillis
  /-- There is something to divide among. -/
  divisor_pos : 0 < measures.length
  meanTime : summary.meanTime =
    (((measures.map Measure.time).foldl (· + ·) Double.zero).dividedBy measures.length).roundMillis
  meanMakespan : summary.meanMakespan =
    ((Double.ofNat (measures.map Measure.makespan).sum).dividedBy measures.length).roundMillis

/-- **A summary has the sums and means of its measures.** -/
theorem SolverSummary.sums_ofMeasures {measures : List Measure} (hne : measures ≠ [])
    (hfits : ∀ m ∈ measures, m.makespan < Number.Numeral.wordLimit)
    (hlength : measures.length < 2 ^ 32) : (ofMeasures measures).Sums measures where
  totalMakespan := totalMakespan_ofMeasures measures
  within part hpart :=
    sum_makespan_lt (fun m hm => hfits m (hpart.subset hm))
      (Nat.lt_of_le_of_lt hpart.length_le hlength)
  noPlan := rfl
  totalTime := by
    rw [List.foldl_map]
    rfl
  divisor_pos := List.length_pos_iff.mpr hne
  meanTime := by
    rw [← mean_of_pos (List.length_pos_iff.mpr hne), List.foldl_map]
    rfl
  meanMakespan := by
    rw [← mean_of_pos (List.length_pos_iff.mpr hne), ← totalMakespan_ofMeasures]
    rfl

/-- The total is the last number in the word. -/
theorem SolverSummary.Sums.totalMakespan_lt {measures : List Measure} {summary : SolverSummary}
    (h : summary.Sums measures) : summary.totalMakespan < 2 ^ 64 := by
  rw [h.totalMakespan]
  exact h.within measures List.prefix_rfl

/-! ## Summaries of domains -/

/-- A summary of a domain is that of a group. -/
structure Group.SumsUp (group : Group) (summary : DomainSummary) : Prop where
  domain : summary.domain = group.domain
  problems : summary.problems = group.records.length
  sat : summary.sat.Sums (group.records.map Record.sat)
  hsp : summary.hsp.Sums (group.records.map Record.hsp)

section Groups

variable {records : List Record} (hfits : ∀ r ∈ records, r.Fits)
  (hcount : ∀ domain, (records.countP fun r => r.domain = domain) < 2 ^ 32) {group : Group}
  (hgroup : group ∈ Group.groups records)

include hfits hcount hgroup

/-- What a group of a table has in the columns of a solver is summed up. -/
theorem Group.sums_ofMeasures {column : Record → Measure}
    (hcolumn : ∀ r : Record, r.Fits → (column r).makespan < Number.Numeral.wordLimit) :
    (SolverSummary.ofMeasures (group.records.map column)).Sums (group.records.map column) := by
  have hgathers := Group.gathers_groups records
  have hlength : group.records.length < 2 ^ 32 := by
    rw [hgathers.whole group hgroup, ← List.countP_eq_length_filter]
    exact hcount group.domain
  refine SolverSummary.sums_ofMeasures ?_ ?_ (by rwa [List.length_map])
  · exact mt List.map_eq_nil_iff.mp (hgathers.inhabited group hgroup)
  · intro m hm
    obtain ⟨r, hr, rfl⟩ := List.mem_map.mp hm
    exact hcolumn r (hfits r (Group.mem_of_mem_groups hgroup hr))

/-- A group of a table whose domains are not too long is summed up. -/
theorem Group.sumsUp_summary : group.SumsUp group.summary where
  domain := rfl
  problems := rfl
  sat := Group.sums_ofMeasures hfits hcount hgroup fun _ hr => hr.sat
  hsp := Group.sums_ofMeasures hfits hcount hgroup fun _ hr => hr.hsp

end Groups

/-! ## Reports -/

/-- **A report adds up every record once.**  The groups of a table gather it, and the report has, in their order,
for each group the number of its records and for each solver the sums and means over its own columns there. -/
theorem report_sums_each_domain (records : List Record) (generatedAt source : String) :
    Group.Gathers records (Group.groups records) ∧
    ((∀ r ∈ records, r.Fits) →
      (∀ domain, (records.countP fun r => r.domain = domain) < 2 ^ 32) →
      List.Forall₂ Group.SumsUp (Group.groups records)
        (Report.ofRecords generatedAt source records).domains) := by
  refine ⟨Group.gathers_groups records, fun hfits hcount => ?_⟩
  rw [Report.ofRecords, List.forall₂_map_right_iff, List.forall₂_same]
  exact fun group hgroup => Group.sumsUp_summary hfits hcount hgroup

/-- Two domains that take turns.  One solver has no plan where the other one has, and its largest makespan is the
largest that there is. -/
def turns : List Record :=
  [⟨"b", "p1", ⟨11, Double.ofNat 5⟩, ⟨0, Double.zero⟩⟩,
    ⟨"a", "p1", ⟨0, Double.zero⟩, ⟨7, Double.ofNat 2⟩⟩,
    ⟨"b", "p2", ⟨3, Double.ofNat 1⟩, ⟨2 ^ 32 - 1, Double.ofNat 9⟩⟩,
    ⟨"a", "p2", ⟨4, Double.ofNat 8⟩, ⟨0, Double.ofNat 3⟩⟩]

/-- Each domain has its own records in the order of the table. -/
theorem report_sums_turns :
    (∀ r ∈ turns, r.Fits) ∧ (∀ domain, (turns.countP fun r => r.domain = domain) < 2 ^ 32) ∧
      Group.groups turns =
        [⟨"b", turns.filter fun r => r.domain = "b"⟩, ⟨"a", turns.filter fun r => r.domain = "a"⟩] ∧
      Group.Gathers turns (Group.groups turns) ∧
      List.Forall₂ Group.SumsUp (Group.groups turns)
        (Report.ofRecords "now" "table.csv" turns).domains := by
  have hfits : ∀ r ∈ turns, r.Fits := by
    intro r hr
    simp only [turns, List.mem_cons, List.not_mem_nil, or_false] at hr
    rcases hr with rfl | rfl | rfl | rfl <;> exact ⟨by decide, by decide⟩
  have hcount : ∀ domain, (turns.countP fun r => r.domain = domain) < 2 ^ 32 := fun domain =>
    Nat.lt_of_le_of_lt List.countP_le_length (by decide)
  obtain ⟨hgathers, hsums⟩ := report_sums_each_domain turns "now" "table.csv"
  exact ⟨hfits, hcount, rfl, hgathers, hsums hfits hcount⟩

end PlannerTrials
