import PlannerTrials.Run
import Mathlib.Algebra.BigOperators.Group.List.Basic
import Mathlib.Algebra.GroupWithZero.Nat

/-!
# What is kept of an invocation

A run keeps the time of an invocation as it was, and of everything else only two things: whether the program
could be launched, and the makespan that its output shows.  The makespan tells more than it seems to.
A run that has failed has makespan zero, whatever came as its output.  So the runs without a makespan are the
failed and the empty ones together (`countP_failed_add_empty`), and a sum of makespans is a sum over the
programs that ran (`sum_makespan_ofInvocation`).
-/

namespace PlannerTrials

/-- The output of a program that ran shows no step of a plan. -/
def Invocation.showsNoPlan (i : Invocation) : Bool :=
  i.launched && Plan.makespan i.output.toList = 0

namespace Run

theorem ofInvocation_of_exited {i : Invocation} {code : Option Int} (h : i.outcome = .exited code) :
    ofInvocation i = ⟨i.elapsed, Plan.makespan i.output.toList, .completed⟩ := by
  rw [ofInvocation, h]

/-- What comes as the output of a program that could not be launched does not count. -/
theorem ofInvocation_of_notLaunched {i : Invocation} {reason : String}
    (h : i.outcome = .notLaunched reason) : ofInvocation i = ⟨i.elapsed, 0, .failed⟩ := by
  rw [ofInvocation, h]

/-- The time of a run is that of the invocation. -/
theorem elapsed_ofInvocation (i : Invocation) : (ofInvocation i).elapsed = i.elapsed := by
  unfold ofInvocation
  split <;> rfl

/-- A run has failed if its program could not be launched. -/
theorem isFailed_ofInvocation (i : Invocation) : (ofInvocation i).isFailed = !i.launched := by
  cases houtcome : i.outcome with
  | exited code =>
    rw [ofInvocation_of_exited houtcome, Invocation.launched, houtcome]
    rfl
  | notLaunched reason =>
    rw [ofInvocation_of_notLaunched houtcome, Invocation.launched, houtcome]
    rfl

/-- A run is empty if its program ran and shows no plan. -/
theorem isEmpty_ofInvocation (i : Invocation) : (ofInvocation i).isEmpty = i.showsNoPlan := by
  cases houtcome : i.outcome with
  | exited code =>
    rw [ofInvocation_of_exited houtcome, Invocation.showsNoPlan, Invocation.launched, houtcome]
    simp [isEmpty]
  | notLaunched reason =>
    rw [ofInvocation_of_notLaunched houtcome, Invocation.showsNoPlan, Invocation.launched, houtcome]
    rfl

end Run

/-- **Failed and empty runs together are those without a makespan.** -/
theorem countP_failed_add_empty (answers : List Invocation) :
    (answers.map Run.ofInvocation).countP Run.isFailed +
        (answers.map Run.ofInvocation).countP Run.isEmpty =
      (answers.map Run.ofInvocation).countP fun run => run.makespan = 0 := by
  induction answers with
  | nil => rfl
  | cons answer answers ih =>
    rw [List.map_cons, List.countP_cons, List.countP_cons, List.countP_cons, ← ih]
    cases houtcome : answer.outcome with
    | exited code =>
      have hrun := Run.ofInvocation_of_exited houtcome
      by_cases hzero : Plan.makespan answer.output.toList = 0
      · simp [hrun, Run.isFailed, Run.isEmpty, hzero]
        omega
      · simp [hrun, Run.isFailed, Run.isEmpty, hzero]
    | notLaunched reason =>
      have hrun := Run.ofInvocation_of_notLaunched houtcome
      simp [hrun, Run.isFailed, Run.isEmpty]
      omega

/-- The makespans of all runs add up to those shown by the programs that ran. -/
theorem sum_makespan_ofInvocation (answers : List Invocation) :
    ((answers.map Run.ofInvocation).map Run.makespan).sum =
      ((answers.filter Invocation.launched).map fun i => Plan.makespan i.output.toList).sum := by
  induction answers with
  | nil => rfl
  | cons answer answers ih =>
    rw [List.map_cons, List.map_cons, List.sum_cons, ih, List.filter_cons]
    cases houtcome : answer.outcome with
    | exited code =>
      simp [Run.ofInvocation_of_exited houtcome, Invocation.launched, houtcome]
    | notLaunched reason =>
      simp [Run.ofInvocation_of_notLaunched houtcome, Invocation.launched, houtcome]

end PlannerTrials
