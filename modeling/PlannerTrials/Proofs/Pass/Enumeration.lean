import PlannerTrials.Proofs.Pass.Effects
import PlannerTrials.Proofs.Run

/-!
# A pass is an enumeration

A pass over located corpora goes through its problems in their order, and everything that it does and
keeps is determined problem by problem: the solver based on satisfiability is called, then the one
based on heuristic search, both with the description of the corpus and the path of the problem, and the row of the
problem keeps what is kept of these two answers.  `Enumerates` says this of a list of problems, a
record of effects and a list of rows, without a word about how a pass is computed, and
`pass_enumerates_corpora` says that every recorded pass is such an enumeration.

## Counting

The counts of a pass are made from its runs.  Along an enumeration the runs of the rows are what is kept
of the recorded answers, in the same order (`Enumerates.runs_eq`), so every count of runs is a count of
answers: a run has failed if its program could not be launched, and is empty if the program ran and
its output shows no step of a plan.
-/

namespace PlannerTrials

/-! ## Runs and answers -/

/-- The runs of a row in their order. -/
def Row.runs (row : Row) : List Run := Solver.all.map row.run

/-- The answer of the solver, if the effect is a call of one. -/
def Effect.answer? : Effect → Option Invocation
  | .ran _ answer => some answer
  | .wrote .. => none

/-! ## Enumerations -/

/-- Problems, each with its domain and the description of that, what was done for them, and the rows
that came of it. -/
inductive Enumerates : List (String × String × Problem) → List Effect → List Row → Prop where
  | nil : Enumerates [] [] []
  /-- Both solvers are called on the first problem, and its row has what is kept of their answers. -/
  | cons {domain description : String} {problem : Problem}
      {rest : List (String × String × Problem)} {trace : List Effect} {rows : List Row}
      (sat hsp : Invocation) : Enumerates rest trace rows →
      Enumerates ((domain, description, problem) :: rest)
        (.ran ⟨.sat, description, problem.path⟩ sat ::
          .ran ⟨.hsp, description, problem.path⟩ hsp :: trace)
        (⟨domain, problem.name, Run.ofInvocation sat, Run.ofInvocation hsp⟩ :: rows)

namespace Enumerates

variable {problems : List (String × String × Problem)} {trace : List Effect} {rows : List Row}

/-- There are two calls for each row. -/
theorem length_trace (h : Enumerates problems trace rows) :
    trace.length = rows.length * Solver.all.length := by
  induction h with
  | nil => rfl
  | cons sat hsp _ ih =>
    rw [List.length_cons, List.length_cons, List.length_cons, ih, Nat.succ_mul]
    rfl

/-- The runs of the rows are what is kept of the answers. -/
theorem runs_eq (h : Enumerates problems trace rows) :
    rows.flatMap Row.runs = (trace.filterMap Effect.answer?).map Run.ofInvocation := by
  induction h with
  | nil => rfl
  | cons sat hsp _ ih =>
    rw [List.flatMap_cons, ih]
    rfl

end Enumerates

/-! ## Recorded passes -/

/-- What is done for a trial. -/
def Trial.effects (trial : Trial) : List Effect :=
  List.zipWith Effect.ran trial.calls trial.answers

/-- The record of all calls is made of the records of the trials. -/
theorem zipWith_ran_eq (trials : List Trial) :
    List.zipWith Effect.ran (trials.flatMap Trial.calls) (trials.flatMap Trial.answers) =
      trials.flatMap Trial.effects := by
  induction trials with
  | nil => rfl
  | cons trial trials ih =>
    rw [List.flatMap_cons, List.flatMap_cons, List.flatMap_cons, List.zipWith_append, ih]
    · rfl
    · rfl

/-- Trials enumerate their problems. -/
theorem enumerates_trials (trials : List Trial) :
    Enumerates (trials.map Trial.subject) (trials.flatMap Trial.effects)
      (trials.map Trial.row) := by
  induction trials with
  | nil => exact .nil
  | cons trial trials ih => exact .cons trial.sat trial.hsp ih

/-- A pass has two runs for each trial. -/
theorem Pass.length_runs (pass : Pass) :
    pass.runs.length = pass.trials.length * Solver.all.length := by
  have hruns : ∀ trial : Trial, trial.runs.length = Solver.all.length := fun trial =>
    List.length_map _
  rw [Pass.runs, List.length_flatMap]
  simp only [hruns, List.map_const', List.sum_replicate_nat]

section Recorded

variable {σ : Type} (world : World σ) (corpora : List Corpus) (s : σ)

/-- What a recorded pass does is what is done for its trials. -/
theorem ofCorpora_recorded_eq (trace : List Effect) :
    Pass.ofCorpora world.recorded.invoker.invoke corpora (s, trace) =
      ((Pass.ofCorpora world.invoker.invoke corpora s).1,
        (Pass.ofCorpora world.invoker.invoke corpora s).2,
        trace ++ (Pass.ofCorpora world.invoker.invoke corpora s).1.trials.flatMap Trial.effects) := by
  have hanswers := congrArg Prod.fst (answersTo_calls world.invoker.invoke corpora s)
  rw [ofCorpora_recorded, hanswers, ← calls_trialsOf world.invoker.invoke corpora s, zipWith_ran_eq]
  rfl

/-- **A pass is an enumeration of its corpora.**  Recording changes neither the pass nor the state that
it leaves.  What is recorded are two calls for each problem of each corpus, in this order and nothing
else, every row has what is kept of the answers to its two calls, with the time as it was, and the
counts of the pass are those of its rows, its calls, its corpora, the answers that no program could be
launched, and the answers of programs that ran and showed no plan. -/
theorem pass_enumerates_corpora :
    let recorded := Pass.ofCorpora world.recorded.invoker.invoke corpora (s, [])
    let pass := recorded.1
    let trace := recorded.2.2
    let answers := trace.filterMap Effect.answer?
    Pass.ofCorpora world.invoker.invoke corpora s = (pass, recorded.2.1) ∧
      Enumerates (corpora.flatMap Corpus.subjects) trace pass.rows ∧
      (pass.rows.flatMap Row.runs).map Run.elapsed = answers.map Invocation.elapsed ∧
      pass.summary =
        { domains := corpora.length
          problems := pass.rows.length
          runs := trace.length
          failedRuns := answers.countP fun answer => !answer.launched
          emptyPlans := answers.countP Invocation.showsNoPlan } ∧
      pass.summary.failedRuns + pass.summary.emptyPlans +
        (pass.rows.flatMap Row.runs).countP (fun run => 0 < run.makespan) = pass.summary.runs := by
  intro recorded pass trace answers
  have hrecorded := ofCorpora_recorded_eq world corpora s []
  rw [List.nil_append] at hrecorded
  have hpass : pass = (Pass.ofCorpora world.invoker.invoke corpora s).1 :=
    congrArg Prod.fst hrecorded
  have htrace : trace = pass.trials.flatMap Trial.effects := by
    rw [hpass]
    exact congrArg (fun t => t.2.2) hrecorded
  have hsubjects : pass.trials.map Trial.subject = corpora.flatMap Corpus.subjects := by
    rw [hpass]
    exact map_subject_trialsOf world.invoker.invoke corpora s
  have henumerates : Enumerates (corpora.flatMap Corpus.subjects) trace pass.rows := by
    rw [htrace, ← hsubjects]
    exact enumerates_trials pass.trials
  have hruns : pass.rows.flatMap Row.runs = answers.map Run.ofInvocation := henumerates.runs_eq
  have hrows : pass.runs = pass.rows.flatMap Row.runs := by
    rw [Pass.runs, Pass.rows, List.flatMap_map]
    rfl
  have hfailed : pass.runs.countP Run.isFailed = answers.countP fun answer => !answer.launched := by
    rw [hrows, hruns, List.countP_map]
    exact List.countP_congr fun answer _ => by rw [← Run.isFailed_ofInvocation]; rfl
  have hempty : pass.runs.countP Run.isEmpty = answers.countP Invocation.showsNoPlan := by
    rw [hrows, hruns, List.countP_map]
    exact List.countP_congr fun answer _ => by rw [← Run.isEmpty_ofInvocation]; rfl
  refine ⟨?_, henumerates, ?_, ?_, ?_⟩
  · exact (congrArg (fun t => (t.1, t.2.1)) hrecorded).symm
  · rw [hruns, List.map_map]
    exact List.map_congr_left fun answer _ => Run.elapsed_ofInvocation answer
  · have hdomains : pass.domains = corpora.length := by
      rw [hpass]
      rfl
    have hproblems : pass.trials.length = pass.rows.length := by
      rw [Pass.rows, List.length_map]
    rw [Pass.summary, hdomains, hfailed, hempty, henumerates.length_trace, hproblems]
  · show pass.runs.countP Run.isFailed + pass.runs.countP Run.isEmpty +
      (pass.rows.flatMap Row.runs).countP (fun run => 0 < run.makespan) =
        pass.trials.length * Solver.all.length
    have hnone := countP_failed_add_empty answers
    rw [← hruns, ← hrows] at hnone
    rw [hnone, ← hrows, ← Pass.length_runs,
      List.length_eq_countP_add_countP fun run : Run => decide (run.makespan = 0)]
    congr 1
    exact List.countP_congr fun run _ => by simp [Nat.pos_iff_ne_zero]

end Recorded

end PlannerTrials
