import PlannerTrials.Corpus.Basic
import PlannerTrials.Log
import PlannerTrials.Table.Basic

/-!
# Passes

A pass runs both solvers on every selected problem, one process at a time: the corpora in their
order, the problems of a corpus in their order, and for each problem the solvers in the order of
`Solver.all`.  `trialsOf` is the only place where solvers are invoked.  It takes the world through the
invocations, so the answer to one may depend on everything before it, and what it returns are the
bare invocations.  The rows of the table, the summary and the events are functions of these.
-/

namespace PlannerTrials

/-- A solver and the two files that it is run on. -/
structure Call where
  solver : Solver
  description : String
  problem : String
  deriving DecidableEq, Repr

/-- Runs solvers in a world with the states `σ`. -/
structure Invoker (σ : Type) where
  invoke : Call → σ → Invocation × σ
  /-- What is told before a solver is run. -/
  announce : Call → List Event := fun _ => []

/-- Both runs on one problem. -/
structure Trial where
  /-- The domain of the corpus. -/
  domain : String
  description : String
  problem : Problem
  sat : Invocation
  hsp : Invocation
  deriving DecidableEq, Repr

namespace Trial

/-- The run of a solver in a trial. -/
def invocation (trial : Trial) : Solver → Invocation
  | .sat => trial.sat
  | .hsp => trial.hsp

/-- How a solver is called in a trial. -/
def call (trial : Trial) (solver : Solver) : Call :=
  ⟨solver, trial.description, trial.problem.path⟩

/-- The calls of a trial in their order. -/
def calls (trial : Trial) : List Call := Solver.all.map trial.call

/-- What is kept of the run of a solver. -/
def run (trial : Trial) (solver : Solver) : Run := Run.ofInvocation (trial.invocation solver)

/-- The runs of a trial in their order. -/
def runs (trial : Trial) : List Run := Solver.all.map trial.run

/-- The row of a trial. -/
def row (trial : Trial) : Row :=
  ⟨trial.domain, trial.problem.name, trial.run .sat, trial.run .hsp⟩

end Trial

section Running

variable {σ : Type} (invoke : Call → σ → Invocation × σ)

/-- Runs both solvers on a problem. -/
def trialOf (corpus : Corpus) (problem : Problem) (s : σ) : Trial × σ :=
  let (sat, s) := invoke ⟨.sat, corpus.description, problem.path⟩ s
  let (hsp, s) := invoke ⟨.hsp, corpus.description, problem.path⟩ s
  (⟨corpus.domain, corpus.description, problem, sat, hsp⟩, s)

/-- Runs both solvers on the problems of a corpus. -/
def trialsOn (corpus : Corpus) : List Problem → σ → List Trial × σ
  | [], s => ([], s)
  | problem :: rest, s =>
    let (trial, s) := trialOf invoke corpus problem s
    let (trials, s) := trialsOn corpus rest s
    (trial :: trials, s)

/-- Runs both solvers on the problems of all corpora. -/
def trialsOf : List Corpus → σ → List Trial × σ
  | [], s => ([], s)
  | corpus :: rest, s =>
    let (trials, s) := trialsOn invoke corpus corpus.problems s
    let (more, s) := trialsOf rest s
    (trials ++ more, s)

end Running

/-- The counts of a pass. -/
structure PassSummary where
  domains : Nat
  problems : Nat
  runs : Nat
  /-- The runs whose program could not be launched. -/
  failedRuns : Nat
  /-- The runs that completed without a plan. -/
  emptyPlans : Nat
  deriving DecidableEq, Repr

/-- A pass that has been run. -/
structure Pass where
  /-- The number of corpora. -/
  domains : Nat
  trials : List Trial
  deriving DecidableEq, Repr

namespace Pass

/-- Runs both solvers on the problems of all corpora. -/
def ofCorpora {σ : Type} (invoke : Call → σ → Invocation × σ) (corpora : List Corpus) (s : σ) :
    Pass × σ :=
  let (trials, s) := trialsOf invoke corpora s
  (⟨corpora.length, trials⟩, s)

/-- The rows of the table. -/
def rows (pass : Pass) : List Row := pass.trials.map Trial.row

/-- All runs in their order. -/
def runs (pass : Pass) : List Run := pass.trials.flatMap Trial.runs

/-- The counts of the pass. -/
def summary (pass : Pass) : PassSummary where
  domains := pass.domains
  problems := pass.trials.length
  runs := pass.trials.length * Solver.all.length
  failedRuns := pass.runs.countP Run.isFailed
  emptyPlans := pass.runs.countP Run.isEmpty

end Pass

end PlannerTrials
