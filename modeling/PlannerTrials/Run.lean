import PlannerTrials.Number.Double
import PlannerTrials.Plan
import PlannerTrials.Solver

/-!
# Runs of a solver

An `Invocation` is what is seen of one run from outside: how long it took, the two outputs, and either
the exit code or the reason why the program could not be launched.  A `Run` is what the comparison
keeps of it.

A run has failed only if its program could not be launched.  A program that ran has completed,
whatever its exit code was, and its makespan is the one that its output shows.  What is printed counts
only then: a run that has failed has no makespan, even if something comes with it as its output.
-/

namespace PlannerTrials

/-- A span of time in whole seconds and nanoseconds. -/
structure Elapsed where
  seconds : Nat
  nanos : Nat
  deriving DecidableEq, Repr

namespace Elapsed

/-- The nanoseconds of a second. -/
def nanosPerSecond : Nat := 1000000000

/-- No time at all. -/
def none : Elapsed := ⟨0, 0⟩

/-- A span with whole seconds carried over from the nanoseconds. -/
def ofParts (seconds nanos : Nat) : Elapsed :=
  ⟨seconds + nanos / nanosPerSecond, nanos % nanosPerSecond⟩

/-- The span in nanoseconds. -/
def inNanos (e : Elapsed) : Nat := e.seconds * nanosPerSecond + e.nanos

/-- The span between two readings of a clock. -/
def since (later earlier : Elapsed) : Elapsed := ofParts 0 (later.inNanos - earlier.inNanos)

/-- The span in seconds. -/
def inSeconds (e : Elapsed) : Double :=
  Double.ofNat e.seconds + (Double.ofNat e.nanos).dividedBy nanosPerSecond

/-- The span in seconds, to the millisecond. -/
def rounded (e : Elapsed) : Double := e.inSeconds.roundMillis

end Elapsed

/-- How an attempt to run a solver ended. -/
inductive Outcome where
  /-- The program ran; a program that was killed has no exit code. -/
  | exited (code : Option Int)
  /-- The program could not be launched. -/
  | notLaunched (reason : String)
  deriving DecidableEq, Repr

/-- An attempt to run a solver. -/
structure Invocation where
  elapsed : Elapsed
  /-- What was printed. -/
  output : String
  /-- What was printed as errors. -/
  errors : String
  outcome : Outcome
  deriving DecidableEq, Repr

namespace Invocation

/-- The invocation of a program that ran. -/
def exited (elapsed : Elapsed) (output errors : String) (code : Option Int) : Invocation :=
  ⟨elapsed, output, errors, .exited code⟩

/-- The invocation of a program that could not be launched, and so printed nothing. -/
def notLaunched (elapsed : Elapsed) (reason : String) : Invocation :=
  ⟨elapsed, "", "", .notLaunched reason⟩

/-- Whether the program ran. -/
def launched (i : Invocation) : Bool :=
  match i.outcome with
  | .exited _ => true
  | .notLaunched _ => false

end Invocation

/-- Whether the program of a run could be launched. -/
inductive RunStatus where
  | completed
  | failed
  deriving DecidableEq, Repr

/-- What is kept of a run. -/
structure Run where
  elapsed : Elapsed
  makespan : Nat
  status : RunStatus
  deriving DecidableEq, Repr

namespace Run

/-- What is kept of an invocation. -/
def ofInvocation (i : Invocation) : Run :=
  match i.outcome with
  | .exited _ => ⟨i.elapsed, Plan.makespan i.output.toList, .completed⟩
  | .notLaunched _ => ⟨i.elapsed, 0, .failed⟩

/-- Whether the program could not be launched. -/
def isFailed (r : Run) : Bool := r.status = .failed

/-- Whether the program ran and its output shows no plan. -/
def isEmpty (r : Run) : Bool := r.status = .completed && r.makespan = 0

/-- The time of the run in seconds, to the millisecond. -/
def time (r : Run) : Double := r.elapsed.rounded

end Run

end PlannerTrials
