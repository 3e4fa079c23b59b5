import PlannerTrials.Corpus.Locate
import PlannerTrials.Pass.Events
import PlannerTrials.Storage

/-!
# Performing a whole pass

Every domain is located before anything is run, so a broken corpus stops the pass before a solver is
launched.  Then all trials are run, and only after the last one the table is written, once and as a
whole.  Nothing that a solver does can stop a pass.
-/

namespace PlannerTrials

/-- What a pass needs of the world: to look at files, to run solvers, to store a table and to know
the time. -/
structure World (σ : Type) where
  view : σ → Files.FileView
  invoker : Invoker σ
  storage : Storage σ
  clock : σ → Elapsed

/-- What came of a pass: its result, the events, and the state of the world. -/
structure Performed (σ : Type) where
  result : Except Failure Pass
  events : List Event
  state : σ

namespace Pass

/-- What is told of a number of corpora. -/
def selectionEvent (corpora : List Corpus) : Event :=
  ⟨.pass, .info, "Selected " ++ toString (corpora.flatMap fun c => c.problems).length ++
    " problem(s) across " ++ toString corpora.length ++ " domain(s)"⟩

/-- What is told before the file of the table is written. -/
def writingEvent (pass : Pass) (content : Bytes) (path : String) : Event :=
  ⟨.table, .debug, "Writing " ++ toString pass.rows.length ++ " rows (" ++
    toString content.length ++ " bytes) to " ++ path⟩

/-- What is told when the table is written. -/
def closingEvents (pass : Pass) (wallTime : Elapsed) (path : String) : List Event :=
  let summary := pass.summary
  [⟨.pass, .info, "📊 " ++ toString summary.problems ++ " row(s), " ++ toString summary.runs ++
      " run(s), " ++ toString summary.failedRuns ++ " launch failure(s), " ++
      toString summary.emptyPlans ++ " empty plan(s), wall time " ++
      millisText wallTime.inSeconds ++ "s"⟩,
    ⟨.pass, .info, "📁 Results saved to: " ++ path⟩]

/-- What is told when a pass begins. -/
def openingEvent : Event := ⟨.pass, .info, "🚀 Starting benchmark pass"⟩

variable {σ : Type}

/-- Locates all domains and runs all trials. -/
def drive (world : World σ) (config : Config) (s : σ) : Performed σ :=
  let located := Corpus.locateAllEvents config (world.view s)
  match Corpus.locateAll config (world.view s) with
  | .error failure => ⟨.error failure, located, s⟩
  | .ok corpora =>
    let (pass, s) := ofCorpora world.invoker.invoke corpora s
    ⟨.ok pass, located ++ pass.events world.invoker.announce, s⟩

/-- Locates all domains, runs all trials and writes the table. -/
def perform (world : World σ) (config : Config) (s : σ) : Performed σ :=
  let located := openingEvent :: Corpus.locateAllEvents config (world.view s)
  match Corpus.locateAll config (world.view s) with
  | .error failure => ⟨.error failure, located, s⟩
  | .ok corpora =>
    let (pass, ran) := ofCorpora world.invoker.invoke corpora s
    let wallTime := (world.clock ran).since (world.clock s)
    let told := located ++ selectionEvent corpora :: pass.events world.invoker.announce
    match Table.file pass.rows with
    | .error failure => ⟨.error failure, told, ran⟩
    | .ok content =>
      let told := told ++ [pass.writingEvent content config.outputPath]
      match world.storage.write config.outputPath content ran with
      | (.error failure, written) => ⟨.error failure, told, written⟩
      | (.ok (), written) =>
        ⟨.ok pass, told ++ pass.closingEvents wallTime config.outputPath, written⟩

end Pass

end PlannerTrials
