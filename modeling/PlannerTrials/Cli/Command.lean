import PlannerTrials.Cli.Arguments
import PlannerTrials.Config.Reference
import PlannerTrials.Config.Validation
import PlannerTrials.Log.Filter
import PlannerTrials.Log.Lines
import PlannerTrials.Pass.Perform
import PlannerTrials.Report.Document
import PlannerTrials.Report.Text
import PlannerTrials.Table.Read

/-!
# The commands

`run` reads a configuration, checks it and performs a pass, or only shows what a pass would run.
`report` reads a result table and shows its report.  What a command says, events and text in one
sequence, is its result together with an exit code; showing it is a matter of the filter and the form of
the log.

A command ends with 0, with 1 for a failure that came before any result could be lost, and with 3
for a failure that may have cost results.
-/

namespace PlannerTrials.Cli

open Files (Disk)

/-- Something that a command says. -/
inductive Said where
  | event (event : Event)
  | output (text : String)
  | errors (text : String)
  deriving DecidableEq, Repr

/-- What came of a command. -/
structure Ended (σ : Type) where
  said : List Said
  exitCode : Nat
  state : σ

/-- What the commands need of the world: its disk, and what a pass needs under a configuration. -/
structure Surroundings (σ : Type) where
  disk : Disk σ
  world : Config → World σ
  /-- What is told of a document that describes no configuration. -/
  complaint : String → String

/-- The exit code for a failure. -/
def exitCodeOf (failure : Failure) : Nat :=
  match failure.severity with
  | .high => 1
  | .critical => 3

/-- What is said of a failure. -/
def failureSaid (failure : Failure) : List Said :=
  [.event ⟨.command, .error, "❌ Benchmark failed: " ++ failure.message ++ " (Category: " ++
      failure.category.name ++ ", Severity: " ++ failure.severity.name ++ ")"⟩,
    .errors ("❌ " ++ failure.friendly ++ "\n💡 Suggestion: " ++ failure.suggestion ++ "\n")]

/-- An event on level `INFO`. -/
def info (message : String) : Said := .event ⟨.command, .info, message⟩

/-- The line of the summary for a solver. -/
def solverLine (config : Config) (solver : Solver) : String :=
  match config.spec? solver with
  | none => ""
  | some spec =>
    "  " ++ solver.name ++ ": " ++ spec.program ++ " " ++ " ".intercalate spec.arguments ++ "\n"

/-- The summary of a configuration. -/
def configSummary (config : Config) (dryRun : Bool) : String :=
  "📋 Configuration Summary:\n  Benchmarks: " ++ config.benchmarksFolder ++ "\n  Domains: " ++
    ", ".intercalate config.domains ++ "\n  Sample size: " ++ toString config.sampleSize ++ "\n" ++
    String.join (Solver.all.map (solverLine config)) ++ "  Output: " ++ config.outputPath ++ "\n" ++
    (if dryRun then "  🔍 DRY RUN MODE ENABLED\n" else "") ++ "\n"

/-- What a dry run shows of a corpus. -/
def corpusListing (corpus : Corpus) : String :=
  corpus.domain ++ " (" ++ corpus.description ++ ")\n" ++
    String.join (corpus.problems.map fun problem => "  " ++ problem.path ++ "\n")

section Commands

variable {σ : Type} (around : Surroundings σ)

/-- Shows what a pass under a checked configuration would run. -/
def dryRun (config : Config) (s : σ) : Ended σ :=
  let view := (around.world config).view s
  let told :=
    info "🔍 DRY RUN MODE - No solver will be launched" ::
      (Corpus.locateAllEvents config view).map Said.event
  match Corpus.locateAll config view with
  | .error failure => ⟨told ++ failureSaid failure, exitCodeOf failure, s⟩
  | .ok corpora => ⟨told ++ [.output (String.join (corpora.map corpusListing))], 0, s⟩

/-- Performs a pass under a checked configuration. -/
def realRun (config : Config) (s : σ) : Ended σ :=
  let done := Pass.perform (around.world config) config s
  let told := done.events.map Said.event
  match done.result with
  | .error failure => ⟨told ++ failureSaid failure, exitCodeOf failure, done.state⟩
  | .ok pass =>
    ⟨told ++ [.output ("✅ Benchmark completed: " ++ toString pass.rows.length ++
        " row(s)\n📁 Output saved to: " ++ config.outputPath ++ "\n")], 0, done.state⟩

/-- Checks a configuration and runs it. -/
def runConfig (config : Config) (dry : Bool) (s : σ) : Ended σ :=
  match config.validate with
  | .error failure => ⟨failureSaid failure, exitCodeOf failure, s⟩
  | .ok () =>
    let ended := if dry then dryRun around config s else realRun around config s
    let accepted :=
      [info "✅ Configuration loaded and validated successfully",
        .output (configSummary config dry)]
    { ended with said := accepted ++ ended.said }

/-- What is said when the output path is given on the command line. -/
def overrideSaid (output : Option String) : List Said :=
  match output with
  | none => []
  | some path => [info ("🔧 Output path overridden to: " ++ path)]

/-- A configuration with the output path of the command line. -/
def override (output : Option String) (config : Config) : Config :=
  match output with
  | none => config
  | some path => { config with outputPath := path }

/-- The command `run`. -/
def runCommand (env : Environment) (path : String) (output : Option String) (dry : Bool) (s : σ) :
    Ended σ :=
  let loading := info ("📁 Loading configuration from: " ++ path)
  match Config.ofFile around.complaint env (around.disk.read path s) with
  | .error failure =>
    ⟨[loading, .errors ("❌ Failed to load config file '" ++ path ++ "': " ++ failure.message ++
      "\n💡 Make sure the file exists and is valid TOML format\n")], 1, s⟩
  | .ok config =>
    let ended := runConfig around (override output config) dry s
    { ended with said := loading :: overrideSaid output ++ ended.said }

/-- What is said of a table that cannot be read. -/
def reportFailureSaid (path : String) (failure : Failure) : Said :=
  let causes :=
    match failure.source? with
    | some source => "    0: " ++ failure.message ++ "\n    1: " ++ source ++ "\n"
    | none => "    " ++ failure.message ++ "\n"
  .errors ("Error: reading " ++ path ++ "\n\nCaused by:\n" ++ causes)

/-- The command `report`; `time` is when it is made. -/
def reportCommand (time : String) (path : String) (json : Bool) (s : σ) : Ended σ :=
  let storage := Storage.onDisk around.disk Storage.here
  match (storage.read path s).bind Table.read with
  | .error failure => ⟨[reportFailureSaid path failure], 1, s⟩
  | .ok records =>
    let report := Report.ofRecords time path records
    let text := if json then report.documentText ++ "\n" else report.text ++ report.chartLines
    ⟨[.output text], 0, s⟩

/-- Carries out a command. -/
def execute (env : Environment) (time : String) (command : Command) (s : σ) : Ended σ :=
  match command with
  | .run config output dry => runCommand around env config output dry s
  | .report input json => reportCommand around time input json s

end Commands

/-! ## Showing -/

/-- How events are shown. -/
structure Form where
  filter : LogFilter
  asDocuments : Bool
  coloured : Bool
  time : String

/-- The form that the arguments and the environment ask for.  Colours are only left out where the
environment says so with a text that is not empty. -/
def formOf (env : Environment) (time : String) (arguments : Arguments) : Form where
  filter := LogFilter.choose (env "RUST_LOG") arguments.verbose
  asDocuments := arguments.jsonLogs
  coloured := ((env "NO_COLOR").getD "").isEmpty
  time := time

/-- What is shown on the first output. -/
def Said.outputText (form : Form) : Said → String
  | .event e =>
    if form.filter.passes e then
      if form.asDocuments then e.documentLine form.time else e.textLine form.coloured form.time
    else ""
  | .output t => t
  | .errors _ => ""

/-- What is shown on the second output. -/
def Said.errorText : Said → String
  | .errors t => t
  | _ => ""

end PlannerTrials.Cli
