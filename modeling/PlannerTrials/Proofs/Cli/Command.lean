import PlannerTrials.Cli.Command
import PlannerTrials.Proofs.Pass.Effects

/-!
# The ways through the command for a pass

The command `run` takes a few decisions one after the other: whether the file is a configuration, whether this
is usable, and whether all domains are located.  For each decision there is one equation, which says how the
command goes on, so that nothing below has to unfold it.  What is said on the way is put before what
is said later (`Ended.preceded`).

Only the last step differs between a dry run and a real one.  A dry run changes nothing on any way
(`state_dryRun`), and a real run whose domains are located ends with what comes of writing the table
(`realRun_of_locateAll_ok`).
-/

namespace PlannerTrials.Cli

/-- What came of a command that has said something before. -/
def Ended.preceded {σ : Type} (before : List Said) (ended : Ended σ) : Ended σ :=
  { ended with said := before ++ ended.said }

/-! ## Exit codes -/

/-- The exit code tells whether the failure has shown before anything was run. -/
theorem exitCodeOf_eq (failure : Failure) :
    exitCodeOf failure = if failure.isConfigurationError then 1 else 3 := by
  unfold exitCodeOf Failure.severity Failure.isConfigurationError
  cases failure.category with
  | configuration => rfl
  | corpus => rfl
  | output => rfl

theorem exitCodeOf_eq_one {failure : Failure} (h : failure.isConfigurationError = true) :
    exitCodeOf failure = 1 := by
  rw [exitCodeOf_eq, if_pos h]

theorem exitCodeOf_eq_three {failure : Failure} (h : failure.isConfigurationError = false) :
    exitCodeOf failure = 3 := by
  rw [exitCodeOf_eq, h, if_neg Bool.false_ne_true]

section Commands

variable {σ : Type} (around : Surroundings σ) {config : Config} {s : σ}

/-! ## Dry runs -/

theorem dryRun_of_locateAll_error {failure : Failure}
    (h : Corpus.locateAll config ((around.world config).view s) = .error failure) :
    dryRun around config s = Ended.preceded
      (info "🔍 DRY RUN MODE - No solver will be launched" ::
        (Corpus.locateAllEvents config ((around.world config).view s)).map Said.event)
      ⟨failureSaid failure, exitCodeOf failure, s⟩ := by
  unfold dryRun
  simp only [h]
  rfl

theorem dryRun_of_locateAll_ok {corpora : List Corpus}
    (h : Corpus.locateAll config ((around.world config).view s) = .ok corpora) :
    dryRun around config s = Ended.preceded
      (info "🔍 DRY RUN MODE - No solver will be launched" ::
        (Corpus.locateAllEvents config ((around.world config).view s)).map Said.event)
      ⟨[.output (String.join (corpora.map corpusListing))], 0, s⟩ := by
  unfold dryRun
  simp only [h]
  rfl

/-- A dry run leaves everything as it is. -/
theorem state_dryRun (config : Config) (s : σ) : (dryRun around config s).state = s := by
  cases hlocate : Corpus.locateAll config ((around.world config).view s) with
  | error failure =>
    rw [dryRun_of_locateAll_error around hlocate]
    rfl
  | ok corpora =>
    rw [dryRun_of_locateAll_ok around hlocate]
    rfl

/-! ## Real runs -/

theorem realRun_of_locateAll_error {failure : Failure}
    (h : Corpus.locateAll config ((around.world config).view s) = .error failure) :
    realRun around config s = Ended.preceded
      ((Pass.openingEvent :: Corpus.locateAllEvents config ((around.world config).view s)).map
        Said.event)
      ⟨failureSaid failure, exitCodeOf failure, s⟩ := by
  unfold realRun
  simp only [Pass.perform_of_locateAll_error _ h]
  rfl

/-- What comes of the write is what the real run ends with. -/
theorem realRun_of_locateAll_ok {corpora : List Corpus}
    (h : Corpus.locateAll config ((around.world config).view s) = .ok corpora) :
    let wrote := Pass.runAndWrite (around.world config) config corpora s
    (realRun around config s).state = wrote.2 ∧
      (realRun around config s).exitCode =
        match wrote.1 with
        | .ok _ => 0
        | .error failure => exitCodeOf failure := by
  intro wrote
  obtain ⟨hresult, hstate⟩ := Pass.perform_of_locateAll_ok _ h
  have hwrote : Pass.runAndWrite (around.world config) config corpora s = wrote := rfl
  rw [hwrote] at hresult hstate
  unfold realRun
  cases hcase : wrote.1 with
  | error failure =>
    rw [hcase] at hresult
    simp only [hresult, Except.map, and_true]
    exact hstate
  | ok done =>
    rw [hcase] at hresult
    simp only [hresult, Except.map, and_true]
    exact hstate

/-! ## The decisions before -/

theorem runConfig_of_validate_error {failure : Failure} (h : config.validate = .error failure)
    (dry : Bool) :
    runConfig around config dry s = ⟨failureSaid failure, exitCodeOf failure, s⟩ := by
  unfold runConfig
  rw [h]

theorem runConfig_of_validate_ok (h : config.validate = .ok ()) (dry : Bool) :
    runConfig around config dry s = Ended.preceded
      [info "✅ Configuration loaded and validated successfully",
        .output (configSummary config dry)]
      (if dry then dryRun around config s else realRun around config s) := by
  unfold runConfig
  rw [h]
  rfl

variable {env : Environment} {path : String}

theorem runCommand_of_ofFile_error {failure : Failure}
    (h : Config.ofFile around.complaint env (around.disk.read path s) = .error failure)
    (output : Option String) (dry : Bool) :
    runCommand around env path output dry s = Ended.preceded
      [info ("📁 Loading configuration from: " ++ path)]
      ⟨[.errors ("❌ Failed to load config file '" ++ path ++ "': " ++ failure.message ++
        "\n💡 Make sure the file exists and is valid TOML format\n")], 1, s⟩ := by
  unfold runCommand
  rw [h]
  rfl

theorem runCommand_of_ofFile_ok
    (h : Config.ofFile around.complaint env (around.disk.read path s) = .ok config)
    (output : Option String) (dry : Bool) :
    runCommand around env path output dry s = Ended.preceded
      (info ("📁 Loading configuration from: " ++ path) :: overrideSaid output)
      (runConfig around (override output config) dry s) := by
  unfold runCommand
  rw [h]
  rfl

end Commands

end PlannerTrials.Cli
