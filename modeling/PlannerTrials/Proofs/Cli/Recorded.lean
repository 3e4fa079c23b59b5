import PlannerTrials.Proofs.Cli.Command

/-!
# Commands in recorded surroundings

A command ends with something said, an exit code and a state, and none of these shows which solvers it
has launched and which files it has written.  So it is carried out in recorded surroundings, in which
every world of a pass keeps a record (`World.recorded`), and the record is part of the state that it
leaves.  `records_runCommand` says that this changes nothing else: the same is said, the exit
code is the same, and the state is the same without its record.
-/

namespace PlannerTrials.Cli

open Files (Disk)

/-- A disk beside something that it does not touch. -/
def besideDisk {σ τ : Type} (disk : Disk σ) : Disk (σ × τ) where
  read path s := disk.read path s.1
  makeFolders path s := ((disk.makeFolders path s.1).1, (disk.makeFolders path s.1).2, s.2)
  write path content s := ((disk.write path content s.1).1, (disk.write path content s.1).2, s.2)
  rename source target s :=
    ((disk.rename source target s.1).1, (disk.rename source target s.1).2, s.2)

/-- Surroundings in which every pass records what it does. -/
def Surroundings.recorded {σ : Type} (around : Surroundings σ) : Surroundings (σ × List Effect) where
  disk := besideDisk around.disk
  world config := (around.world config).recorded
  complaint := around.complaint

/-- A command that was recorded ends like the command itself. -/
structure Ended.Records {σ : Type} (recorded : Ended (σ × List Effect)) (plain : Ended σ) :
    Prop where
  said : recorded.said = plain.said
  exitCode : recorded.exitCode = plain.exitCode
  state : recorded.state.1 = plain.state

theorem Ended.Records.preceded {σ : Type} {recorded : Ended (σ × List Effect)} {plain : Ended σ}
    (h : recorded.Records plain) (before : List Said) :
    (recorded.preceded before).Records (plain.preceded before) where
  said := congrArg (before ++ ·) h.said
  exitCode := h.exitCode
  state := h.state

section Commands

variable {σ : Type} (around : Surroundings σ)

theorem records_dryRun (config : Config) (s : σ) (trace : List Effect) :
    (dryRun around.recorded config (s, trace)).Records (dryRun around config s) := by
  have hlocated : Corpus.locateAll config ((around.recorded.world config).view (s, trace)) =
      Corpus.locateAll config ((around.world config).view s) := rfl
  cases hlocate : Corpus.locateAll config ((around.world config).view s) with
  | error failure =>
    rw [dryRun_of_locateAll_error _ hlocate,
      dryRun_of_locateAll_error _ (hlocated.trans hlocate)]
    exact ⟨rfl, rfl, rfl⟩
  | ok corpora =>
    rw [dryRun_of_locateAll_ok _ hlocate, dryRun_of_locateAll_ok _ (hlocated.trans hlocate)]
    exact ⟨rfl, rfl, rfl⟩

theorem records_realRun (config : Config) (s : σ) (trace : List Effect) :
    (realRun around.recorded config (s, trace)).Records (realRun around config s) := by
  have hperform : ∀ world : World σ, (Pass.perform world.recorded config (s, trace)).result =
        (Pass.perform world config s).result ∧
      (Pass.perform world.recorded config (s, trace)).state.1 = (Pass.perform world config s).state :=
    fun world => Pass.recorded_perform world trace
  have hevents : ∀ world : World σ, (Pass.perform world.recorded config (s, trace)).events =
      (Pass.perform world config s).events := fun world => Pass.events_recorded_perform world trace
  have hworld : around.recorded.world config = (around.world config).recorded := rfl
  unfold realRun
  simp only [hworld, hperform, hevents]
  cases (Pass.perform (around.world config) config s).result with
  | error failure => exact ⟨rfl, rfl, (hperform _).2⟩
  | ok pass => exact ⟨rfl, rfl, (hperform _).2⟩

theorem records_runConfig (config : Config) (dry : Bool) (s : σ) (trace : List Effect) :
    (runConfig around.recorded config dry (s, trace)).Records (runConfig around config dry s) := by
  cases hvalid : config.validate with
  | error failure =>
    rw [runConfig_of_validate_error _ hvalid, runConfig_of_validate_error _ hvalid]
    exact ⟨rfl, rfl, rfl⟩
  | ok _ =>
    rw [runConfig_of_validate_ok _ hvalid, runConfig_of_validate_ok _ hvalid]
    cases dry with
    | false => exact (records_realRun around config s trace).preceded _
    | true => exact (records_dryRun around config s trace).preceded _

/-- **Recording a command changes nothing.** -/
theorem records_runCommand (env : Environment) (path : String) (output : Option String)
    (dry : Bool) (s : σ) (trace : List Effect) :
    (runCommand around.recorded env path output dry (s, trace)).Records
      (runCommand around env path output dry s) := by
  have hread : Config.ofFile around.recorded.complaint env
      (around.recorded.disk.read path (s, trace)) =
        Config.ofFile around.complaint env (around.disk.read path s) := rfl
  cases hfile : Config.ofFile around.complaint env (around.disk.read path s) with
  | error failure =>
    rw [runCommand_of_ofFile_error _ hfile, runCommand_of_ofFile_error _ (hread.trans hfile)]
    exact ⟨rfl, rfl, rfl⟩
  | ok config =>
    rw [runCommand_of_ofFile_ok _ hfile, runCommand_of_ofFile_ok _ (hread.trans hfile)]
    exact (records_runConfig around (override output config) dry s trace).preceded _

end Commands

end PlannerTrials.Cli
