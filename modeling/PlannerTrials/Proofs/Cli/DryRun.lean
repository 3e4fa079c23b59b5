import PlannerTrials.Proofs.Cli.Recorded
import PlannerTrials.Proofs.Config.Validation
import PlannerTrials.Proofs.Corpus.Selection
import PlannerTrials.Proofs.Pass.Enumeration
import PlannerTrials.Proofs.Pass.Keys
import Mathlib

/-!
# A dry run predicts the real run

The command `run` goes the same way with and without the option for a dry run, up to the point where the
corpora are known: it reads the configuration, puts the output path of the command line into it,
checks it and locates all domains.  There a dry run shows the corpora and is done, and a real one launches the
solvers and writes the table.

So there are two ways in which both can go.  If something is wrong with the configuration or with the
benchmark files then both refuse, and neither has done anything (`BothRefuse`).  Otherwise the dry run
succeeds, and what it has shown is what the table of the real run is about, row by row (`Foretells`);
what the solvers answer, and whether they can be launched at all, decides only what the rows hold of their
runs.  `dry_run_predicts` says that the exit code of the dry run tells which of the two it is.

What a dry run shows is a text.  `Lists` says which problems the lines of a text list, each one by its domain
and its path: a problem stands on a line of its own below the line of its domain.
-/

namespace PlannerTrials

/-- The problems of a corpus as they are listed: each one by its domain and its path. -/
def Corpus.entries (corpus : Corpus) : List (String × String) :=
  corpus.problems.map fun problem => (corpus.domain, problem.path)

namespace Cli

/-! ## Lines and listed problems -/

/-- Lines list problems, each one by its domain and its path.  A domain has a line with its name and its
description, and below it stands a line with the path of each of its problems. -/
inductive Lists (describe : String → String) : List String → List (String × String) → Prop where
  | nil : Lists describe [] []
  | domain {lines : List String} {entries : List (String × String)} (domain : String)
      (paths : List String) : Lists describe lines entries →
      Lists describe
        ((domain ++ " (" ++ describe domain ++ ")\n") ::
          (paths.map fun path => "  " ++ path ++ "\n") ++ lines)
        ((paths.map fun path => (domain, path)) ++ entries)

/-- What a dry run shows of corpora lists their problems. -/
theorem exists_lists_corpusListing {describe : String → String} {corpora : List Corpus}
    (h : ∀ corpus ∈ corpora, corpus.description = describe corpus.domain) :
    ∃ lines, String.join (corpora.map corpusListing) = String.join lines ∧
      Lists describe lines (corpora.flatMap Corpus.entries) := by
  induction corpora with
  | nil => exact ⟨[], rfl, .nil⟩
  | cons corpus corpora ih =>
    obtain ⟨hdescription, hrest⟩ := List.forall_mem_cons.mp h
    obtain ⟨lines, htext, hlists⟩ := ih hrest
    have hentries : corpus.entries =
        (corpus.problems.map Problem.path).map fun path => (corpus.domain, path) := by
      rw [List.map_map]
      rfl
    have hpaths : (corpus.problems.map fun problem => "  " ++ problem.path ++ "\n") =
        (corpus.problems.map Problem.path).map fun path => "  " ++ path ++ "\n" := by
      rw [List.map_map]
      rfl
    have hall := Lists.domain corpus.domain (corpus.problems.map Problem.path) hlists
    rw [← hentries, ← hpaths] at hall
    refine ⟨_, ?_, hall⟩
    rw [List.map_cons, String.join_cons, htext, corpusListing, hdescription, List.cons_append,
      String.join_cons, String.join_append, String.append_assoc]

/-! ## Complaints -/

/-- Whether something is said because of a failure. -/
def Said.isComplaint : Said → Bool
  | .event e => e.level = .error
  | .output _ => false
  | .errors _ => true

/-- What a command has said because of a failure. -/
def Ended.complaints {σ : Type} (ended : Ended σ) : List Said :=
  ended.said.filter Said.isComplaint

theorem complaints_preceded {σ : Type} {before : List Said} (ended : Ended σ)
    (h : ∀ said ∈ before, said.isComplaint = false) :
    (ended.preceded before).complaints = ended.complaints := by
  have hnone : before.filter Said.isComplaint = [] :=
    List.filter_eq_nil_iff.mpr fun said hsaid => by rw [h said hsaid]; exact Bool.false_ne_true
  show (before ++ ended.said).filter Said.isComplaint = _
  rw [List.filter_append, hnone, List.nil_append]
  rfl

/-- What is said before does not change what is said at last. -/
theorem getLast?_said_preceded {σ : Type} {ended : Ended σ} {said : Said}
    (h : ended.said.getLast? = some said) (before : List Said) :
    (ended.preceded before).said.getLast? = some said := by
  show (before ++ ended.said).getLast? = some said
  rw [List.getLast?_append, h]
  rfl

/-- Events are no complaints if none of them is on the level of errors. -/
theorem isComplaint_of_mem_map_event {events : List Event}
    (h : ∀ event ∈ events, event.level ≠ .error) :
    ∀ said ∈ events.map Said.event, said.isComplaint = false := by
  intro said hsaid
  obtain ⟨event, hevent, rfl⟩ := List.mem_map.mp hsaid
  exact decide_eq_false (h event hevent)

/-! ## The two ways of both runs -/

section Ways

variable {σ : Type}

/-- Both runs refuse, for the same reason, and neither has done anything. -/
structure BothRefuse (s : σ) (dry real : Ended (σ × List Effect)) : Prop where
  exitCode_dry : dry.exitCode = 1
  exitCode_real : real.exitCode = 1
  state_dry : dry.state = (s, [])
  state_real : real.state = (s, [])
  complaints : dry.complaints = real.complaints
  complaints_ne_nil : dry.complaints ≠ []

/-- A row of a table is about a problem that was listed. -/
structure IsRowOf (view : Files.FileView) (entry : String × String) (row : Row) : Prop where
  domain : row.domain = entry.1
  problem : row.problem = (Path.fileName? entry.2).getD ""
  /-- The path has a last name if folders list what folders can hold. -/
  fileName : view.Proper → Path.fileName? entry.2 = some row.problem

/-- The dry run has done nothing and lists the problems of corpora; besides this it has printed nothing but
the summary of the configuration.  The real run launches the solvers on these problems and then attempts to
write the table, which has a row for each listed problem, and it succeeds if and only if this write does. -/
structure Foretells (view : Files.FileView) (config : Config) (corpora : List Corpus) (s : σ)
    (dry real : Ended (σ × List Effect)) : Prop where
  exitCode_dry : dry.exitCode = 0
  state_dry : dry.state = (s, [])
  shown : ∃ before lines, dry.said = before ++ [.output (String.join lines)] ∧
    (∀ text, .output text ∈ before → text = configSummary config true) ∧
    Lists (Corpus.descriptionOf config) lines (corpora.flatMap Corpus.entries)
  done : ∃ (trials : List Trial) (result : Except Failure Unit),
    real.state.2 = trials.flatMap Trial.effects ++
      [.wrote config.outputPath (Table.encode (trials.map Trial.row)) result] ∧
    List.Forall₂ (IsRowOf view) (corpora.flatMap Corpus.entries) (trials.map Trial.row) ∧
    (real.exitCode = 0 ∧ result = .ok () ∨ real.exitCode = 3 ∧ ∃ failure, result = .error failure)

theorem bothRefuse_of_failure {s : σ} {failure : Failure}
    (h : failure.isConfigurationError = true) :
    BothRefuse s ⟨failureSaid failure, exitCodeOf failure, (s, [])⟩
      ⟨failureSaid failure, exitCodeOf failure, (s, [])⟩ where
  exitCode_dry := exitCodeOf_eq_one h
  exitCode_real := exitCodeOf_eq_one h
  state_dry := rfl
  state_real := rfl
  complaints := rfl
  complaints_ne_nil := List.cons_ne_nil _ _

theorem BothRefuse.preceded {s : σ} {dry real : Ended (σ × List Effect)} (h : BothRefuse s dry real)
    {before before' : List Said} (hbefore : ∀ said ∈ before, said.isComplaint = false)
    (hbefore' : ∀ said ∈ before', said.isComplaint = false) :
    BothRefuse s (dry.preceded before) (real.preceded before') where
  exitCode_dry := h.exitCode_dry
  exitCode_real := h.exitCode_real
  state_dry := h.state_dry
  state_real := h.state_real
  complaints := by rw [complaints_preceded _ hbefore, complaints_preceded _ hbefore', h.complaints]
  complaints_ne_nil := by rw [complaints_preceded _ hbefore]; exact h.complaints_ne_nil

theorem Foretells.preceded {view : Files.FileView} {config : Config} {corpora : List Corpus} {s : σ}
    {dry real : Ended (σ × List Effect)} (h : Foretells view config corpora s dry real)
    {before : List Said} (hbefore : ∀ text, .output text ∈ before → text = configSummary config true)
    (before' : List Said) :
    Foretells view config corpora s (dry.preceded before) (real.preceded before') where
  exitCode_dry := h.exitCode_dry
  state_dry := h.state_dry
  shown := by
    obtain ⟨said, lines, hsaid, honly, hlists⟩ := h.shown
    refine ⟨before ++ said, lines, ?_, fun text htext => ?_, hlists⟩
    · rw [Ended.preceded, hsaid, List.append_assoc]
    · exact (List.mem_append.mp htext).elim (hbefore text) (honly text)
  done := h.done

end Ways

/-! ## Rows and listed problems -/

/-- **There is a row for each listed problem**, in the same order. -/
theorem forall₂_isRowOf {config : Config} {view : Files.FileView} {corpora : List Corpus}
    {trials : List Trial} (hlocate : Corpus.locateAll config view = .ok corpora)
    (hsubjects : trials.map Trial.subject = corpora.flatMap Corpus.subjects) :
    List.Forall₂ (IsRowOf view) (corpora.flatMap Corpus.entries) (trials.map Trial.row) := by
  have hentries : corpora.flatMap Corpus.entries =
      trials.map fun trial => (trial.domain, trial.problem.path) := by
    have hsubject : ∀ corpus : Corpus, corpus.entries =
        corpus.subjects.map fun subject => (subject.1, subject.2.2.path) := fun corpus => by
      rw [Corpus.subjects, List.map_map]
      rfl
    rw [List.flatMap_congr fun corpus _ => hsubject corpus, ← List.map_flatMap, ← hsubjects,
      List.map_map]
    rfl
  rw [hentries, List.forall₂_map_left_iff, List.forall₂_map_right_iff, List.forall₂_same]
  intro trial htrial
  refine ⟨rfl, rfl, fun hview => ?_⟩
  have hsubject : trial.subject ∈ corpora.flatMap Corpus.subjects :=
    hsubjects ▸ List.mem_map_of_mem htrial
  obtain ⟨corpus, hcorpus, hmem⟩ := List.mem_flatMap.mp hsubject
  obtain ⟨problem, hproblem, heq⟩ := List.mem_map.mp hmem
  obtain ⟨domain, _, hdomain⟩ := Corpus.exists_locate_of_mem hlocate hcorpus
  have hname := Corpus.fileName?_of_locate hview hdomain hproblem
  have hsame : problem = trial.problem := congrArg (fun subject => subject.2.2) heq
  rw [hsame] at hname
  exact hname

/-! ## Both runs of a configuration -/

section Runs

variable {σ : Type} (around : Surroundings σ) {config : Config} {s : σ}

variable (hstorage : ∀ config, (around.world config).storage = Storage.onDisk around.disk Storage.here)

/-- Both runs refuse if a domain cannot be located. -/
theorem bothRefuse_of_locateAll_error {failure : Failure}
    (h : Corpus.locateAll config ((around.world config).view s) = .error failure) :
    BothRefuse s (dryRun around.recorded config (s, []))
      (realRun around.recorded config (s, [])) := by
  have hlocate : Corpus.locateAll config ((around.recorded.world config).view (s, [])) =
      .error failure := h
  have hevents : ∀ said ∈ (Corpus.locateAllEvents config ((around.world config).view s)).map
      Said.event, said.isComplaint = false :=
    isComplaint_of_mem_map_event fun event hevent =>
      Corpus.level_ne_error_of_mem_locateEventsFrom hevent
  rw [dryRun_of_locateAll_error _ hlocate, realRun_of_locateAll_error _ hlocate]
  refine (bothRefuse_of_failure (Corpus.isConfigurationError_of_locateAll h)).preceded ?_ ?_
  · exact List.forall_mem_cons.mpr ⟨rfl, hevents⟩
  · exact List.forall_mem_cons.mpr ⟨rfl, hevents⟩

include hstorage in
/-- The dry run foretells the real one if all domains are located. -/
theorem foretells_of_locateAll_ok {corpora : List Corpus}
    (h : Corpus.locateAll config ((around.world config).view s) = .ok corpora) :
    Foretells ((around.world config).view s) config corpora s
      (dryRun around.recorded config (s, [])) (realRun around.recorded config (s, [])) := by
  let world := around.world config
  let trials := (Pass.ofCorpora world.invoker.invoke corpora s).1.trials
  let result := (Pass.runAndWrite world config corpora s).1
  have hlocate : Corpus.locateAll config ((around.recorded.world config).view (s, [])) =
      .ok corpora := h
  have hwrote : Pass.runAndWrite world.recorded config corpora (s, []) =
      (result, (Pass.runAndWrite world config corpora s).2, trials.flatMap Trial.effects ++
        [.wrote config.outputPath (Table.encode (trials.map Trial.row)) result]) := by
    rw [Pass.runAndWrite, ofCorpora_recorded_eq]
    rfl
  obtain ⟨hstate, hcode⟩ := realRun_of_locateAll_ok around.recorded hlocate
  have hworld : around.recorded.world config = world.recorded := rfl
  rw [hworld, hwrote] at hstate hcode
  refine ⟨?_, ?_, ?_, trials, result, ?_, ?_, ?_⟩
  · rw [dryRun_of_locateAll_ok _ hlocate]
    rfl
  · exact state_dryRun _ _ _
  · obtain ⟨lines, htext, hlists⟩ := exists_lists_corpusListing
      (Corpus.description_of_mem_locateAll h)
    rw [dryRun_of_locateAll_ok _ hlocate, htext]
    exact ⟨_, lines, rfl, fun _ hprinted => absurd hprinted (by simp [info]), hlists⟩
  · rw [hstate]
  · exact forall₂_isRowOf h (map_subject_trialsOf world.invoker.invoke corpora s)
  · cases hresult : result with
    | ok done =>
      rw [hresult] at hcode
      exact .inl ⟨hcode, rfl⟩
    | error failure =>
      have hwrite : ((Storage.onDisk around.disk Storage.here).write config.outputPath
          (Table.encode (Pass.ofCorpora world.invoker.invoke corpora s).1.rows)
          (Pass.ofCorpora world.invoker.invoke corpora s).2).1 = .error failure := by
        rw [← hstorage config]
        exact hresult
      rw [hresult] at hcode
      exact .inr ⟨hcode.trans (exitCodeOf_eq_three
        (Storage.not_isConfigurationError_of_write_onDisk hwrite)), failure, rfl⟩

/-! ## The command -/

/-- What is said of an accepted configuration is no complaint. -/
theorem isComplaint_of_mem_accepted {message summary : String} :
    ∀ said ∈ [info message, .output summary], said.isComplaint = false := by
  simp [info, Said.isComplaint]

/-- All that is printed for an accepted configuration is its summary. -/
theorem eq_of_output_mem_accepted {message summary text : String}
    (h : .output text ∈ [info message, .output summary]) : text = summary := by
  simpa [info] using h

theorem isComplaint_of_mem_loading (message : String) (output : Option String) :
    ∀ said ∈ info message :: overrideSaid output, said.isComplaint = false := by
  cases output with
  | none => simp [info, overrideSaid, Said.isComplaint]
  | some path => simp [info, overrideSaid, Said.isComplaint]

/-- Nothing is printed while a configuration is loaded. -/
theorem output_not_mem_loading (message text : String) (output : Option String) :
    .output text ∉ info message :: overrideSaid output := by
  cases output with
  | none => simp [info, overrideSaid]
  | some path => simp [info, overrideSaid]

include hstorage in
/-- There are two ways for both runs of a configuration. -/
theorem runConfig_ways (config : Config) (s : σ) :
    let dry := runConfig around.recorded config true (s, [])
    let real := runConfig around.recorded config false (s, [])
    BothRefuse s dry real ∨ ∃ corpora, config.validate = .ok () ∧
      Corpus.locateAll config ((around.world config).view s) = .ok corpora ∧
      Foretells ((around.world config).view s) config corpora s dry real := by
  cases hvalid : config.validate with
  | error failure =>
    rw [runConfig_of_validate_error _ hvalid, runConfig_of_validate_error _ hvalid]
    exact .inl (bothRefuse_of_failure (Config.blamesConfiguration_validate config failure hvalid))
  | ok _ =>
    rw [runConfig_of_validate_ok _ hvalid, runConfig_of_validate_ok _ hvalid]
    cases hlocate : Corpus.locateAll config ((around.world config).view s) with
    | error failure =>
      exact .inl ((bothRefuse_of_locateAll_error around hlocate).preceded
        isComplaint_of_mem_accepted isComplaint_of_mem_accepted)
    | ok corpora =>
      exact .inr ⟨corpora, rfl, rfl,
        (foretells_of_locateAll_ok around hstorage hlocate).preceded
          (fun _ => eq_of_output_mem_accepted) _⟩

include hstorage in
/-- There are two ways for both runs of the command. -/
theorem runCommand_ways (env : Environment) (path : String) (output : Option String) (s : σ) :
    let dry := runCommand around.recorded env path output true (s, [])
    let real := runCommand around.recorded env path output false (s, [])
    BothRefuse s dry real ∨ ∃ loaded corpora,
      let config := override output loaded
      Config.ofFile around.complaint env (around.disk.read path s) = .ok loaded ∧
      config.validate = .ok () ∧
      Corpus.locateAll config ((around.world config).view s) = .ok corpora ∧
      Foretells ((around.world config).view s) config corpora s dry real := by
  have hread : Config.ofFile around.recorded.complaint env
      (around.recorded.disk.read path (s, [])) =
        Config.ofFile around.complaint env (around.disk.read path s) := rfl
  cases hfile : Config.ofFile around.complaint env (around.disk.read path s) with
  | error failure =>
    rw [runCommand_of_ofFile_error _ (hread.trans hfile),
      runCommand_of_ofFile_error _ (hread.trans hfile)]
    exact .inl ⟨rfl, rfl, rfl, rfl, rfl, List.cons_ne_nil _ _⟩
  | ok loaded =>
    rw [runCommand_of_ofFile_ok _ (hread.trans hfile),
      runCommand_of_ofFile_ok _ (hread.trans hfile)]
    rcases runConfig_ways around hstorage (override output loaded) s with
      hrefuse | ⟨corpora, hvalid, hlocate, hforetells⟩
    · exact .inl (hrefuse.preceded (isComplaint_of_mem_loading _ output)
        (isComplaint_of_mem_loading _ output))
    · exact .inr ⟨loaded, corpora, rfl, hvalid, hlocate, hforetells.preceded
        (fun text htext => absurd htext (output_not_mem_loading _ text output)) _⟩

/-- What the dry run of an accepted configuration says at last. -/
theorem getLast?_said_dryRun {env : Environment} {path : String} {loaded : Config}
    {corpora : List Corpus}
    (hfile : Config.ofFile around.complaint env (around.disk.read path s) = .ok loaded)
    (hvalid : loaded.validate = .ok ())
    (hlocate : Corpus.locateAll loaded ((around.world loaded).view s) = .ok corpora) :
    (runCommand around env path none true s).exitCode = 0 ∧
      (runCommand around env path none true s).said.getLast? =
        some (.output (String.join (corpora.map corpusListing))) := by
  have hconfig := runConfig_of_validate_ok (s := s) around hvalid true
  rw [if_pos rfl, dryRun_of_locateAll_ok around hlocate] at hconfig
  rw [runCommand_of_ofFile_ok around hfile none true, override, hconfig]
  exact ⟨rfl, getLast?_said_preceded (getLast?_said_preceded (getLast?_said_preceded rfl _) _) _⟩

end Runs

/-- **A dry run predicts the real run.**  Both runs of the command are recorded, which changes nothing.
The dry run leaves everything as it is, launches nothing and writes nothing.  It ends with 1 if and
only if the real run does, and then both refuse for the same reason.  Otherwise it lists the problems of the
configuration by domain and path, and the table of the real run has one row for each of the listed problems. -/
theorem dry_run_predicts {σ : Type} (around : Surroundings σ)
    (hstorage : ∀ config,
      (around.world config).storage = Storage.onDisk around.disk Storage.here)
    (env : Environment) (path : String) (output : Option String) (s : σ) :
    let dry := runCommand around.recorded env path output true (s, [])
    let real := runCommand around.recorded env path output false (s, [])
    dry.Records (runCommand around env path output true s) ∧
      real.Records (runCommand around env path output false s) ∧
      dry.state = (s, []) ∧
      (dry.exitCode = 1 ↔ real.exitCode = 1) ∧
      (dry.exitCode = 1 → BothRefuse s dry real) ∧
      (dry.exitCode ≠ 1 → ∃ loaded corpora,
        let config := override output loaded
        Config.ofFile around.complaint env (around.disk.read path s) = .ok loaded ∧
        config.validate = .ok () ∧
        Corpus.locateAll config ((around.world config).view s) = .ok corpora ∧
        Foretells ((around.world config).view s) config corpora s dry real) := by
  intro dry real
  refine ⟨records_runCommand around env path output true s [],
    records_runCommand around env path output false s [], ?_⟩
  rcases runCommand_ways around hstorage env path output s with
    hrefuse | ⟨loaded, corpora, hfile, hvalid, hlocate, hforetells⟩
  · exact ⟨hrefuse.state_dry, iff_of_true hrefuse.exitCode_dry hrefuse.exitCode_real,
      fun _ => hrefuse, fun hne => absurd hrefuse.exitCode_dry hne⟩
  · have hdry : dry.exitCode ≠ 1 := by
      rw [show dry.exitCode = 0 from hforetells.exitCode_dry]
      decide
    have hreal : real.exitCode ≠ 1 := by
      obtain ⟨_, _, _, _, hsuccess | hfailure⟩ := hforetells.done
      · rw [show real.exitCode = 0 from hsuccess.1]
        decide
      · rw [show real.exitCode = 3 from hfailure.1]
        decide
    exact ⟨hforetells.state_dry, iff_of_false hdry hreal, fun heq => absurd heq hdry,
      fun _ => ⟨loaded, corpora, hfile, hvalid, hlocate, hforetells⟩⟩

/-! ## A small tree -/

/-- A document with one domain and two solvers. -/
def smallDocument : String :=
  "benchmarks_dir='b'\ndomains=['a']\noutput_path='r.csv'\nsolvers=\x7bSAT=['true'],HSP=['true']\x7d\n"

/-- The configuration that it describes. -/
def smallConfig : Config :=
  { benchmarksFolder := "b", domains := ["a"], outputPath := "r.csv",
    solvers := [("SAT", { program := "true" }), ("HSP", { program := "true" })] }

/-- The location that is made of names. -/
def locationOf (names : List String) : Files.Location := names.map Utf8.encodeString

/-- A tree with a document and with the domain, which has one problem. -/
def treeWith (document : Bytes) : Files.FileTree where
  entries := [(locationOf ["c.toml"], .file document), (locationOf ["b"], .folder),
    (locationOf ["b", "a"], .folder), (locationOf ["b", "a", "domain.pddl"], .file []),
    (locationOf ["b", "a", "p1.pddl"], .file [])]
  workingFolder := []

/-- The tree with the small document. -/
def smallTree : Files.FileTree := treeWith (Utf8.encodeString smallDocument)

/-- A world that is a file tree, in which solvers print nothing. -/
def treeWorld : World Files.FileTree where
  view := Files.FileTree.view
  invoker := ⟨fun _ tree => (.exited .none "" "" (some 0), tree), fun _ => []⟩
  storage := Storage.onDisk Files.FileTree.disk Storage.here
  clock _ := .none

/-- Commands in this world. -/
def treeSurroundings : Surroundings Files.FileTree where
  disk := Files.FileTree.disk
  world _ := treeWorld
  complaint _ := "no configuration"

theorem storage_treeSurroundings (config : Config) :
    (treeSurroundings.world config).storage =
      Storage.onDisk treeSurroundings.disk Storage.here := by
  simp only [treeSurroundings, treeWorld]

theorem view_treeSurroundings (config : Config) :
    (treeSurroundings.world config).view = Files.FileTree.view := by
  simp only [treeSurroundings, treeWorld]

/-- The names in the tree are names that folders can hold. -/
theorem proper_smallTree : smallTree.view.Proper :=
  Files.FileTree.proper_view (by decide +kernel)

theorem read_smallTree : Config.ofFile treeSurroundings.complaint (fun _ => none)
    (treeSurroundings.disk.read "c.toml" smallTree) = .ok smallConfig := by
  have hread : Config.read treeSurroundings.complaint (fun _ => none) smallDocument =
      .ok smallConfig := by decide +kernel
  have hcontent : ∀ content, Files.FileTree.disk.read "c.toml" (treeWith content) =
      .ok content := by
    intro content
    cbv
  have hfound : treeSurroundings.disk.read "c.toml" smallTree =
      .ok (Utf8.encodeString smallDocument) := hcontent _
  rw [hfound, Config.ofFile, Utf8.decodeString?_encodeString]
  exact hread

/-- Of the two files in the folder of the domain, one is a problem. -/
theorem filterMap_problemName?_smallTree :
    (locationOf ["domain.pddl", "p1.pddl"]).filterMap
      (Corpus.problemName? smallConfig smallTree.view "b/a") = ["p1.pddl"] := by
  have hnone : Corpus.problemName? smallConfig smallTree.view "b/a"
      (Utf8.encodeString "domain.pddl") = none := by
    have hname : Corpus.isProblemName smallConfig "domain.pddl" = false := by decide
    rw [Corpus.problemName?, Utf8.decodeString?_encodeString]
    simp [hname]
  have hsome : Corpus.problemName? smallConfig smallTree.view "b/a"
      (Utf8.encodeString "p1.pddl") = some "p1.pddl" :=
    Corpus.problemName?_of_isProblemName (by cbv) (by decide)
  rw [locationOf, List.map_cons, List.map_cons, List.map_nil, List.filterMap_cons_none hnone,
    List.filterMap_cons_some hsome, List.filterMap_nil]

theorem locateAll_smallTree : Corpus.locateAll smallConfig smallTree.view =
    .ok [⟨"a", "b/a/domain.pddl", [⟨"a", "b/a/p1.pddl"⟩]⟩] := by
  have hfolder : Corpus.folderOf smallConfig "a" = "b/a" := by decide +kernel
  have hdescription : Corpus.descriptionOf smallConfig "a" = "b/a/domain.pddl" := by
    decide +kernel
  have hisFolder : smallTree.view.isFolder "b/a" = true := by cbv
  have hisFile : smallTree.view.isFile "b/a/domain.pddl" = true := by cbv
  have hlist : smallTree.view.list "b/a" = .ok (locationOf ["domain.pddl", "p1.pddl"]) := by cbv
  rw [← hfolder] at hisFolder hlist
  rw [← hdescription] at hisFile
  have hlocate := Corpus.locate_of_list_ok hisFolder hisFile hlist
  rw [hfolder, filterMap_problemName?_smallTree, List.mergeSort_singleton, Corpus.ofNames, hfolder,
    hdescription] at hlocate
  refine Corpus.locateAll_eq_ok_iff.mpr ⟨by decide, .cons (hlocate.trans ?_) .nil⟩
  decide +kernel

/-- The dry run shows a line for the domain and one for the problem, and the real run writes one row, which is
about this problem. -/
theorem dry_run_predicts_on_small_tree :
    let run := runCommand treeSurroundings.recorded (fun _ => none) "c.toml" none
    let dry := run true (smallTree, [])
    let real := run false (smallTree, [])
    (∀ config, (treeSurroundings.world config).storage =
        Storage.onDisk treeSurroundings.disk Storage.here) ∧
      dry.exitCode = 0 ∧ dry.state = (smallTree, []) ∧ real.exitCode ≠ 1 ∧
      dry.said.getLast? = some (.output "a (b/a/domain.pddl)\n  b/a/p1.pddl\n") ∧
      ∃ row result, row.domain = "a" ∧ row.problem = "p1.pddl" ∧
        .wrote "r.csv" (Table.encode [row]) result ∈ real.state.2 := by
  intro run dry real
  obtain ⟨hrecords, _, hstate, hiff, _, hforetells⟩ :=
    dry_run_predicts treeSurroundings storage_treeSurroundings (fun _ => none) "c.toml" none
      smallTree
  have hvalid : smallConfig.validate = .ok () := by decide
  have hlocate := locateAll_smallTree
  rw [← view_treeSurroundings smallConfig] at hlocate
  obtain ⟨hcode, hlast⟩ :=
    getLast?_said_dryRun treeSurroundings read_smallTree hvalid hlocate
  rw [← hrecords.exitCode] at hcode
  rw [← hrecords.said] at hlast
  have hne : dry.exitCode ≠ 1 := fun heq => absurd (hcode.symm.trans heq) (by decide)
  obtain ⟨loaded, corpora, hfile, _, hlocated, hshown⟩ := hforetells hne
  obtain rfl : smallConfig = loaded := Except.ok.inj (read_smallTree.symm.trans hfile)
  obtain rfl := Except.ok.inj (hlocate.symm.trans hlocated)
  obtain ⟨trials, result, htrace, hrows, _⟩ := hshown.done
  rw [view_treeSurroundings] at hrows
  obtain ⟨row, _, hrow, hnil, heq⟩ := List.forall₂_cons_left_iff.mp hrows
  obtain rfl := List.forall₂_nil_left_iff.mp hnil
  refine ⟨storage_treeSurroundings, hcode, hstate, mt hiff.mpr hne, hlast, row, result,
    hrow.domain, ?_, ?_⟩
  · have hname : Path.fileName? "b/a/p1.pddl" = some "p1.pddl" := by decide +kernel
    exact Option.some.inj ((hrow.fileName proper_smallTree).symm.trans hname)
  · rw [heq] at htrace
    exact htrace ▸ List.mem_append_right _ (List.mem_singleton_self _)

end Cli
end PlannerTrials
