import PlannerTrials.Pass.Perform
import PlannerTrials.Proofs.Corpus.Locate
import PlannerTrials.Proofs.Pass.Calls
import PlannerTrials.Proofs.Storage
import PlannerTrials.Proofs.Table.RoundTrip

/-!
# What a pass does to the world

A pass does two kinds of things that cannot be undone: it runs solvers, and it writes a file.  This
module says when.  Nothing is done before all domains have been located; then every call is made, in the
order of the corpora; then one write is attempted.  There is no other way through a pass
(`perform_of_locateAll_error`, `perform_of_locateAll_ok`).

## Recording

The effects of a run are not part of its result, so they are observed in a world that keeps a record:
`World.recorded` does everything that a world does and adds each invocation and each write to a
list.  A recorded pass has the result and leaves the state of the pass itself (`recorded_perform`), and
its record can be read off the answers to its calls (`answersTo_recorded`).

## Failures

The class of a failure tells which of the effects have happened.  A failure of the
configuration or of the corpus shows before the first effect; any other one comes from the storage, after
all runs.  For this the failures of a storage must not look like those of a configuration,
which holds for the storage on a disk (`Storage.not_isConfigurationError_of_write_onDisk`).
-/

namespace PlannerTrials

/-! ## Recorded worlds -/

/-- Something that is done to the world. -/
inductive Effect where
  /-- A solver was called and answered. -/
  | ran (call : Call) (answer : Invocation)
  /-- A file was written, or could not be written. -/
  | wrote (path : String) (content : Bytes) (result : Except Failure Unit)

/-- The call, if the effect is one of a solver. -/
def Effect.call? : Effect → Option Call
  | .ran call _ => some call
  | .wrote .. => none

/-- Answered calls, one after the other. -/
theorem map_call?_zipWith {calls : List Call} {answers : List Invocation}
    (h : answers.length = calls.length) :
    (List.zipWith Effect.ran calls answers).map Effect.call? = calls.map some := by
  induction calls generalizing answers with
  | nil => rw [List.zipWith_nil_left, List.map_nil, List.map_nil]
  | cons call calls ih =>
    obtain ⟨answer, rest, rfl⟩ := List.exists_cons_of_length_eq_add_one h
    rw [List.zipWith_cons_cons, List.map_cons, List.map_cons, ih (Nat.succ_inj.mp h)]
    rfl

/-- A world that records what is done to it. -/
def World.recorded {σ : Type} (world : World σ) : World (σ × List Effect) where
  view s := world.view s.1
  invoker :=
    { invoke := fun call s =>
        ((world.invoker.invoke call s.1).1, (world.invoker.invoke call s.1).2,
          s.2 ++ [.ran call (world.invoker.invoke call s.1).1])
      announce := world.invoker.announce }
  storage :=
    { read := fun path s => world.storage.read path s.1
      write := fun path content s =>
        ((world.storage.write path content s.1).1, (world.storage.write path content s.1).2,
          s.2 ++ [.wrote path content (world.storage.write path content s.1).1]) }
  clock s := world.clock s.1

section Recorded

variable {σ : Type} (world : World σ)

/-- The record of calls: each one with its answer. -/
theorem answersTo_recorded (calls : List Call) (s : σ) (trace : List Effect) :
    answersTo world.recorded.invoker.invoke calls (s, trace) =
      ((answersTo world.invoker.invoke calls s).1, (answersTo world.invoker.invoke calls s).2,
        trace ++ List.zipWith Effect.ran calls (answersTo world.invoker.invoke calls s).1) := by
  induction calls generalizing s trace with
  | nil => rw [answersTo, answersTo, List.zipWith_nil_left, List.append_nil]
  | cons call calls ih =>
    have hinvoke : world.recorded.invoker.invoke call (s, trace) =
        ((world.invoker.invoke call s).1, (world.invoker.invoke call s).2,
          trace ++ [.ran call (world.invoker.invoke call s).1]) := rfl
    rw [answersTo_cons, answersTo_cons, hinvoke, ih, List.zipWith_cons_cons, List.append_assoc,
      List.singleton_append]

/-- A recorded pass has the trials of the pass, and their calls and answers in its record. -/
theorem ofCorpora_recorded (corpora : List Corpus) (s : σ) (trace : List Effect) :
    Pass.ofCorpora world.recorded.invoker.invoke corpora (s, trace) =
      ((Pass.ofCorpora world.invoker.invoke corpora s).1,
        (Pass.ofCorpora world.invoker.invoke corpora s).2,
        trace ++ List.zipWith Effect.ran (corpora.flatMap Corpus.calls)
          (answersTo world.invoker.invoke (corpora.flatMap Corpus.calls) s).1) := by
  have halike : ∀ call (t : σ × List Effect), world.invoker.invoke call t.1 =
      ((world.recorded.invoker.invoke call t).1, (world.recorded.invoker.invoke call t).2.1) :=
    fun call t => rfl
  have htrials : (trialsOf world.invoker.invoke corpora s).1 =
      (trialsOf world.recorded.invoker.invoke corpora (s, trace)).1 :=
    congrArg Prod.fst (trialsOf_map halike corpora (s, trace))
  have hstates := congrArg Prod.snd
    (answersTo_calls world.recorded.invoker.invoke corpora (s, trace))
  rw [answersTo_recorded] at hstates
  have hplain := congrArg Prod.snd (answersTo_calls world.invoker.invoke corpora s)
  rw [Pass.ofCorpora_eq, Pass.ofCorpora_eq, ← hstates, htrials]
  exact congrArg (fun t => (_, t, _)) hplain

end Recorded

/-! ## Worlds of listings -/

/-- A world in which every folder lists the same names, all of them files, with solvers that print
nothing and a disk in memory. -/
def World.listing (names : List Files.Name) : World (List (String × Bytes)) where
  view _ := ⟨fun _ => true, fun _ => true, fun _ => .ok names⟩
  invoker := ⟨fun _ files => (.exited Elapsed.none "" "" (some 0), files), fun _ => []⟩
  storage := Storage.onDisk Files.Disk.memory Storage.here
  clock _ := Elapsed.none

theorem World.storage_listing (names : List Files.Name) :
    (World.listing names).storage = Storage.onDisk Files.Disk.memory Storage.here := rfl

/-- In such a world different domains are all located. -/
theorem World.exists_locateAll_listing (names : List Files.Name) (s : List (String × Bytes))
    {config : Config} (h : config.domains.Nodup) :
    ∃ corpora, Corpus.locateAll config ((World.listing names).view s) = .ok corpora := by
  have hnames : ∀ domain, ∃ found,
      Corpus.namesIn config ((World.listing names).view s) domain = .ok found :=
    fun domain => ⟨_, rfl⟩
  choose found hfound using hnames
  refine ⟨config.domains.map fun domain => Corpus.ofNames config domain (found domain), ?_⟩
  rw [Corpus.locateAll_eq_ok_iff, List.forall₂_map_right_iff, List.forall₂_same]
  refine ⟨h, fun domain _ => ?_⟩
  rw [Corpus.locate, hfound]
  rfl

/-- A single name, that of a problem. -/
def plainNames : List Files.Name := [Utf8.encode "p01.pddl".toList]

/-- A disk in memory that has no room for one file. -/
def Files.Disk.memoryWithout (refused : String) : Files.Disk (List (String × Bytes)) :=
  { Files.Disk.memory with
    write := fun path content s =>
      if path = refused then (.error .noSpace, s) else Files.Disk.memory.write path content s }

/-- On such a disk a write fails if and only if this is the file that takes the content first. -/
theorem Storage.write_memoryWithout (refused base path : String) (content : Bytes)
    (s : List (String × Bytes)) :
    ((onDisk (.memoryWithout refused) base).write path content s).1 =
      if Files.Disk.temporary (resolve base path) = refused then .error (.file .noSpace)
      else .ok () := by
  have hparents : (Files.Disk.memoryWithout refused).makeParents (resolve base path) s =
      (.ok (), s) := by
    unfold Files.Disk.makeParents
    split
    · rfl
    · split <;> rfl
  rw [write_onDisk, Files.Disk.replaceFile, hparents]
  by_cases hrefused : Files.Disk.temporary (resolve base path) = refused
  · simp [Files.Disk.memoryWithout, hrefused, Except.mapError]
  · simp [Files.Disk.memoryWithout, Files.Disk.memory, hrefused, Except.mapError]

/-- A world of listings in which no program of one solver can be launched, the one of the other solver prints
a step and fails, and there is no room for one file. -/
def World.unlucky : World (List (String × Bytes)) :=
  { World.listing plainNames with
    invoker := ⟨fun call files => (match call.solver with
      | .sat => .notLaunched .none "not found"
      | .hsp => .exited .none "0: A" "" (some 3), files), fun _ => []⟩
    storage := Storage.onDisk (.memoryWithout "./full.csv.tmp") Storage.here }

theorem World.storage_unlucky : World.unlucky.storage =
    Storage.onDisk (.memoryWithout "./full.csv.tmp") Storage.here := rfl

section PlainNames

variable {config : Config} (hstart : config.problemStart = "p") (hend : config.problemEnd = ".pddl")
  (hsize : config.sampleSize = 1) (s : List (String × Bytes))

include hstart hend hsize

/-- A configuration that asks for such names gets the one that is there. -/
theorem selection_listing_plainNames (domain : String) :
    Corpus.selection config ((World.listing plainNames).view s) domain = ["p01.pddl"] := by
  have hname : Corpus.isProblemName config "p01.pddl" = true := by
    rw [Corpus.isProblemName, hstart, hend]
    decide
  have hfound : ∀ folder, Corpus.problemName? config ((World.listing plainNames).view s) folder
      (Utf8.encode "p01.pddl".toList) = some "p01.pddl" :=
    fun _ => Corpus.problemName?_of_isProblemName rfl hname
  have hfiltered : plainNames.filterMap (Corpus.problemName? config
      ((World.listing plainNames).view s) (Corpus.folderOf config domain)) = ["p01.pddl"] :=
    List.filterMap_cons_some (hfound _)
  have hnames : Corpus.namesIn config ((World.listing plainNames).view s) domain =
      .ok ((plainNames.filterMap (Corpus.problemName? config
        ((World.listing plainNames).view s) (Corpus.folderOf config domain))).mergeSort
          Corpus.nameBefore) := rfl
  rw [Corpus.selection, hnames, hfiltered, List.mergeSort_singleton, hsize]
  rfl

/-- The calls that such a configuration leads to. -/
theorem calls_listing_plainNames {domains : List String} {corpora : List Corpus}
    (h : List.Forall₂ (fun domain corpus =>
      Corpus.locate config ((World.listing plainNames).view s) domain = .ok corpus) domains corpora) :
    corpora.flatMap Corpus.calls = domains.flatMap fun domain => Solver.all.map fun solver =>
      ⟨solver, Corpus.descriptionOf config domain,
        Path.join (Corpus.folderOf config domain) "p01.pddl"⟩ := by
  induction h with
  | nil => rfl
  | cons hcorpus _ ih =>
    rw [List.flatMap_cons, List.flatMap_cons, ih, Corpus.eq_of_locate hcorpus,
      selection_listing_plainNames hstart hend hsize]
    rfl

end PlainNames

/-! ## The two ways through a pass -/

namespace Pass

section Perform

variable {σ : Type} (world : World σ) {config : Config} {s : σ}

/-- Runs all trials on located corpora and writes their table. -/
def runAndWrite (config : Config) (corpora : List Corpus) (s : σ) : Except Failure Unit × σ :=
  world.storage.write config.outputPath
    (Table.encode (ofCorpora world.invoker.invoke corpora s).1.rows)
    (ofCorpora world.invoker.invoke corpora s).2

/-- A pass whose domains cannot be located does nothing. -/
theorem perform_of_locateAll_error {failure : Failure}
    (h : Corpus.locateAll config (world.view s) = .error failure) :
    perform world config s =
      ⟨.error failure, openingEvent :: Corpus.locateAllEvents config (world.view s), s⟩ := by
  unfold perform
  rw [h]

/-- A pass whose domains are located runs all trials and then writes their table, and what comes of
the pass is what comes of the write. -/
theorem perform_of_locateAll_ok {corpora : List Corpus}
    (h : Corpus.locateAll config (world.view s) = .ok corpora) :
    (perform world config s).result = (runAndWrite world config corpora s).1.map
        (fun _ => (ofCorpora world.invoker.invoke corpora s).1) ∧
      (perform world config s).state = (runAndWrite world config corpora s).2 := by
  unfold perform runAndWrite
  rw [h]
  simp only [Table.file_eq_ok]
  split
  · next hwrite =>
    rw [hwrite]
    exact ⟨rfl, rfl⟩
  · next hwrite =>
    rw [hwrite]
    exact ⟨rfl, rfl⟩

/-- The record of all trials and the write after them. -/
theorem runAndWrite_recorded (corpora : List Corpus) (trace : List Effect) :
    runAndWrite world.recorded config corpora (s, trace) =
      ((runAndWrite world config corpora s).1, (runAndWrite world config corpora s).2,
        trace ++ List.zipWith Effect.ran (corpora.flatMap Corpus.calls)
            (answersTo world.invoker.invoke (corpora.flatMap Corpus.calls) s).1 ++
          [.wrote config.outputPath
            (Table.encode (ofCorpora world.invoker.invoke corpora s).1.rows)
            (runAndWrite world config corpora s).1]) := by
  rw [runAndWrite, ofCorpora_recorded]
  rfl

/-- **Recording changes nothing**: a recorded pass has the result of the pass and leaves its state. -/
theorem recorded_perform (trace : List Effect) :
    (perform world.recorded config (s, trace)).result = (perform world config s).result ∧
      (perform world.recorded config (s, trace)).state.1 = (perform world config s).state := by
  cases hlocate : Corpus.locateAll config (world.view s) with
  | error failure =>
    rw [perform_of_locateAll_error world hlocate,
      perform_of_locateAll_error world.recorded (s := (s, trace)) hlocate]
    exact ⟨rfl, rfl⟩
  | ok corpora =>
    obtain ⟨hresult, hstate⟩ := perform_of_locateAll_ok world hlocate
    obtain ⟨hresult', hstate'⟩ :=
      perform_of_locateAll_ok world.recorded (s := (s, trace)) hlocate
    rw [hresult, hstate, hresult', hstate', runAndWrite_recorded, ofCorpora_recorded]
    exact ⟨rfl, rfl⟩

/-- A recorded pass tells what the pass tells. -/
theorem events_recorded_perform (trace : List Effect) :
    (perform world.recorded config (s, trace)).events = (perform world config s).events := by
  have hlocated : Corpus.locateAll config (world.recorded.view (s, trace)) =
      Corpus.locateAll config (world.view s) := rfl
  unfold perform
  rw [hlocated]
  split
  · rfl
  · next corpora _ =>
    rw [ofCorpora_recorded]
    simp only [Table.file_eq_ok]
    have hwrite : ∀ content (t : σ × List Effect),
        world.recorded.storage.write config.outputPath content t =
          ((world.storage.write config.outputPath content t.1).1,
            (world.storage.write config.outputPath content t.1).2,
            t.2 ++ [.wrote config.outputPath content
              (world.storage.write config.outputPath content t.1).1]) := fun content t => rfl
    rw [hwrite]
    rcases world.storage.write config.outputPath _ _ with ⟨_ | _, written⟩
    · rfl
    · rfl

end Perform

/-! ## Effects and failures -/

section Effects

variable {σ : Type} (world : World σ) (config : Config) (s : σ)

/-- All selected problems of all configured domains were run once with each solver, in their
order, and after the last run one file was written or could not be written. -/
def RanThenWrote (content : Bytes) (result : Except Failure Unit) (trace : List Effect) : Prop :=
  ∃ corpora answers,
    List.Forall₂ (fun domain corpus => Corpus.locate config (world.view s) domain = .ok corpus)
      config.domains corpora ∧
    answers.length = (corpora.flatMap Corpus.calls).length ∧
    trace = List.zipWith Effect.ran (corpora.flatMap Corpus.calls) answers ++
      [.wrote config.outputPath content result]

/-- The calls that were made, and the write after them. -/
theorem RanThenWrote.map_call? {content : Bytes} {result : Except Failure Unit}
    {trace : List Effect} (h : RanThenWrote world config s content result trace) :
    ∃ corpora,
      List.Forall₂ (fun domain corpus => Corpus.locate config (world.view s) domain = .ok corpus)
        config.domains corpora ∧
      trace.map Effect.call? = (corpora.flatMap Corpus.calls).map some ++ [none] ∧
      .wrote config.outputPath content result ∈ trace := by
  obtain ⟨corpora, answers, hcorpora, hlength, rfl⟩ := h
  refine ⟨corpora, hcorpora, ?_, List.mem_append_right _ (List.mem_singleton_self _)⟩
  rw [List.map_append, map_call?_zipWith hlength]
  rfl

/-- What the result of a pass says about its effects. -/
structure EffectsFollow (result : Except Failure Pass) (trace : List Effect) : Prop where
  /-- Nothing has been done if the configuration or the corpus is at fault. -/
  nothing : ∀ failure, result = .error failure → failure.isConfigurationError = true → trace = []
  /-- Everything has been run if anything else is, and the one write was attempted. -/
  attempted : ∀ failure, result = .error failure → failure.isConfigurationError = false →
    ∃ content, RanThenWrote world config s content (.error failure) trace
  /-- The file of the table was written if the pass has succeeded. -/
  written : ∀ pass, result = .ok pass →
    ∃ content, Table.file pass.rows = .ok content ∧
      RanThenWrote world config s content (.ok ()) trace
  /-- A failure is one of locating the domains or of the write, never one of a solver. -/
  blame : ∀ failure, result = .error failure →
    Corpus.locateAll config (world.view s) = .error failure ∨
      ∃ content, Effect.wrote config.outputPath content (.error failure) ∈ trace

variable {world config s}

theorem effectsFollow_of_locateAll_error {located : Failure}
    (h : Corpus.locateAll config (world.view s) = .error located) :
    EffectsFollow world config s (.error located) [] := by
  have hconfig := Corpus.isConfigurationError_of_locateAll h
  refine ⟨?_, ?_, ?_, ?_⟩
  · exact fun _ _ _ => rfl
  · intro failure hfailure hother
    rw [← Except.error.inj hfailure, hconfig] at hother
    exact absurd hother (by decide)
  · exact fun pass hpass => absurd hpass (by simp)
  · intro failure hfailure
    rw [← Except.error.inj hfailure]
    exact .inl h

/-- After all runs it is the write that decides. -/
theorem effectsFollow_of_ranThenWrote {pass : Pass} {content : Bytes}
    {result : Except Failure Unit} {trace : List Effect}
    (hran : RanThenWrote world config s content result trace)
    (hfile : Table.file pass.rows = .ok content)
    (hclass : ∀ failure, result = .error failure → failure.isConfigurationError = false) :
    EffectsFollow world config s (result.map fun _ => pass) trace := by
  cases result with
  | error refused =>
    have hother := hclass refused rfl
    refine ⟨?_, ?_, ?_, ?_⟩
    · intro failure hfailure hconfig
      rw [← Except.error.inj hfailure, hother] at hconfig
      exact absurd hconfig (by decide)
    · intro failure hfailure _
      rw [← Except.error.inj hfailure]
      exact ⟨content, hran⟩
    · exact fun pass hpass => absurd hpass (by simp [Except.map])
    · intro failure hfailure
      rw [← Except.error.inj hfailure]
      obtain ⟨_, _, _, hwrote⟩ := hran.map_call?
      exact .inr ⟨content, hwrote⟩
  | ok wrote =>
    refine ⟨?_, ?_, ?_, ?_⟩
    · exact fun failure hfailure => absurd hfailure (by simp [Except.map])
    · exact fun failure hfailure => absurd hfailure (by simp [Except.map])
    · intro pass' hpass
      rw [← Except.ok.inj hpass]
      exact ⟨content, hfile, hran⟩
    · exact fun failure hfailure => absurd hfailure (by simp [Except.map])

/-- A recorded pass over located corpora has run them and attempted its write. -/
theorem ranThenWrote_of_locateAll_ok {corpora : List Corpus}
    (h : Corpus.locateAll config (world.view s) = .ok corpora) :
    RanThenWrote world config s (Table.encode (ofCorpora world.invoker.invoke corpora s).1.rows)
      (runAndWrite world config corpora s).1
      (perform world.recorded config (s, [])).state.2 := by
  obtain ⟨_, hstate⟩ := perform_of_locateAll_ok world.recorded (s := (s, [])) h
  refine ⟨corpora, _, (Corpus.locateAll_eq_ok_iff.mp h).2,
    length_answersTo world.invoker.invoke _ s, ?_⟩
  rw [hstate, runAndWrite_recorded]
  rfl

end Effects

/-! ## Passes in an unlucky world -/

/-- Two domains, of which one problem each is asked for. -/
def twoDomains (outputPath : String) : Config :=
  { domains := ["b", "a"], sampleSize := 1, outputPath }

/-- The calls of a pass over these domains. -/
def twoDomainsCalls : List Call :=
  [⟨.sat, "benchmarks/b/domain.pddl", "benchmarks/b/p01.pddl"⟩,
    ⟨.hsp, "benchmarks/b/domain.pddl", "benchmarks/b/p01.pddl"⟩,
    ⟨.sat, "benchmarks/a/domain.pddl", "benchmarks/a/p01.pddl"⟩,
    ⟨.hsp, "benchmarks/a/domain.pddl", "benchmarks/a/p01.pddl"⟩]

/-- The pass fails if and only if there is no room for its table. -/
theorem exists_pass_twoDomains (outputPath : String) :
    ∃ pass, (perform World.unlucky (twoDomains outputPath) []).result =
      if Files.Disk.temporary (Storage.resolve Storage.here outputPath) = "./full.csv.tmp" then
        .error (.file .noSpace)
      else .ok pass := by
  obtain ⟨corpora, hlocate⟩ : ∃ corpora,
      Corpus.locateAll (twoDomains outputPath) (World.unlucky.view []) = .ok corpora :=
    World.exists_locateAll_listing plainNames [] (by decide : ["b", "a"].Nodup)
  refine ⟨(ofCorpora World.unlucky.invoker.invoke corpora []).1, ?_⟩
  have hpath : (twoDomains outputPath).outputPath = outputPath := rfl
  rw [(perform_of_locateAll_ok World.unlucky hlocate).1, runAndWrite, World.storage_unlucky,
    Storage.write_memoryWithout, hpath]
  split <;> rfl

/-- What such a pass has done. -/
theorem map_call?_twoDomains {outputPath : String} {content : Bytes}
    {result : Except Failure Unit} {trace : List Effect}
    (h : RanThenWrote World.unlucky (twoDomains outputPath) [] content result trace) :
    trace.map Effect.call? = twoDomainsCalls.map some ++ [none] ∧
      .wrote outputPath content result ∈ trace := by
  obtain ⟨corpora, hcorpora, htrace, hwrote⟩ := h.map_call?
  have hcalls : corpora.flatMap Corpus.calls = ["b", "a"].flatMap fun domain =>
      Solver.all.map fun solver =>
        ⟨solver, Corpus.descriptionOf (twoDomains outputPath) domain,
          Path.join (Corpus.folderOf (twoDomains outputPath) domain) "p01.pddl"⟩ :=
    calls_listing_plainNames rfl rfl rfl [] hcorpora
  have hpaths : (["b", "a"].flatMap fun domain => Solver.all.map fun solver =>
      Call.mk solver (Path.join (Path.join "benchmarks" domain) "domain.pddl")
        (Path.join (Path.join "benchmarks" domain) "p01.pddl")) = twoDomainsCalls := by
    decide +kernel
  rw [htrace, hcalls]
  exact ⟨congrArg (fun made => made.map some ++ [none]) hpaths, hwrote⟩

/-- A domain that is named twice is not located. -/
theorem locateAll_repeated (outputPath : String) :
    Corpus.locateAll { twoDomains outputPath with domains := ["b", "b"] } (World.unlucky.view []) =
      .error (.configValue "domains" "b" "Duplicate entry") := by
  obtain ⟨corpus, hcorpus⟩ : ∃ corpus, Corpus.locate
      { twoDomains outputPath with domains := ["b", "b"] } (World.unlucky.view []) "b" =
        .ok corpus := ⟨_, rfl⟩
  simp [Corpus.locateAll, Corpus.locateFrom, hcorpus, Corpus.repeatedDomain, Except.map]

/-! ## The effects follow the result -/

/-- **The effects of a pass follow its result.**  In every world whose storage fails only in its own
ways, a pass that fails for the configuration or the corpus has done nothing, and would have failed so
with every other solver and storage; a pass that fails otherwise has run everything and
attempted its one write; and a pass that succeeds has written its table once, after the last
run.  What the solvers answer never decides between these. -/
theorem effects_follow_result {σ : Type} (world : World σ) (config : Config) (s : σ)
    (hstorage : ∀ path content t failure,
      (world.storage.write path content t).1 = .error failure →
        failure.isConfigurationError = false) :
    let done := perform world config s
    let recorded := perform world.recorded config (s, [])
    (recorded.result = done.result ∧ recorded.state.1 = done.state) ∧
      EffectsFollow world config s done.result recorded.state.2 ∧
      ∀ failure, done.result = .error failure → failure.isConfigurationError = true →
        ∀ invoker storage, perform { world with invoker, storage } config s = done := by
  refine ⟨recorded_perform world [], ?_⟩
  cases hlocate : Corpus.locateAll config (world.view s) with
  | error located =>
    rw [perform_of_locateAll_error world hlocate,
      perform_of_locateAll_error world.recorded (s := (s, [])) hlocate]
    refine ⟨effectsFollow_of_locateAll_error hlocate, fun _ _ _ invoker storage => ?_⟩
    exact perform_of_locateAll_error { world with invoker, storage } hlocate
  | ok corpora =>
    have hclass : ∀ failure, (runAndWrite world config corpora s).1 = .error failure →
        failure.isConfigurationError = false := fun failure => hstorage _ _ _ failure
    obtain ⟨hresult, _⟩ := perform_of_locateAll_ok world hlocate
    rw [hresult]
    refine ⟨effectsFollow_of_ranThenWrote (ranThenWrote_of_locateAll_ok hlocate)
      (Table.file_eq_ok _) hclass, fun failure hfailure hconfig => ?_⟩
    cases hwrite : (runAndWrite world config corpora s).1 with
    | error refused =>
      rw [hwrite] at hfailure
      rw [← Except.error.inj hfailure, hclass refused hwrite] at hconfig
      exact absurd hconfig (by decide)
    | ok wrote =>
      rw [hwrite] at hfailure
      exact absurd hfailure (by simp [Except.map])

/-- What the solvers answer stops no pass.  The one without room for its table has run everything and
attempted its write, the one with room has written, and the one with a repeated domain has done
nothing. -/
theorem effects_follow_result_in_unlucky_world :
    let repeated : Config := { twoDomains "r.csv" with domains := ["b", "b"] }
    let trace (config : Config) := (perform World.unlucky.recorded config ([], [])).state.2
    (∀ path content t failure, (World.unlucky.storage.write path content t).1 = .error failure →
        failure.isConfigurationError = false) ∧
      ((perform World.unlucky (twoDomains "full.csv") []).result = .error (.file .noSpace) ∧
        (trace (twoDomains "full.csv")).map Effect.call? = twoDomainsCalls.map some ++ [none] ∧
        ∃ content, .wrote "full.csv" content (.error (.file .noSpace)) ∈
          trace (twoDomains "full.csv")) ∧
      (∃ pass content, (perform World.unlucky (twoDomains "r.csv") []).result = .ok pass ∧
        Table.file pass.rows = .ok content ∧
        (trace (twoDomains "r.csv")).map Effect.call? = twoDomainsCalls.map some ++ [none] ∧
        .wrote "r.csv" content (.ok ()) ∈ trace (twoDomains "r.csv")) ∧
      (perform World.unlucky repeated []).result =
        .error (.configValue "domains" "b" "Duplicate entry") ∧
      trace repeated = [] := by
  intro repeated trace
  have hstorage : ∀ path content t failure,
      (World.unlucky.storage.write path content t).1 = .error failure →
        failure.isConfigurationError = false := by
    intro path content t failure h
    rw [World.storage_unlucky] at h
    exact Storage.not_isConfigurationError_of_write_onDisk h
  have hfull : Files.Disk.temporary (Storage.resolve Storage.here "full.csv") = "./full.csv.tmp" := by
    decide +kernel
  have hroom : Files.Disk.temporary (Storage.resolve Storage.here "r.csv") ≠ "./full.csv.tmp" := by
    decide +kernel
  refine ⟨hstorage, ?_, ?_, ?_⟩
  · obtain ⟨_, hresult⟩ := exists_pass_twoDomains "full.csv"
    rw [if_pos hfull] at hresult
    obtain ⟨_, hfollows, _⟩ := effects_follow_result World.unlucky (twoDomains "full.csv") [] hstorage
    obtain ⟨content, hran⟩ := hfollows.attempted _ hresult rfl
    obtain ⟨hcalls, hwrote⟩ := map_call?_twoDomains hran
    exact ⟨hresult, hcalls, content, hwrote⟩
  · obtain ⟨pass, hresult⟩ := exists_pass_twoDomains "r.csv"
    rw [if_neg hroom] at hresult
    obtain ⟨_, hfollows, _⟩ := effects_follow_result World.unlucky (twoDomains "r.csv") [] hstorage
    obtain ⟨content, hfile, hran⟩ := hfollows.written _ hresult
    obtain ⟨hcalls, hwrote⟩ := map_call?_twoDomains hran
    exact ⟨pass, content, hresult, hfile, hcalls, hwrote⟩
  · have hresult := congrArg Performed.result
      (perform_of_locateAll_error World.unlucky (locateAll_repeated "r.csv"))
    obtain ⟨_, hfollows, _⟩ := effects_follow_result World.unlucky repeated [] hstorage
    exact ⟨hresult, hfollows.nothing _ hresult rfl⟩

end Pass
end PlannerTrials
