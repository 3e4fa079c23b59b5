import PlannerTrials.Proofs.Pass.Enumeration

/-!
# The keys of a table

A row is known by its key, the name of its domain and the name of its problem.  No table looks at the
keys of its rows when it takes a new one, yet in the table of a pass they are pairwise distinct,
and a key leads back to the file that both solvers were run on (`rows_are_keyed`).  Three things
work together for this: no domain is configured twice, a folder lists no name twice, and joining a name to any
folder at all adds one step, so that the last step of the path gives the name back.

The keys of a pass are those of its outline, the configured domains with their selected names
(`map_key_rows`).
-/

namespace PlannerTrials

open Corpus (outline selection)

/-! ## Keys -/

/-- The names in a row. -/
def Row.key (row : Row) : String × String := (row.domain, row.problem)

/-- The names that stand in the rows of an outline. -/
def outlineKeys (entries : List (String × List String)) : List (String × String) :=
  entries.flatMap fun entry => entry.2.map fun name => (entry.1, name)

/-- Entries without names have no rows. -/
theorem outlineKeys_filter (entries : List (String × List String)) :
    outlineKeys (entries.filter fun entry => entry.2 ≠ []) = outlineKeys entries := by
  induction entries with
  | nil => rfl
  | cons entry entries ih =>
    unfold outlineKeys at ih ⊢
    rw [List.filter_cons, List.flatMap_cons]
    split
    · rw [List.flatMap_cons, ih]
    · next hempty =>
      have hnil : entry.2 = [] := by simpa using hempty
      rw [hnil, List.map_nil, List.nil_append, ih]

/-! ## The rows of a pass -/

section Rows

variable {config : Config} {view : Files.FileView}

theorem outline_names_ne_nil {entry : String × List String} (h : entry ∈ outline config view) :
    entry.2 ≠ [] := by
  simpa using (List.mem_filter.mp h).2

variable (view) in
theorem nodup_outline_domains (h : config.domains.Nodup) :
    ((outline config view).map Prod.fst).Nodup := by
  have hsub : ((outline config view).map Prod.fst).Sublist
      ((config.domains.map fun domain => (domain, selection config view domain)).map Prod.fst) :=
    List.filter_sublist.map Prod.fst
  rw [List.map_map] at hsub
  exact List.Nodup.sublist hsub (by simpa [Function.comp_def] using h)

/-- The rows of the located domains, one for each selected name. -/
theorem flatMap_problems_of_located (hview : view.Proper) {domains : List String}
    {corpora : List Corpus}
    (h : List.Forall₂ (fun domain corpus => Corpus.locate config view domain = .ok corpus)
      domains corpora) :
    (corpora.flatMap fun corpus => corpus.problems.map fun p => (corpus.domain, p.name)) =
      outlineKeys (domains.map fun domain => (domain, selection config view domain)) := by
  induction h with
  | nil => rfl
  | @cons domain corpus domains corpora hcorpus _ ih =>
    obtain ⟨hdomain, hnames⟩ := Corpus.map_name_of_locate hview hcorpus
    have hkeys : outlineKeys ((domain :: domains).map fun d => (d, selection config view d)) =
        (selection config view domain).map (fun name => (domain, name)) ++
          outlineKeys (domains.map fun d => (d, selection config view d)) := List.flatMap_cons
    rw [hkeys, List.flatMap_cons, ih, hdomain, ← hnames, List.map_map]
    rfl

/-- **The rows of a pass are those of its outline**: the configured domains in their order, each with its
selected names in their order. -/
theorem map_key_rows {σ : Type} (invoke : Call → σ → Invocation × σ) (s : σ)
    (hview : view.Proper) {corpora : List Corpus}
    (h : Corpus.locateAll config view = .ok corpora) :
    (Pass.ofCorpora invoke corpora s).1.rows.map Row.key = outlineKeys (outline config view) := by
  have hsubjects : (Pass.ofCorpora invoke corpora s).1.rows.map Row.key =
      ((trialsOf invoke corpora s).1.map Trial.subject).map fun subject =>
        (subject.1, subject.2.2.name) := by
    rw [Pass.rows, List.map_map, List.map_map, Pass.ofCorpora_eq]
    rfl
  have hproblems : (corpora.flatMap Corpus.subjects).map
      (fun subject => (subject.1, subject.2.2.name)) =
        corpora.flatMap fun corpus => corpus.problems.map fun p => (corpus.domain, p.name) := by
    rw [List.map_flatMap]
    congr 1
    funext corpus
    rw [Corpus.subjects, List.map_map]
    rfl
  rw [hsubjects, map_subject_trialsOf, hproblems,
    flatMap_problems_of_located hview (Corpus.locateAll_eq_ok_iff.mp h).2, outline,
    outlineKeys_filter]

/-! ## Distinct keys -/

/-- Keys are distinct if the domains are and no domain has a name twice. -/
theorem nodup_outlineKeys {entries : List (String × List String)}
    (hdomains : (entries.map Prod.fst).Nodup) (hnames : ∀ entry ∈ entries, entry.2.Nodup) :
    (outlineKeys entries).Nodup := by
  refine List.nodup_flatMap.mpr ⟨fun entry hentry => ?_, ?_⟩
  · exact (hnames entry hentry).map fun _ _ h => congrArg Prod.snd h
  · refine (List.pairwise_map.mp hdomains).imp fun {entry other} hne key hkey hkey' => ?_
    obtain ⟨name, _, rfl⟩ := List.mem_map.mp hkey
    obtain ⟨name', _, hsame⟩ := List.mem_map.mp hkey'
    exact hne (congrArg Prod.fst hsame).symm

/-- The entries of an outline are configured domains with what is selected from them. -/
theorem mem_outline {entry : String × List String} (h : entry ∈ outline config view) :
    entry.1 ∈ config.domains ∧ entry.2 = selection config view entry.1 := by
  obtain ⟨domain, hdomain, rfl⟩ := List.mem_map.mp (List.mem_filter.mp h).1
  exact ⟨hdomain, rfl⟩

/-- **The keys of an outline are pairwise distinct** if no domain is configured twice and no folder
lists a name twice. -/
theorem nodup_outlineKeys_outline (hview : view.Distinct) (h : config.domains.Nodup) :
    (outlineKeys (outline config view)).Nodup := by
  refine nodup_outlineKeys (nodup_outline_domains view h) fun entry hentry => ?_
  rw [(mem_outline hentry).2]
  exact Corpus.nodup_selection hview entry.1

/-! ## From a key to a file -/

/-- A located problem is found again from its domain and its name. -/
theorem path_of_located (hview : view.Proper) {domain : String} {corpus : Corpus}
    (h : Corpus.locate config view domain = .ok corpus) {problem : Problem}
    (hproblem : problem ∈ corpus.problems) :
    problem.path = Path.join (Corpus.folderOf config corpus.domain) problem.name := by
  rw [Corpus.eq_of_locate h] at hproblem ⊢
  obtain ⟨name, hname, rfl⟩ := List.mem_map.mp hproblem
  rw [Corpus.name_of_mem_selection hview hname]

/-- The calls of a trial are known from the key of its row. -/
theorem calls_of_located (hview : view.Proper) {domains : List String} {corpora : List Corpus}
    (h : List.Forall₂ (fun domain corpus => Corpus.locate config view domain = .ok corpus)
      domains corpora) {trial : Trial} (htrial : trial.subject ∈ corpora.flatMap Corpus.subjects) :
    trial.calls = Solver.all.map fun solver =>
      ⟨solver, Corpus.descriptionOf config trial.row.domain,
        Path.join (Corpus.folderOf config trial.row.domain) trial.row.problem⟩ := by
  induction h with
  | nil => exact absurd htrial List.not_mem_nil
  | @cons domain corpus domains corpora hcorpus _ ih =>
    rw [List.flatMap_cons, List.mem_append] at htrial
    rcases htrial with htrial | htrial
    · obtain ⟨problem, hproblem, hsubject⟩ := List.mem_map.mp htrial
      obtain ⟨_, _, _, sat, hsp⟩ := trial
      obtain ⟨rfl, hrest⟩ := Prod.mk.inj hsubject
      obtain ⟨rfl, rfl⟩ := Prod.mk.inj hrest
      have hdescription : corpus.description = Corpus.descriptionOf config corpus.domain := by
        rw [Corpus.eq_of_locate hcorpus]
      show Solver.all.map (fun solver => Call.mk solver corpus.description problem.path) = _
      rw [hdescription, path_of_located hview hcorpus hproblem]
      rfl
    · exact ih htrial

end Rows

/-! ## The keys in a world of listings -/

theorem proper_listing_plainNames (s : List (String × Bytes)) :
    ((World.listing plainNames).view s).Proper := by
  intro folder entries hentries name hname
  obtain rfl : plainNames = entries := Except.ok.inj hentries
  rw [List.mem_singleton.mp hname]
  decide

theorem distinct_listing_plainNames (s : List (String × Bytes)) :
    ((World.listing plainNames).view s).Distinct := by
  intro folder entries hentries
  obtain rfl : plainNames = entries := Except.ok.inj hentries
  exact List.nodup_singleton _

section PlainNames

variable {config : Config} (hstart : config.problemStart = "p") (hend : config.problemEnd = ".pddl")
  (hsize : config.sampleSize = 1) (s : List (String × Bytes))

include hstart hend hsize

/-- The outline of a configuration that asks for such names. -/
theorem outline_listing_plainNames :
    outline config ((World.listing plainNames).view s) =
      config.domains.map fun domain => (domain, ["p01.pddl"]) := by
  rw [outline]
  simp only [selection_listing_plainNames hstart hend hsize s]
  exact List.filter_eq_self.mpr (by simp)

end PlainNames

/-! ## The table of a pass -/

theorem Trial.map_call?_effects (trial : Trial) :
    trial.effects.map Effect.call? = trial.calls.map some := rfl

namespace Pass

section Drive

variable {σ : Type} (world : World σ) {config : Config} {s : σ}

/-- A pass whose domains are located runs all trials and nothing else. -/
theorem drive_of_locateAll_ok {corpora : List Corpus}
    (h : Corpus.locateAll config (world.view s) = .ok corpora) :
    (drive world config s).result = .ok (ofCorpora world.invoker.invoke corpora s).1 ∧
      (drive world config s).state = (ofCorpora world.invoker.invoke corpora s).2 := by
  unfold drive
  rw [h]
  exact ⟨rfl, rfl⟩

/-- A pass whose domains are not located fails as their search did. -/
theorem drive_of_locateAll_error {failure : Failure}
    (h : Corpus.locateAll config (world.view s) = .error failure) :
    (drive world config s).result = .error failure := by
  unfold drive
  rw [h]

/-- A pass that has been run has located its domains. -/
theorem exists_corpora_of_drive_ok {pass : Pass} (h : (drive world config s).result = .ok pass) :
    ∃ corpora, Corpus.locateAll config (world.view s) = .ok corpora := by
  cases hlocate : Corpus.locateAll config (world.view s) with
  | error failure => exact absurd ((drive_of_locateAll_error world hlocate).symm.trans h) (by simp)
  | ok corpora => exact ⟨corpora, rfl⟩

/-- **The rows of a pass are known by their keys, and a key leads to the file that was run.**  On a file
system whose folders list distinct names that folders can hold, the keys in the table of a
pass are pairwise distinct and start with configured domains, and what a recorded pass does is to call, for
each row, both solvers on the file that the benchmarks folder, the domain and the name of the row lead
to. -/
theorem rows_are_keyed (config : Config) (s : σ) (pass : Pass) (hview : (world.view s).Proper)
    (hdistinct : (world.view s).Distinct) (hrun : (drive world config s).result = .ok pass) :
    let recorded := drive world.recorded config (s, [])
    recorded.result = .ok pass ∧ recorded.state.1 = (drive world config s).state ∧
      (pass.rows.map fun row => (row.domain, row.problem)).Nodup ∧
      (∀ row ∈ pass.rows, row.domain ∈ config.domains) ∧
      recorded.state.2.map Effect.call? = pass.rows.flatMap fun row =>
        Solver.all.map fun solver =>
          some ⟨solver, Corpus.descriptionOf config row.domain,
            Path.join (Path.join config.benchmarksFolder row.domain) row.problem⟩ := by
  intro recorded
  obtain ⟨corpora, hlocate⟩ := exists_corpora_of_drive_ok world hrun
  obtain ⟨hdomains, hcorpora⟩ := Corpus.locateAll_eq_ok_iff.mp hlocate
  obtain ⟨hresult, hstate⟩ := drive_of_locateAll_ok world hlocate
  obtain ⟨hresult', hstate'⟩ := drive_of_locateAll_ok world.recorded (s := (s, [])) hlocate
  have hpass : (ofCorpora world.invoker.invoke corpora s).1 = pass :=
    Except.ok.inj (hresult.symm.trans hrun)
  have hrecorded := ofCorpora_recorded_eq world corpora s []
  rw [hpass, List.nil_append] at hrecorded
  have hkeys : pass.rows.map Row.key = outlineKeys (outline config (world.view s)) := by
    rw [← hpass]
    exact map_key_rows world.invoker.invoke s hview hlocate
  have hsubjects : pass.trials.map Trial.subject = corpora.flatMap Corpus.subjects := by
    rw [← hpass]
    exact map_subject_trialsOf world.invoker.invoke corpora s
  refine ⟨?_, ?_, ?_, ?_, ?_⟩
  · rw [hresult', hrecorded]
  · rw [hstate', hrecorded, hstate]
  · exact hkeys ▸ nodup_outlineKeys_outline hdistinct hdomains
  · intro row hrow
    have hkey : row.key ∈ outlineKeys (outline config (world.view s)) :=
      hkeys ▸ List.mem_map_of_mem hrow
    obtain ⟨entry, hentry, hname⟩ := List.mem_flatMap.mp hkey
    obtain ⟨name, _, hsame⟩ := List.mem_map.mp hname
    have hdomain : entry.1 = row.domain := congrArg Prod.fst hsame
    exact hdomain ▸ (mem_outline hentry).1
  · rw [hstate', hrecorded, rows, List.map_flatMap, List.flatMap_map]
    refine List.flatMap_congr fun trial htrial => ?_
    have hsubject : trial.subject ∈ corpora.flatMap Corpus.subjects :=
      hsubjects ▸ List.mem_map_of_mem htrial
    rw [Trial.map_call?_effects, calls_of_located hview hcorpora hsubject, List.map_map]
    rfl

end Drive

/-- Domains that are empty, a path of their own, the folder itself or a path of two steps. -/
theorem rows_are_keyed_of_awkward_domains :
    let world := World.listing plainNames
    let config : Config :=
      { benchmarksFolder := "b//", domains := ["", "/c/", ".", "d/e"], sampleSize := 1 }
    (world.view []).Proper ∧ (world.view []).Distinct ∧
      ∃ pass, (drive world config []).result = .ok pass ∧
        pass.rows.map Row.key =
          [("", "p01.pddl"), ("/c/", "p01.pddl"), (".", "p01.pddl"), ("d/e", "p01.pddl")] ∧
        let recorded := drive world.recorded config ([], [])
        recorded.result = .ok pass ∧ recorded.state.1 = (drive world config []).state ∧
          (pass.rows.map fun row => (row.domain, row.problem)).Nodup ∧
          (∀ row ∈ pass.rows, row.domain ∈ config.domains) ∧
          recorded.state.2.map Effect.call? = pass.rows.flatMap fun row =>
            Solver.all.map fun solver =>
              some ⟨solver, Corpus.descriptionOf config row.domain,
                Path.join (Path.join config.benchmarksFolder row.domain) row.problem⟩ := by
  intro world config
  have hproper := proper_listing_plainNames []
  have hdistinct := distinct_listing_plainNames []
  have hlocated : ∃ corpora, Corpus.locateAll config (world.view []) = .ok corpora :=
    World.exists_locateAll_listing plainNames [] (by decide)
  obtain ⟨corpora, hlocate⟩ := hlocated
  obtain ⟨hresult, _⟩ := drive_of_locateAll_ok world hlocate
  have hkeys := map_key_rows world.invoker.invoke [] hproper hlocate
  rw [outline_listing_plainNames rfl rfl rfl []] at hkeys
  exact ⟨hproper, hdistinct, _, hresult, hkeys,
    rows_are_keyed world config [] _ hproper hdistinct hresult⟩

end Pass

end PlannerTrials
