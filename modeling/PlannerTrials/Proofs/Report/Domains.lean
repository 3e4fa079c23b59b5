import PlannerTrials.Config.Validation
import PlannerTrials.Proofs.Pass.Keys
import PlannerTrials.Proofs.Report.Balance
import PlannerTrials.Proofs.Report.Group

/-!
# Which domains survive the file

A table is written by one pass and read by a later report, which groups its records by their domains.
One would like to find the configured domains again: a group for each domain with a selected problem,
in the order of the configuration, with the names that were selected.  The reader takes the blanks off both
ends of every name, so this depends on the names, and `domains_survive_iff` says how: the
configured domains are found again if and only if no domain with a selected problem and no selected
name begins or ends with a blank.

## What goes wrong

A configuration may name a domain that begins with a blank, and a folder may hold such a file.
Nothing refuses either of them, and the writer keeps the blank, but the reader does not.  Then the
name has changed, and where two domains differ in nothing else their groups become one
(`groups_of_blank_domain`).

## Grouping in blocks

The rows of a domain stand together in the table of a pass.  `exists_groups_of_keys` cuts records into
groups along an outline, and grouping does nothing to groups that are separated already
(`Group.groups_flatMap_records`).
-/

namespace PlannerTrials

open Corpus (outline selection)

/-! ## Keys -/

/-- The names in a record. -/
def Record.key (record : Record) : String × String := (record.domain, record.problem)

/-- The domain of a group with the names of its problems. -/
def Group.outline (group : Group) : String × List String :=
  (group.domain, group.records.map Record.problem)

/-- Names without the blanks around them. -/
def trimmedKey (key : String × String) : String × String :=
  (Text.trimmed key.1, Text.trimmed key.2)

/-! ## Groups along an outline -/

/-- Records whose names follow an outline are groups with this outline, one after the other. -/
theorem exists_groups_of_keys {records : List Record} {entries : List (String × List String)}
    (h : records.map Record.key = outlineKeys entries) :
    ∃ gs : List Group, gs.flatMap Group.records = records ∧ gs.map Group.outline = entries ∧
      ∀ g ∈ gs, ∀ r ∈ g.records, r.domain = g.domain := by
  induction entries generalizing records with
  | nil =>
    have hnil : records = [] := List.map_eq_nil_iff.mp h
    exact ⟨[], hnil.symm, rfl, by simp⟩
  | cons entry entries ih =>
    have hkeys : outlineKeys (entry :: entries) =
        entry.2.map (fun name => (entry.1, name)) ++ outlineKeys entries := List.flatMap_cons
    rw [hkeys] at h
    obtain ⟨block, rest, rfl, hblock, hrest⟩ := List.map_eq_append_iff.mp h
    obtain ⟨gs, hrecords, houtline, huniform⟩ := ih hrest
    have hnames : block.map Record.problem = entry.2 := by
      have hseconds := congrArg (List.map Prod.snd) hblock
      rw [List.map_map, List.map_map] at hseconds
      exact hseconds.trans (List.map_id _)
    have hdomain : ∀ r ∈ block, r.domain = entry.1 := by
      intro r hr
      have hkey : Record.key r ∈ entry.2.map fun name => (entry.1, name) :=
        hblock ▸ List.mem_map_of_mem hr
      obtain ⟨name, _, hname⟩ := List.mem_map.mp hkey
      exact (congrArg Prod.fst hname).symm
    refine ⟨⟨entry.1, block⟩ :: gs, ?_, ?_, ?_⟩
    · rw [List.flatMap_cons, hrecords]
    · rw [List.map_cons, houtline, Group.outline, hnames]
    · intro g hg
      rcases List.mem_cons.mp hg with rfl | hg
      · exact hdomain
      · exact huniform g hg

/-- Grouping finds an outline again if its domains differ and have names. -/
theorem map_outline_groups {records : List Record} {entries : List (String × List String)}
    (h : records.map Record.key = outlineKeys entries) (hdistinct : (entries.map Prod.fst).Nodup)
    (hne : ∀ entry ∈ entries, entry.2 ≠ []) :
    (Group.groups records).map Group.outline = entries := by
  obtain ⟨gs, hrecords, houtline, huniform⟩ := exists_groups_of_keys h
  have hseparated : Group.Separated gs := by
    refine ⟨?_, huniform, ?_⟩
    · rw [← houtline, List.map_map] at hdistinct
      exact hdistinct
    · intro g hg hnil
      have hmem : g.outline ∈ entries := houtline ▸ List.mem_map_of_mem hg
      apply hne _ hmem
      rw [Group.outline, hnil, List.map_nil]
  rw [← hrecords, Group.groups_flatMap_records hseparated, houtline]

/-- What an outline of groups says about the records: each of its names is one of a record. -/
theorem exists_record_of_outline {records : List Record} {entries : List (String × List String)}
    (h : (Group.groups records).map Group.outline = entries) {entry : String × List String}
    (hentry : entry ∈ entries) :
    (∃ r ∈ records, r.domain = entry.1) ∧ ∀ name ∈ entry.2, ∃ r ∈ records, r.problem = name := by
  have hseparated := Group.separated_groups records
  rw [← h] at hentry
  obtain ⟨g, hg, rfl⟩ := List.mem_map.mp hentry
  constructor
  · obtain ⟨r, rest, hcons⟩ := List.exists_cons_of_ne_nil (hseparated.inhabited g hg)
    have hr : r ∈ g.records := hcons ▸ List.mem_cons_self
    exact ⟨r, Group.mem_of_mem_groups hg hr, hseparated.uniform g hg r hr⟩
  · intro name hname
    obtain ⟨r, hr, rfl⟩ := List.mem_map.mp hname
    exact ⟨r, Group.mem_of_mem_groups hg hr, rfl⟩

/-- **Trimmed records have the outline of their rows** if and only if no name in it was changed. -/
theorem map_outline_groups_iff {records : List Record} {entries : List (String × List String)}
    (h : records.map Record.key = (outlineKeys entries).map trimmedKey)
    (hdistinct : (entries.map Prod.fst).Nodup) (hne : ∀ entry ∈ entries, entry.2 ≠ []) :
    (Group.groups records).map Group.outline = entries ↔
      ∀ entry ∈ entries, Text.trimmed entry.1 = entry.1 ∧
        ∀ name ∈ entry.2, Text.trimmed name = name := by
  constructor
  · intro houtline entry hentry
    -- Every name in the groups is one of a record, and those have been trimmed.
    have htrimmed : ∀ r ∈ records,
        Text.trimmed r.domain = r.domain ∧ Text.trimmed r.problem = r.problem := by
      intro r hr
      have hkey : r.key ∈ (outlineKeys entries).map trimmedKey := h ▸ List.mem_map_of_mem hr
      obtain ⟨key, _, hkey⟩ := List.mem_map.mp hkey
      have hdomain : Text.trimmed key.1 = r.domain := congrArg Prod.fst hkey
      have hproblem : Text.trimmed key.2 = r.problem := congrArg Prod.snd hkey
      rw [← hdomain, ← hproblem, Text.trimmed_trimmed, Text.trimmed_trimmed]
      exact ⟨rfl, rfl⟩
    obtain ⟨⟨r, hr, hdomain⟩, hnames⟩ := exists_record_of_outline houtline hentry
    refine ⟨hdomain ▸ (htrimmed r hr).1, fun name hname => ?_⟩
    obtain ⟨r, hr, hproblem⟩ := hnames name hname
    exact hproblem ▸ (htrimmed r hr).2
  · intro hkept
    have hsame : (outlineKeys entries).map trimmedKey = outlineKeys entries := by
      refine (List.map_congr_left fun key hkey => ?_).trans (List.map_id _)
      obtain ⟨entry, hentry, hkey⟩ := List.mem_flatMap.mp hkey
      obtain ⟨name, hname, rfl⟩ := List.mem_map.mp hkey
      exact Prod.ext (hkept entry hentry).1 ((hkept entry hentry).2 name hname)
    exact map_outline_groups (h.trans hsame) hdistinct hne

/-! ## The file of a pass -/

section Files

variable {σ : Type} {world : World σ} {disk : Files.Disk σ} {base : String} {config : Config}
  {s : σ} {pass : Pass} {content : Bytes}

/-- A pass that has succeeded has located its domains and written the table of its trials. -/
theorem Pass.exists_corpora_of_perform_ok (h : (Pass.perform world config s).result = .ok pass) :
    ∃ corpora, Corpus.locateAll config (world.view s) = .ok corpora ∧
      pass = (Pass.ofCorpora world.invoker.invoke corpora s).1 ∧
      (Pass.runAndWrite world config corpora s).1 = .ok () ∧
      (Pass.perform world config s).state = (Pass.runAndWrite world config corpora s).2 := by
  cases hlocate : Corpus.locateAll config (world.view s) with
  | error failure =>
    rw [Pass.perform_of_locateAll_error world hlocate] at h
    exact absurd h (by simp)
  | ok corpora =>
    obtain ⟨hresult, hstate⟩ := Pass.perform_of_locateAll_ok world hlocate
    rw [hresult] at h
    cases hwrite : (Pass.runAndWrite world config corpora s).1 with
    | error failure =>
      rw [hwrite] at h
      exact absurd h (by simp [Except.map])
    | ok wrote =>
      rw [hwrite] at h
      exact ⟨corpora, rfl, (Except.ok.inj h).symm, hwrite, hstate⟩

/-- What is read after a pass is the table of its rows. -/
theorem Pass.content_of_perform_ok (hstorage : world.storage = Storage.onDisk disk base)
    (hdisk : disk.Keeps) (hrun : (Pass.perform world config s).result = .ok pass)
    (hread : world.storage.read config.outputPath (Pass.perform world config s).state =
      .ok content) : content = Table.encode pass.rows := by
  obtain ⟨corpora, _, rfl, hwrite, hstate⟩ := Pass.exists_corpora_of_perform_ok hrun
  rw [hstate] at hread
  unfold Pass.runAndWrite at hwrite hread
  rw [hstorage] at hwrite hread
  exact Storage.content_of_read_onDisk hdisk hwrite hread

/-- The table of a pass is read as records with the trimmed names of its outline. -/
theorem Pass.exists_records_of_perform_ok (hstorage : world.storage = Storage.onDisk disk base)
    (hdisk : disk.Keeps) (hview : (world.view s).Proper)
    (hrun : (Pass.perform world config s).result = .ok pass)
    (hread : world.storage.read config.outputPath (Pass.perform world config s).state =
      .ok content) :
    ∃ records, Table.read content = .ok records ∧ records.map Record.key =
      (outlineKeys (outline config (world.view s))).map trimmedKey := by
  have hcontent := Pass.content_of_perform_ok hstorage hdisk hrun hread
  obtain ⟨corpora, hlocate, hpass, _, _⟩ := Pass.exists_corpora_of_perform_ok hrun
  have hkeys := map_key_rows world.invoker.invoke s hview hlocate
  refine ⟨pass.rows.map fun row => row.record.trimmed, ?_, ?_⟩
  · rw [hcontent]
    exact Table.read_encode fun row hrow => Pass.fits_of_mem_rows hrow
  · rw [← hkeys, ← hpass, List.map_map, List.map_map]
    rfl

/-- **Which domains survive the file.**  After a pass that has succeeded the written file, if it can be
read, has for each selected name of each configured domain a record with the trimmed names, in
the order of the pass.  Grouping them gives back exactly the configured domains with their selected
names if and only if neither the domains nor the names begin or end with a blank. -/
theorem domains_survive_iff (world : World σ) (disk : Files.Disk σ) (base : String)
    (config : Config) (s : σ) (pass : Pass) (content : Bytes)
    (hstorage : world.storage = Storage.onDisk disk base) (hdisk : disk.Keeps)
    (hview : (world.view s).Proper) (hrun : (Pass.perform world config s).result = .ok pass)
    (hread : world.storage.read config.outputPath (Pass.perform world config s).state =
      .ok content) :
    ∃ records, Table.read content = .ok records ∧
      records.map Record.key = (outlineKeys (outline config (world.view s))).map trimmedKey ∧
      ((Group.groups records).map Group.outline = outline config (world.view s) ↔
        ∀ entry ∈ outline config (world.view s), Text.trimmed entry.1 = entry.1 ∧
          ∀ name ∈ entry.2, Text.trimmed name = name) := by
  obtain ⟨records, hrecords, hkeys⟩ :=
    Pass.exists_records_of_perform_ok hstorage hdisk hview hrun hread
  obtain ⟨corpora, hlocate, _, _, _⟩ := Pass.exists_corpora_of_perform_ok hrun
  have hdistinct := nodup_outline_domains (world.view s)
    (Corpus.locateAll_eq_ok_iff.mp hlocate).1
  exact ⟨records, hrecords, hkeys,
    map_outline_groups_iff hkeys hdistinct fun entry hentry => outline_names_ne_nil hentry⟩

end Files

/-! ## Two worlds -/

theorem Pass.perform_listing_eq {names : List Files.Name} {config : Config} {corpora : List Corpus}
    (h : Corpus.locateAll config ((World.listing names).view []) = .ok corpora) :
    (Pass.perform (World.listing names) config []).result =
        .ok (Pass.ofCorpora (World.listing names).invoker.invoke corpora []).1 ∧
      (World.listing names).storage.read config.outputPath
          (Pass.perform (World.listing names) config []).state =
        .ok (Table.encode
          (Pass.ofCorpora (World.listing names).invoker.invoke corpora []).1.rows) := by
  obtain ⟨hresult, hstate⟩ := Pass.perform_of_locateAll_ok (World.listing names) h
  obtain ⟨hwrite, hread⟩ := Storage.write_read_memory Storage.here config.outputPath
    (Table.encode (Pass.ofCorpora (World.listing names).invoker.invoke corpora []).1.rows)
    (Pass.ofCorpora (World.listing names).invoker.invoke corpora []).2
  rw [← World.storage_listing names] at hwrite hread
  rw [hresult, hstate, Pass.runAndWrite, hwrite]
  exact ⟨rfl, hread⟩

/-- In such a world a pass over different domains succeeds and its file can be read. -/
theorem Pass.exists_perform_listing (names : List Files.Name) {config : Config}
    (h : config.domains.Nodup) :
    ∃ pass content, (Pass.perform (World.listing names) config []).result = .ok pass ∧
      (World.listing names).storage.read config.outputPath
        (Pass.perform (World.listing names) config []).state = .ok content := by
  obtain ⟨corpora, hlocate⟩ := World.exists_locateAll_listing names [] h
  exact ⟨_, _, Pass.perform_listing_eq hlocate⟩

/-- Domains without blanks are found again. -/
theorem domains_survive_of_plain_names :
    let world := World.listing plainNames
    let config : Config := { domains := ["a", "b"], sampleSize := 1 }
    ∃ pass content records, world.storage = Storage.onDisk Files.Disk.memory Storage.here ∧
      Files.Disk.memory.Keeps ∧ (world.view []).Proper ∧
      (Pass.perform world config []).result = .ok pass ∧
      world.storage.read config.outputPath (Pass.perform world config []).state = .ok content ∧
      Table.read content = .ok records ∧
      (Group.groups records).map Group.outline = [("a", ["p01.pddl"]), ("b", ["p01.pddl"])] := by
  intro world config
  have hproper := proper_listing_plainNames []
  have houtline : outline config (world.view []) = [("a", ["p01.pddl"]), ("b", ["p01.pddl"])] :=
    outline_listing_plainNames rfl rfl rfl []
  have hdistinct : config.domains.Nodup := by decide
  obtain ⟨pass, content, hrun, hread⟩ := Pass.exists_perform_listing plainNames hdistinct
  obtain ⟨records, hrecords, _, hiff⟩ := domains_survive_iff world Files.Disk.memory Storage.here
    config [] pass content rfl Files.Disk.keeps_memory hproper hrun hread
  rw [houtline] at hiff
  exact ⟨pass, content, records, rfl, Files.Disk.keeps_memory, hproper, hrun, hread, hrecords,
    hiff.mpr (by decide)⟩

/-- A configuration with two domains that differ only in a blank. -/
def blankDomain : Config :=
  { benchmarksFolder := "b", domains := [" a", "a"], sampleSize := 1, outputPath := "r.csv",
    solvers := [("SAT", { program := "true" }), ("HSP", { program := "true" })] }

/-- **A domain that begins with a blank does not survive the file.**  The configuration is accepted, the
pass succeeds and its file is read, but the two configured domains are one group. -/
theorem groups_of_blank_domain :
    let world := World.listing plainNames
    blankDomain.validate = .ok () ∧
    ∃ pass content records, (Pass.perform world blankDomain []).result = .ok pass ∧
      world.storage.read blankDomain.outputPath (Pass.perform world blankDomain []).state =
        .ok content ∧
      Table.read content = .ok records ∧
      (Group.groups records).map Group.outline = [("a", ["p01.pddl", "p01.pddl"])] ∧
      outline blankDomain (world.view []) = [(" a", ["p01.pddl"]), ("a", ["p01.pddl"])] ∧
      (Group.groups records).map Group.outline ≠ outline blankDomain (world.view []) := by
  intro world
  have hvalid : blankDomain.validate = .ok () := rfl
  have houtline : outline blankDomain (world.view []) =
      [(" a", ["p01.pddl"]), ("a", ["p01.pddl"])] := outline_listing_plainNames rfl rfl rfl []
  have hdistinct : blankDomain.domains.Nodup := by decide
  obtain ⟨pass, content, hrun, hread⟩ := Pass.exists_perform_listing plainNames hdistinct
  obtain ⟨records, hrecords, hkeys⟩ := Pass.exists_records_of_perform_ok rfl
    Files.Disk.keeps_memory (proper_listing_plainNames []) hrun hread
  have hmerged : records.map Record.key = outlineKeys [("a", ["p01.pddl", "p01.pddl"])] := by
    rw [hkeys, houtline]
    decide
  have hgroups := map_outline_groups hmerged (by decide) (by decide)
  refine ⟨hvalid, pass, content, records, hrun, hread, hrecords, hgroups, houtline, ?_⟩
  rw [hgroups, houtline]
  decide

end PlannerTrials
