import PlannerTrials.Corpus.Locate
import PlannerTrials.Proofs.Files.View
import Mathlib.Data.List.Forall2
import Mathlib.Data.List.Nodup

/-!
# What locating all domains means

The search for the corpora goes through the domains and remembers those it has passed.  It succeeds
exactly if no domain is named twice and each one has a corpus (`locateAll_eq_ok_iff`), and every way in
which it can fail is a fault of the configuration or of the benchmark files
(`isConfigurationError_of_locateAll`), which is what makes it safe to look before anything is run.

## What is selected

`selection` are the names of the problems that are taken from a domain, and `outline` has them for all
domains from which any is taken.  A corpus keeps of a name only the path that it leads to, and gives the
name back as the last name of this path.  The two are the same on a file system whose folders
list what folders can hold (`FileView.Proper`): names without a slash, and neither of the two
names that stand for a folder itself and for the one above (`name_of_mem_selection`).
-/

namespace PlannerTrials
namespace Corpus

open Files

variable {config : Config} {view : FileView}

/-! ## Success -/

/-- The search goes on behind a domain that is new and has a corpus, and only there. -/
theorem locateFrom_cons_eq_ok_iff {earlier rest : List String} {domain : String}
    {corpora : List Corpus} :
    locateFrom config view earlier (domain :: rest) = .ok corpora ↔
      domain ∉ earlier ∧ ∃ corpus more, locate config view domain = .ok corpus ∧
        locateFrom config view (domain :: earlier) rest = .ok more ∧ corpora = corpus :: more := by
  rw [locateFrom]
  constructor
  · intro h
    split at h
    · exact absurd h (by simp)
    next hnew =>
    split at h
    · exact absurd h (by simp)
    next corpus hcorpus =>
    cases hrest : locateFrom config view (domain :: earlier) rest with
    | error failure =>
      rw [hrest] at h
      exact absurd h (by simp [Except.map])
    | ok more =>
      rw [hrest] at h
      exact ⟨hnew, corpus, more, hcorpus, rfl, (Except.ok.inj h).symm⟩
  · rintro ⟨hnew, corpus, more, hcorpus, hmore, rfl⟩
    rw [if_neg hnew, hcorpus, hmore]
    rfl

/-- The domains that are left can be located if they differ from each other and from the earlier ones. -/
theorem locateFrom_eq_ok_iff {earlier domains : List String} {corpora : List Corpus} :
    locateFrom config view earlier domains = .ok corpora ↔
      (domains.Nodup ∧ ∀ domain ∈ domains, domain ∉ earlier) ∧
        List.Forall₂ (fun domain corpus => locate config view domain = .ok corpus)
          domains corpora := by
  induction domains generalizing earlier corpora with
  | nil =>
    rw [locateFrom, List.forall₂_nil_left_iff, Except.ok.injEq]
    constructor
    · rintro rfl
      exact ⟨⟨List.nodup_nil, by simp⟩, rfl⟩
    · exact fun h => h.2.symm
  | cons domain rest ih =>
    rw [locateFrom_cons_eq_ok_iff, List.forall₂_cons_left_iff]
    constructor
    · rintro ⟨hnew, corpus, more, hcorpus, hrest, rfl⟩
      obtain ⟨⟨hnodup, hearlier⟩, hmore⟩ := ih.mp hrest
      have hfirst : domain ∉ rest := fun hmem => hearlier domain hmem List.mem_cons_self
      refine ⟨⟨List.nodup_cons.mpr ⟨hfirst, hnodup⟩, ?_⟩, corpus, more, hcorpus, hmore, rfl⟩
      intro other hother
      rcases List.mem_cons.mp hother with rfl | hother
      · exact hnew
      · exact fun hmem => hearlier other hother (List.mem_cons_of_mem _ hmem)
    · rintro ⟨⟨hnodup, hearlier⟩, corpus, more, hcorpus, hmore, rfl⟩
      obtain ⟨hfirst, hrest⟩ := List.nodup_cons.mp hnodup
      refine ⟨hearlier domain List.mem_cons_self, corpus, more, hcorpus, ih.mpr ⟨⟨hrest, ?_⟩, hmore⟩,
        rfl⟩
      intro other hother hmem
      rcases List.mem_cons.mp hmem with rfl | hmem
      · exact hfirst hother
      · exact hearlier other (List.mem_cons_of_mem _ hother) hmem

/-- **All domains are located** if and only if none is named twice and each has a corpus. -/
theorem locateAll_eq_ok_iff {corpora : List Corpus} :
    locateAll config view = .ok corpora ↔
      config.domains.Nodup ∧
        List.Forall₂ (fun domain corpus => locate config view domain = .ok corpus)
          config.domains corpora := by
  rw [locateAll, locateFrom_eq_ok_iff]
  simp only [List.not_mem_nil, not_false_eq_true, implies_true, and_true]

/-! ## Failure -/

theorem isConfigurationError_of_locate {domain : String} {failure : Failure}
    (h : locate config view domain = .error failure) : failure.isConfigurationError = true := by
  unfold locate namesIn at h
  simp only at h
  split at h
  · rw [← Except.error.inj h]
    rfl
  · split at h
    · rw [← Except.error.inj h]
      rfl
    · split at h
      · rw [← Except.error.inj h]
        rfl
      · exact absurd h (by simp [Except.map])

theorem isConfigurationError_of_locateFrom {earlier domains : List String} {failure : Failure}
    (h : locateFrom config view earlier domains = .error failure) :
    failure.isConfigurationError = true := by
  induction domains generalizing earlier with
  | nil => exact absurd h (by simp [locateFrom])
  | cons domain rest ih =>
    rw [locateFrom] at h
    split at h
    · rw [← Except.error.inj h]
      rfl
    · split at h
      · next hcorpus =>
        rw [← Except.error.inj h]
        exact isConfigurationError_of_locate hcorpus
      · cases hrest : locateFrom config view (domain :: earlier) rest with
        | error failure' =>
          rw [hrest] at h
          have hsame : failure' = failure := Except.error.inj h
          exact ih (hsame ▸ hrest)
        | ok more =>
          rw [hrest] at h
          exact absurd h (by simp [Except.map])

/-- **Whatever keeps a domain from being located** belongs to the configuration or to the benchmark files. -/
theorem isConfigurationError_of_locateAll {failure : Failure}
    (h : locateAll config view = .error failure) : failure.isConfigurationError = true :=
  isConfigurationError_of_locateFrom h

/-! ## Selected names -/

/-- The names of the problems that are taken from a domain. -/
def selection (config : Config) (view : FileView) (domain : String) : List String :=
  match namesIn config view domain with
  | .ok names => names.take config.sampleSize
  | .error _ => []

/-- The domains from which a problem is taken, each with the names of its problems. -/
def outline (config : Config) (view : FileView) : List (String × List String) :=
  (config.domains.map fun domain => (domain, selection config view domain)).filter
    fun entry => entry.2 ≠ []

/-- The name of a problem is the text of its entry and is written like such a name. -/
theorem eq_some_of_problemName? {folder name : String} {entry : Name}
    (h : problemName? config view folder entry = some name) :
    Utf8.decodeString? entry = some name ∧ isProblemName config name = true := by
  unfold problemName? at h
  split at h
  · exact absurd h (by simp)
  · next found hfound =>
    split at h
    · next hproblem =>
      obtain rfl := Option.some.inj h
      exact ⟨hfound, (Bool.and_eq_true_iff.mp hproblem).2⟩
    · exact absurd h (by simp)

/-- The name of a problem is the text of its entry. -/
theorem decodeString?_of_problemName? {folder name : String} {entry : Name}
    (h : problemName? config view folder entry = some name) :
    Utf8.decodeString? entry = some name :=
  (eq_some_of_problemName? h).1

/-- The name of a problem is found where a file has it. -/
theorem problemName?_of_isProblemName {folder name : String}
    (hfile : view.isFile (Path.join folder name) = true) (hname : isProblemName config name = true) :
    problemName? config view folder (Utf8.encodeString name) = some name := by
  rw [problemName?, Utf8.decodeString?_encodeString]
  exact if_pos (Bool.and_eq_true_iff.mpr ⟨hfile, hname⟩)

/-- The names of the problems of a domain are those that its folder lists, in order. -/
theorem exists_entries_of_namesIn {domain : String} {names : List String}
    (h : namesIn config view domain = .ok names) :
    ∃ entries, view.list (folderOf config domain) = .ok entries ∧
      names = (entries.filterMap (problemName? config view (folderOf config domain))).mergeSort
        nameBefore := by
  unfold namesIn at h
  simp only at h
  split at h
  · exact absurd h (by simp)
  · split at h
    · exact absurd h (by simp)
    · split at h
      · exact absurd h (by simp)
      · next entries hentries => exact ⟨entries, hentries, (Except.ok.inj h).symm⟩

/-- A selected name is the text of an entry of the folder of the domain, and the name of a problem. -/
theorem exists_entry_of_mem_selection {domain name : String}
    (h : name ∈ selection config view domain) :
    ∃ entries entry, view.list (folderOf config domain) = .ok entries ∧ entry ∈ entries ∧
      Utf8.decodeString? entry = some name ∧ isProblemName config name = true := by
  unfold selection at h
  split at h
  · next names hnames =>
    obtain ⟨entries, hentries, rfl⟩ := exists_entries_of_namesIn hnames
    have hmem := List.mem_mergeSort.mp (List.mem_of_mem_take h)
    obtain ⟨entry, hentry, hname⟩ := List.mem_filterMap.mp hmem
    exact ⟨entries, entry, hentries, hentry, eq_some_of_problemName? hname⟩
  · exact absurd h List.not_mem_nil

/-- A selected name is a step of a path. -/
theorem isName_of_mem_selection (hview : view.Proper) {domain name : String}
    (h : name ∈ selection config view domain) : Path.IsName name.toList := by
  obtain ⟨entries, entry, hentries, hentry, hname, -⟩ := exists_entry_of_mem_selection h
  exact (hview _ _ hentries entry hentry).isName hname

/-- No name is found twice in a folder that lists none twice: a name is the text of one entry only. -/
theorem nodup_filterMap_problemName? (hview : view.Distinct) {folder : String} {entries : List Name}
    (hentries : view.list folder = .ok entries) :
    (entries.filterMap (problemName? config view folder)).Nodup := by
  have htext : ∀ entry entry' name, name ∈ problemName? config view folder entry →
      name ∈ problemName? config view folder entry' → entry = entry' := by
    intro entry entry' name h h'
    rw [← Utf8.encodeString_of_decodeString? (decodeString?_of_problemName? h),
      ← Utf8.encodeString_of_decodeString? (decodeString?_of_problemName? h')]
  exact List.Nodup.filterMap htext (hview _ _ hentries)

/-- No name is selected twice from a folder that lists none twice. -/
theorem nodup_selection (hview : view.Distinct) (domain : String) :
    (selection config view domain).Nodup := by
  unfold selection
  split
  · next names hnames =>
    obtain ⟨entries, hentries, rfl⟩ := exists_entries_of_namesIn hnames
    refine List.Nodup.sublist (List.take_sublist _ _) ?_
    exact (List.mergeSort_perm _ _).nodup_iff.mpr (nodup_filterMap_problemName? hview hentries)
  · exact List.nodup_nil

/-- The last name of the path of a selected problem is the name that was selected. -/
theorem name_of_mem_selection (hview : view.Proper) {domain name : String}
    (h : name ∈ selection config view domain) :
    Problem.name ⟨domain, Path.join (folderOf config domain) name⟩ = name := by
  rw [Problem.name, Path.fileName?_join (isName_of_mem_selection hview h), Option.getD_some]

/-- A located corpus is made of the names of the problems of its domain. -/
theorem exists_names_of_locate {domain : String} {corpus : Corpus}
    (h : locate config view domain = .ok corpus) :
    ∃ names, namesIn config view domain = .ok names ∧ corpus = ofNames config domain names := by
  unfold locate at h
  cases hnames : namesIn config view domain with
  | error failure =>
    rw [hnames] at h
    exact absurd h (by simp [Except.map])
  | ok names =>
    rw [hnames] at h
    exact ⟨names, rfl, (Except.ok.inj h).symm⟩

/-- **A located corpus** has the problems that were selected from the folder of its domain. -/
theorem eq_of_locate {domain : String} {corpus : Corpus}
    (h : locate config view domain = .ok corpus) :
    corpus = ⟨domain, descriptionOf config domain, (selection config view domain).map fun name =>
      ⟨domain, Path.join (folderOf config domain) name⟩⟩ := by
  obtain ⟨names, hnames, rfl⟩ := exists_names_of_locate h
  rw [selection, hnames]
  rfl

/-- The located corpora are those of the configured domains. -/
theorem map_domain_of_locateAll {corpora : List Corpus} (h : locateAll config view = .ok corpora) :
    corpora.map Corpus.domain = config.domains := by
  have hdomains : List.Forall₂ Eq config.domains (corpora.map Corpus.domain) :=
    List.forall₂_map_right_iff.mpr
      ((locateAll_eq_ok_iff.mp h).2.imp fun domain corpus hlocate => by rw [eq_of_locate hlocate])
  rw [List.forall₂_eq_eq_eq] at hdomains
  exact hdomains.symm

/-- **A located corpus has the names of the selected problems**, in their order. -/
theorem map_name_of_locate (hview : view.Proper) {domain : String} {corpus : Corpus}
    (h : locate config view domain = .ok corpus) :
    corpus.domain = domain ∧ corpus.problems.map Problem.name = selection config view domain := by
  rw [eq_of_locate h]
  refine ⟨rfl, ?_⟩
  rw [List.map_map]
  exact (List.map_congr_left fun name hname => name_of_mem_selection hview hname).trans
    (List.map_id _)

/-- The path of a located problem has a last name. -/
theorem fileName?_of_locate (hview : view.Proper) {domain : String} {corpus : Corpus}
    (h : locate config view domain = .ok corpus) {problem : Problem}
    (hproblem : problem ∈ corpus.problems) :
    Path.fileName? problem.path = some problem.name := by
  rw [eq_of_locate h] at hproblem
  obtain ⟨name, hname, rfl⟩ := List.mem_map.mp hproblem
  rw [name_of_mem_selection hview hname]
  exact Path.fileName?_join (isName_of_mem_selection hview hname)

/-- Each of the located corpora is the one of a configured domain. -/
theorem exists_locate_of_mem {corpora : List Corpus} (h : locateAll config view = .ok corpora)
    {corpus : Corpus} (hcorpus : corpus ∈ corpora) :
    ∃ domain ∈ config.domains, locate config view domain = .ok corpus := by
  have hlocated := (locateAll_eq_ok_iff.mp h).2
  generalize config.domains = domains at hlocated
  clear h
  induction hlocated with
  | nil => exact absurd hcorpus List.not_mem_nil
  | @cons domain first domains rest hfirst _ ih =>
    rcases List.mem_cons.mp hcorpus with rfl | hrest
    · exact ⟨domain, List.mem_cons_self, hfirst⟩
    · obtain ⟨other, hother, hlocate⟩ := ih hrest
      exact ⟨other, List.mem_cons_of_mem _ hother, hlocate⟩

/-- Every located corpus has the description that the configuration gives to its domain. -/
theorem description_of_mem_locateAll {corpora : List Corpus}
    (h : locateAll config view = .ok corpora) :
    ∀ corpus ∈ corpora, corpus.description = descriptionOf config corpus.domain := by
  intro corpus hcorpus
  obtain ⟨domain, _, hlocate⟩ := exists_locate_of_mem h hcorpus
  rw [eq_of_locate hlocate]

/-! ## Events -/

/-- The search for corpora tells no errors. -/
theorem level_ne_error_of_mem_locateEvents {domain : String} {event : Event}
    (h : event ∈ locateEvents config view domain) : event.level ≠ .error := by
  unfold locateEvents at h
  split at h
  · exact absurd h List.not_mem_nil
  · rw [List.mem_singleton.mp h]
    exact Level.noConfusion

theorem level_ne_error_of_mem_locateEventsFrom {earlier domains : List String} {event : Event}
    (h : event ∈ locateEventsFrom config view earlier domains) : event.level ≠ .error := by
  induction domains generalizing earlier with
  | nil => exact absurd h List.not_mem_nil
  | cons domain rest ih =>
    rw [locateEventsFrom] at h
    split at h
    · exact absurd h List.not_mem_nil
    · split at h
      · exact level_ne_error_of_mem_locateEvents h
      · rcases List.mem_append.mp h with hdomain | hrest
        · exact level_ne_error_of_mem_locateEvents hdomain
        · rcases List.mem_cons.mp hrest with rfl | hrest
          · exact Level.noConfusion
          · exact ih hrest

end Corpus
end PlannerTrials
