import PlannerTrials.Proofs.Config.Validation
import PlannerTrials.Proofs.Corpus.Locate
import PlannerTrials.Proofs.Pass.Keys

/-!
# A usable configuration stays in its folder

A configuration names domains and a description, and each of these names is joined to a path.  Joining an
arbitrary text could lead anywhere: a text that starts with a slash replaces the path, two points lead
out of the folder, a single point or an empty text leave the path as it is, and a slash in the middle
leads further down.  Validation refuses all of these, and `Corpus.stays_inside` says what this is worth:
all files that a pass looks for are exactly one step below the folder of their domain, this folder
is exactly one step below the benchmarks folder, and no folder of a domain is in that of another one.

The benchmarks folder itself is not restricted.  It may be empty, start at the root, end with slashes or
have points among its names, and the names may be made of three points, blanks or control characters:
the steps of a path are compared, not its text.

What is selected are names that a folder lists, and of these the file system promises that they are
steps of a path (`FileView.Proper`); validation has no part in it.
-/

namespace PlannerTrials

namespace Path

/-- A path takes the steps of a folder and one step more, a name. -/
def IsEntry (folder name path : String) : Prop :=
  components path = components folder ++ [.name name.toList]

section Entries

variable {folder name name' path path' : String}

theorem isEntry_join (h : IsName name.toList) : IsEntry folder name (join folder name) :=
  components_join h

/-- No entry of a folder is another one of the same folder or inside it. -/
theorem IsEntry.not_isPrefix (h : IsEntry folder name path) (h' : IsEntry folder name' path')
    (hne : name ≠ name') : ¬ components path <+: components path' := by
  intro hprefix
  rw [show components path = _ from h, show components path' = _ from h'] at hprefix
  have hsame := hprefix.eq_of_length (by simp)
  have hstep := List.cons.inj (List.append_cancel_left hsame)
  exact hne (String.toList_inj.mp (Component.name.inj hstep.1))

end Entries

end Path

namespace Corpus

open Files

variable {config : Config} {view : FileView} {domain : String} {corpus : Corpus}

/-! ## Where the files of a domain are -/

/-- The folder of a domain is an entry of the benchmarks folder. -/
theorem isEntry_folderOf (h : config.Usable) (hdomain : domain ∈ config.domains) :
    Path.IsEntry config.benchmarksFolder domain (folderOf config domain) :=
  Path.isEntry_join (h.isSegmentName_domain domain hdomain).isName

/-- The description of a domain is an entry of its folder. -/
theorem isEntry_description (h : config.Usable) (hcorpus : locate config view domain = .ok corpus) :
    Path.IsEntry (folderOf config domain) config.descriptionName corpus.description := by
  rw [eq_of_locate hcorpus]
  exact Path.isEntry_join h.isSegmentName_description.isName

/-- The problems of a domain are entries of its folder.  This needs no usable configuration. -/
theorem isEntry_problem (hview : view.Proper) (hcorpus : locate config view domain = .ok corpus)
    {problem : Problem} (hproblem : problem ∈ corpus.problems) :
    Path.IsEntry (folderOf config domain) problem.name problem.path ∧
      isProblemName config problem.name = true := by
  rw [eq_of_locate hcorpus] at hproblem
  obtain ⟨name, hname, rfl⟩ := List.mem_map.mp hproblem
  obtain ⟨_, _, _, _, _, hproblemName⟩ := exists_entry_of_mem_selection hname
  rw [name_of_mem_selection hview hname]
  exact ⟨Path.isEntry_join (isName_of_mem_selection hview hname), hproblemName⟩

/-! ## Containment -/

/-- **A validated configuration stays in its folder.**  The folder of each domain is one step below the
benchmarks folder, the step being the domain; the description and the problems of a located corpus are one
step below the folder of the domain, and the last step of a problem is the name of a problem; and the folders
of different domains are apart. -/
theorem stays_inside (config : Config) (hvalid : config.validate = .ok ()) :
    (∀ domain ∈ config.domains,
      Path.IsEntry config.benchmarksFolder domain (folderOf config domain) ∧
      ∀ view corpus, locate config view domain = .ok corpus →
        Path.IsEntry (folderOf config domain) config.descriptionName corpus.description ∧
        (view.Proper → ∀ problem ∈ corpus.problems,
          Path.IsEntry (folderOf config domain) problem.name problem.path ∧
            isProblemName config problem.name = true)) ∧
    ∀ domain ∈ config.domains, ∀ other ∈ config.domains, domain ≠ other →
      ¬ Path.components (folderOf config domain) <+: Path.components (folderOf config other) := by
  have husable := Config.validate_eq_ok_iff.mp hvalid
  constructor
  · intro domain hdomain
    refine ⟨isEntry_folderOf husable hdomain, fun view corpus hcorpus => ?_⟩
    exact ⟨isEntry_description husable hcorpus,
      fun hview problem hproblem => isEntry_problem hview hcorpus hproblem⟩
  · intro domain hdomain other hother hne
    exact (isEntry_folderOf husable hdomain).not_isPrefix (isEntry_folderOf husable hother) hne

/-- A configuration with names that look like paths but are none, below a folder that is written in an
unusual way. -/
def awkwardNames : Config :=
  { benchmarksFolder := "/../b//./", domains := ["...", " a", "a\n"], descriptionName := "~",
    sampleSize := 1,
    solvers := [("SAT", { program := "true" }), ("HSP", { program := "true" })] }

/-- Three points are a name: what is found below them is two steps below the benchmarks folder. -/
theorem stays_inside_of_awkward_names :
    awkwardNames.validate = .ok () ∧
    (((World.listing plainNames).view []).Proper ∧
      ∃ corpus, locate awkwardNames ((World.listing plainNames).view []) "..." = .ok corpus ∧
        Path.components corpus.description =
          [.root, .up, .name ['b'], .name ['.', '.', '.'], .name ['~']] ∧
        corpus.problems ≠ [] ∧
        ∀ problem ∈ corpus.problems, Path.components problem.path =
          [.root, .up, .name ['b'], .name ['.', '.', '.'], .name problem.name.toList]) ∧
    ¬ Path.components (folderOf awkwardNames " a") <+:
      Path.components (folderOf awkwardNames "a\n") := by
  have hvalid : awkwardNames.validate = .ok () := rfl
  have hproper := proper_listing_plainNames []
  obtain ⟨hinside, hapart⟩ := stays_inside awkwardNames hvalid
  obtain ⟨hfolder, hfiles⟩ := hinside "..." (by decide)
  have hsteps : Path.components (folderOf awkwardNames "...") =
      [.root, .up, .name ['b'], .name ['.', '.', '.']] := hfolder.trans (by decide)
  have hcorpus : ∃ corpus,
      locate awkwardNames ((World.listing plainNames).view []) "..." = .ok corpus := ⟨_, rfl⟩
  obtain ⟨corpus, hcorpus⟩ := hcorpus
  obtain ⟨hdescription, hproblems⟩ := hfiles _ corpus hcorpus
  refine ⟨hvalid, ⟨hproper, corpus, hcorpus, ?_, ?_, ?_⟩, hapart " a" (by decide) "a\n" (by decide)
    (by decide)⟩
  · rw [show Path.components corpus.description = _ from hdescription, hsteps]
    rfl
  · rw [eq_of_locate hcorpus, selection_listing_plainNames rfl rfl rfl]
    exact List.cons_ne_nil _ _
  · intro problem hproblem
    rw [show Path.components problem.path = _ from (hproblems hproper problem hproblem).1, hsteps]
    rfl

end Corpus
end PlannerTrials
