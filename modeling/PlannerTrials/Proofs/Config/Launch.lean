import PlannerTrials.Pass.Launch
import PlannerTrials.Proofs.Config.Validation
import PlannerTrials.Proofs.Corpus.FirstFault

/-!
# What a validated configuration is good for

Validation is asked once, and everything behind it relies on the answer.  A call is answered with what the
configuration has for the solver (`Config.launches`), and it would have to be told of a solver that there is no such
way; the search for the corpora looks for repeated domains a second time.  Neither of the two happens under a
validated configuration, however programs are launched (`Config.validation_suffices`).

The ways to launch a solver are stored under names, and there is no order among them: a name has one entry, and
going through the entries meets them in any order.  A list of entries stands for this here, so the order has to
be shown not to matter.  What validation accepts is therefore said twice.  `Config.Usable` looks for the entry of
each solver, the first one under its name.  `Config.IsComplete` speaks of all entries and of their names, so that
any other order of the same entries is complete too, and the two agree where no name has two
entries (`Config.usable_iff_isComplete`).
-/

namespace PlannerTrials

/-- What is found under a name is its entry, if no name has two. -/
theorem lookup_eq_some_iff_mem {α : Type} {entries : List (String × α)}
    (h : (entries.map Prod.fst).Nodup) {name : String} {value : α} :
    entries.lookup name = some value ↔ (name, value) ∈ entries := by
  induction entries with
  | nil => simp
  | cons entry entries ih =>
    obtain ⟨other, first⟩ := entry
    obtain ⟨hother, hrest⟩ := List.nodup_cons.mp h
    by_cases hname : name = other
    · subst hname
      have hnone : (name, value) ∉ entries := fun hmem =>
        hother (List.mem_map.mpr ⟨_, hmem, rfl⟩)
      rw [List.lookup_cons_self, List.mem_cons, or_iff_left hnone, Option.some.injEq, Prod.mk.injEq,
        eq_comm]
      exact (and_iff_right rfl).symm
    · have hdifferent : (name == other) = false := beq_eq_false_iff_ne.mpr hname
      rw [List.lookup_cons, hdifferent, List.mem_cons, ← ih hrest]
      exact (or_iff_right fun heq => hname (Prod.mk.inj heq).1).symm

theorem Solver.ofName?_eq_some_iff {name : String} {solver : Solver} :
    ofName? name = some solver ↔ name = solver.name := by
  constructor
  · intro h
    have hname := List.find?_some h
    exact (of_decide_eq_true hname).symm
  · rintro rfl
    exact ofName?_name solver

namespace Config

variable {config : Config}

/-! ## Entries without an order -/

/-- What a pass needs of a configuration, said of all entries for solvers together. -/
structure IsComplete (config : Config) : Prop where
  benchmarksFolder : config.benchmarksFolder ≠ "" ∧ '\x00' ∉ config.benchmarksFolder.toList
  outputPath : config.outputPath ≠ "" ∧ '\x00' ∉ config.outputPath.toList
  domains : config.domains ≠ [] ∧ config.domains.Nodup
  segments : ∀ name ∈ config.descriptionName :: config.domains, Rule.IsSegmentName name
  sampleSize : 1 ≤ config.sampleSize
  problemEnd : Rule.IsVisible config.problemEnd
  /-- The names with an entry are those of the solvers. -/
  names : ∀ name, name ∈ config.solvers.map Prod.fst ↔ name = "SAT" ∨ name = "HSP"
  programs : ∀ entry ∈ config.solvers, Rule.IsVisible entry.2.program

/-- The names of the solvers. -/
theorem exists_solver_iff {name : String} :
    (∃ solver : Solver, name = solver.name) ↔ name = "SAT" ∨ name = "HSP" := by
  constructor
  · rintro ⟨_ | _, rfl⟩
    · exact .inl rfl
    · exact .inr rfl
  · rintro (rfl | rfl)
    · exact ⟨.sat, rfl⟩
    · exact ⟨.hsp, rfl⟩

section Entries

variable (hentries : (config.solvers.map Prod.fst).Nodup)

include hentries

theorem spec?_eq_some_iff {solver : Solver} {spec : LaunchSpec} :
    config.spec? solver = some spec ↔ (solver.name, spec) ∈ config.solvers :=
  lookup_eq_some_iff_mem hentries

/-- Only solvers have an entry, and each has one with a program, if and only if the names with an entry are those
of the solvers and all entries have a program. -/
theorem solvers_iff :
    ((∀ entry ∈ config.solvers, ∃ solver, Solver.ofName? entry.1 = some solver) ∧
        ∀ solver, ∃ spec, config.spec? solver = some spec ∧ Rule.IsVisible spec.program) ↔
      (∀ name, name ∈ config.solvers.map Prod.fst ↔ name = "SAT" ∨ name = "HSP") ∧
        ∀ entry ∈ config.solvers, Rule.IsVisible entry.2.program := by
  simp only [Solver.ofName?_eq_some_iff, spec?_eq_some_iff hentries, ← exists_solver_iff]
  constructor
  · rintro ⟨hknown, hprograms⟩
    refine ⟨fun name => ⟨?_, ?_⟩, fun entry hentry => ?_⟩
    · intro hname
      obtain ⟨entry, hentry, rfl⟩ := List.mem_map.mp hname
      exact hknown entry hentry
    · rintro ⟨solver, rfl⟩
      obtain ⟨spec, hspec, -⟩ := hprograms solver
      exact List.mem_map_of_mem hspec
    · -- An entry belongs to a solver, and the solver has only this one.
      obtain ⟨solver, hsolver⟩ := hknown entry hentry
      obtain ⟨spec, hspec, hvisible⟩ := hprograms solver
      have hsame : spec = entry.2 := by
        have hfound := (lookup_eq_some_iff_mem hentries).mpr hspec
        rw [← hsolver, (lookup_eq_some_iff_mem hentries).mpr hentry] at hfound
        exact (Option.some.inj hfound).symm
      exact hsame ▸ hvisible
  · rintro ⟨hnames, hvisible⟩
    refine ⟨fun entry hentry => (hnames entry.1).mp (List.mem_map_of_mem hentry), fun solver => ?_⟩
    obtain ⟨⟨name, spec⟩, hentry, rfl⟩ := List.mem_map.mp ((hnames solver.name).mpr ⟨solver, rfl⟩)
    exact ⟨spec, hentry, hvisible _ hentry⟩

/-- **Usable is complete**, where no name has two entries. -/
theorem usable_iff_isComplete : config.Usable ↔ config.IsComplete := by
  constructor
  · intro h
    obtain ⟨hnames, hprograms⟩ := (solvers_iff hentries).mp ⟨h.known, h.programs⟩
    exact ⟨h.benchmarksFolder, h.outputPath, ⟨h.domains_ne_nil, h.nodup_domains⟩,
      List.forall_mem_cons.mpr ⟨h.isSegmentName_description, h.isSegmentName_domain⟩,
      h.one_le_sampleSize, h.isVisible_problemEnd, hnames, hprograms⟩
  · intro h
    obtain ⟨hknown, hprograms⟩ := (solvers_iff hentries).mpr ⟨h.names, h.programs⟩
    obtain ⟨hdescription, hdomains⟩ := List.forall_mem_cons.mp h.segments
    exact ⟨h.benchmarksFolder, h.outputPath, h.domains.1, hdomains, h.domains.2, h.sampleSize,
      hdescription, h.problemEnd, hknown, hprograms⟩

end Entries

/-- The configuration with its entries for solvers in another order. -/
def reordered (config : Config) (order : List (String × LaunchSpec)) : Config :=
  { config with solvers := order }

/-- Another order of the entries is as complete. -/
theorem isComplete_reordered_iff {order : List (String × LaunchSpec)}
    (h : order.Perm config.solvers) : (config.reordered order).IsComplete ↔ config.IsComplete := by
  have hnames : ∀ name, name ∈ order.map Prod.fst ↔ name ∈ config.solvers.map Prod.fst := fun _ =>
    (h.map Prod.fst).mem_iff
  constructor
  · rintro ⟨hfolder, houtput, hdomains, hsegments, hsize, hend, hsolvers, hprograms⟩
    exact ⟨hfolder, houtput, hdomains, hsegments, hsize, hend,
      fun name => (hnames name).symm.trans (hsolvers name),
      fun entry hentry => hprograms entry (h.mem_iff.mpr hentry)⟩
  · rintro ⟨hfolder, houtput, hdomains, hsegments, hsize, hend, hsolvers, hprograms⟩
    exact ⟨hfolder, houtput, hdomains, hsegments, hsize, hend,
      fun name => (hnames name).trans (hsolvers name),
      fun entry hentry => hprograms entry (h.mem_iff.mp hentry)⟩

/-! ## Ways to launch a solver -/

/-- What is found for a solver is what the configuration has for it. -/
theorem lookup_launches (config : Config) (solver : Solver) :
    config.launches.lookup solver = config.spec? solver := by
  have hsat : (Solver.hsp == Solver.sat) = false := rfl
  have hhsp : (Solver.sat == Solver.hsp) = false := rfl
  unfold launches Solver.all
  cases solver with
  | sat =>
    cases hspec : config.spec? .sat with
    | some spec => simp [hspec]
    | none => cases hother : config.spec? .hsp <;> simp [hspec, hother, List.lookup_cons, hhsp]
  | hsp =>
    cases hspec : config.spec? .hsp <;> cases hother : config.spec? .sat <;>
      simp [hspec, hother, List.lookup_cons, hsat]

/-- Under a usable configuration, both solvers can be launched. -/
theorem map_fst_launches (h : config.Usable) : config.launches.map Prod.fst = Solver.all := by
  obtain ⟨sat, hsat, -⟩ := h.programs .sat
  obtain ⟨hsp, hhsp, -⟩ := h.programs .hsp
  simp [launches, Solver.all, hsat, hhsp]

end Config

namespace Config

/-- The answer to the call of a solver that the configuration does not say how to launch. -/
def notConfigured (solver : Solver) : Outcome :=
  .notLaunched ("no launch command configured for " ++ solver.name)

/-- However a program ends, the answer tells more than that the solver is not configured. -/
theorem outcome_answer_ne_notConfigured (program : String) (elapsed : Elapsed)
    (result : Except Files.Fault Exit) (solver : Solver) :
    (Launch.answer program elapsed result).outcome ≠ notConfigured solver := by
  cases result with
  | ok exit => exact Outcome.noConfusion
  | error fault =>
    intro heq
    have htext := congrArg String.toList (Outcome.notLaunched.inj heq)
    simp only [String.toList_append] at htext
    exact absurd (List.cons.inj htext).1 (by decide)

/-- The answer is given only to calls of solvers without a way to launch them. -/
theorem outcome_invoke_ne_notConfigured {σ : Type} {config : Config} {call : Call}
    {spec : LaunchSpec} (h : config.launches.lookup call.solver = some spec) (launch : Launch σ)
    (s : σ) : (config.invoke launch call s).1.outcome ≠ notConfigured call.solver := by
  rw [invoke, h]
  exact outcome_answer_ne_notConfigured _ _ _ _

end Config

namespace Corpus

variable {config : Config} {view : Files.FileView}

/-- The search for one corpus does not tell that a domain is repeated. -/
theorem locate_ne_repeatedDomain (config : Config) (view : Files.FileView) (domain other : String) :
    locate config view domain ≠ .error (repeatedDomain other) := by
  unfold locate namesIn
  simp only
  split
  · exact fun h => by cases h
  · split
    · exact fun h => by cases h
    · split <;> exact fun h => by cases h

/-- The search for the corpora of distinct domains does not tell that one is repeated. -/
theorem locateAll_ne_repeatedDomain (h : config.domains.Nodup) (domain : String) :
    locateAll config view ≠ .error (repeatedDomain domain) := by
  intro hfailed
  rcases exists_corpora_or_firstFault config view config.domains with ⟨corpora, hall⟩ | ⟨i, hfirst⟩
  · cases hfailed.symm.trans hall
  · obtain ⟨hi, -⟩ := hfirst.fault
    have hnew : config.domains[i] ∉ config.domains.take i := by
      have hdrop : config.domains[i] ∈ config.domains.drop i := by
        rw [List.drop_eq_getElem_cons hi]
        exact List.mem_cons_self
      exact fun htake => List.disjoint_take_drop h (Nat.le_refl i) htake hdrop
    obtain ⟨failure, hlocate, hstops⟩ :=
      (locateFrom_of_isFirstFault hi hfirst (config.domains.drop (i + 1))).2 hnew
    rw [List.take_append_drop] at hstops
    rw [← Except.error.inj (hfailed.symm.trans hstops)] at hlocate
    exact locate_ne_repeatedDomain config view _ _ hlocate

end Corpus

namespace Config

/-- **Validation suffices for what comes after it.**  In whatever order the entries for solvers are met, the
configurations that are accepted are the complete ones.  Under such a configuration, there is a way to launch both
solvers, for each of them the one of its own entry; so no call is answered by saying that the solver is
not configured, however programs are launched.  And the search for the corpora finds no domain repeated, whatever
files there are. -/
theorem validation_suffices (config : Config) (hentries : (config.solvers.map Prod.fst).Nodup)
    (order : List (String × LaunchSpec)) (horder : order.Perm config.solvers) :
    ((config.reordered order).validate = .ok () ↔ config.IsComplete) ∧
    ((config.reordered order).validate = .ok () →
      (config.reordered order).launches.map Prod.fst = Solver.all ∧
      (∀ solver spec, (config.reordered order).launches.lookup solver = some spec ↔
        (solver.name, spec) ∈ config.solvers) ∧
      (∀ (σ : Type) (launch : Launch σ) call s,
        ((config.reordered order).invoke launch call s).1.outcome ≠ notConfigured call.solver) ∧
      ∀ view domain, Corpus.locateAll (config.reordered order) view ≠
        .error (.configValue "domains" domain "Duplicate entry")) := by
  have hreordered : ((config.reordered order).solvers.map Prod.fst).Nodup :=
    (horder.map Prod.fst).nodup_iff.mpr hentries
  refine ⟨?_, fun hvalid => ?_⟩
  · rw [validate_eq_ok_iff, usable_iff_isComplete hreordered, isComplete_reordered_iff horder]
  · have husable := validate_eq_ok_iff.mp hvalid
    refine ⟨map_fst_launches husable, fun solver spec => ?_, fun σ launch call s => ?_,
      fun view domain => Corpus.locateAll_ne_repeatedDomain husable.nodup_domains domain⟩
    · rw [lookup_launches, spec?_eq_some_iff hreordered]
      exact horder.mem_iff
    · obtain ⟨spec, hspec, -⟩ := husable.programs call.solver
      rw [← lookup_launches] at hspec
      exact outcome_invoke_ne_notConfigured hspec launch s

/-- A configuration for two planners. -/
def twoPlanners : Config :=
  { domains := ["gripper", "depots"],
    solvers := [("SAT", { program := "java", arguments := ["-jar", "sat.jar"] }),
      ("HSP", { program := "mvn" })] }

/-- The planner with the second entry is found under its own name if its entry comes first. -/
theorem validation_suffices_for_twoPlanners :
    let order := twoPlanners.solvers.reverse
    (twoPlanners.solvers.map Prod.fst).Nodup ∧ order.Perm twoPlanners.solvers ∧
      (twoPlanners.reordered order).validate = .ok () ∧ twoPlanners.IsComplete ∧
      (twoPlanners.reordered order).launches.lookup .hsp = some { program := "mvn" } ∧
      Corpus.locateAll (twoPlanners.reordered order) Corpus.withoutLogistics ≠
        .error (.configValue "domains" "depots" "Duplicate entry") := by
  intro order
  have hentries : (twoPlanners.solvers.map Prod.fst).Nodup := by decide
  have horder : order.Perm twoPlanners.solvers := List.reverse_perm _
  have hvalid : (twoPlanners.reordered order).validate = .ok () := by decide
  obtain ⟨hiff, hafter⟩ := validation_suffices twoPlanners hentries order horder
  obtain ⟨-, hlookup, -, hlocate⟩ := hafter hvalid
  refine ⟨hentries, horder, hvalid, hiff.mp hvalid, (hlookup _ _).mpr ?_, hlocate _ _⟩
  exact List.mem_cons_of_mem _ List.mem_cons_self

end Config
end PlannerTrials
