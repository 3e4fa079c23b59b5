import PlannerTrials.Config.Validation
import PlannerTrials.Proofs.Path

/-!
# What validation accepts

Validation goes through its rules one after the other and stops at the first one that is not kept.
`Config.validate_eq_ok_iff` says which configurations it accepts, without an order: those that are
`Config.Usable`.  Each rule has a lemma of its own that says what it accepts, and the lemma on validation
only puts them together.

The rule for names is the one that matters beyond validation: a name that it accepts is one step of a path
(`Rule.IsSegmentName.isName`), so that joining it to a folder leads to an entry of this folder.
-/

namespace PlannerTrials

/-! ## Rules one after the other -/

section Sequences

variable {ε α : Type}

theorem bind_eq_ok_iff {first next : Except ε Unit} :
    (first >>= fun _ => next) = .ok () ↔ first = .ok () ∧ next = .ok () := by
  cases first with
  | error fault => simp [bind, Except.bind]
  | ok done => simp [bind, Except.bind]

theorem forM_eq_ok_iff {check : α → Except ε Unit} {items : List α} :
    items.forM check = .ok () ↔ ∀ item ∈ items, check item = .ok () := by
  induction items with
  | nil => exact iff_of_true rfl (by simp)
  | cons item items ih =>
    change (check item >>= fun _ => items.forM check) = .ok () ↔ _
    rw [bind_eq_ok_iff, ih, List.forall_mem_cons]

end Sequences

/-- A check does not fail with anything but a fault of the configuration. -/
def BlamesConfiguration (check : Except Failure Unit) : Prop :=
  ∀ failure, check = .error failure → failure.isConfigurationError = true

namespace BlamesConfiguration

theorem ok : BlamesConfiguration (.ok ()) := fun _ h => by cases h

theorem error {failure : Failure} (h : failure.isConfigurationError = true) :
    BlamesConfiguration (.error failure) := by
  intro other hother
  rw [← Except.error.inj hother]
  exact h

theorem bind {first next : Except Failure Unit} (hfirst : BlamesConfiguration first)
    (hnext : BlamesConfiguration next) : BlamesConfiguration (first >>= fun _ => next) := by
  cases first with
  | error failure => exact error (hfirst failure rfl)
  | ok done => exact hnext

theorem forM {α : Type} {check : α → Except Failure Unit}
    (h : ∀ item, BlamesConfiguration (check item)) (items : List α) :
    BlamesConfiguration (items.forM check) := by
  induction items with
  | nil => exact ok
  | cons item items ih => exact (h item).bind ih

end BlamesConfiguration

namespace Rule

/-- A text has a character that is not blank. -/
def IsVisible (value : String) : Prop := ∃ c ∈ value.toList, Text.isBlank c = false

/-- A name that leads from a folder to an entry of it, on any system. -/
structure IsSegmentName (value : String) : Prop where
  visible : IsVisible value
  ne_here : value ≠ "."
  ne_up : value ≠ ".."
  slash_not_mem : '/' ∉ value.toList
  backslash_not_mem : '\\' ∉ value.toList

/-- **A name that is accepted is a step of a path.** -/
theorem IsSegmentName.isName {value : String} (h : IsSegmentName value) :
    Path.IsName value.toList := by
  have hne : ∀ {text : String}, value ≠ text → value.toList ≠ text.toList := fun hne heq =>
    hne (String.toList_inj.mp heq)
  refine ⟨?_, hne h.ne_here, hne h.ne_up, h.slash_not_mem⟩
  obtain ⟨c, hc, -⟩ := h.visible
  exact List.ne_nil_of_mem hc

variable {field value : String}

theorem path_eq_ok_iff : path field value = .ok () ↔ value ≠ "" ∧ '\x00' ∉ value.toList := by
  unfold path
  split
  · next hempty => simp [hempty]
  · next hne =>
    split
    · next hnul => simpa using fun _ => by simpa using hnul
    · next hnul => simpa using ⟨hne, by simpa using hnul⟩

theorem atLeast_eq_ok_iff {number least : Nat} :
    atLeast field number least = .ok () ↔ least ≤ number := by
  unfold atLeast
  split
  · next hless => simpa using hless
  · next hleast => simpa using hleast

theorem notBlank_eq_ok_iff : notBlank field value = .ok () ↔ IsVisible value := by
  unfold notBlank IsVisible
  split
  · next hblank =>
    simp only [reduceCtorEq, false_iff, not_exists, not_and]
    intro c hc
    simpa using List.all_eq_true.mp hblank c hc
  · next hblank =>
    simp only [true_iff]
    simpa [Text.isBlankString] using hblank

theorem notEmpty_eq_ok_iff {values : List String} :
    notEmpty field values = .ok () ↔ values ≠ [] := by
  unfold notEmpty
  split
  · next hempty => simp [hempty]
  · next hne => simpa using hne

theorem distinctFrom_eq_ok_iff {earlier values : List String} :
    distinctFrom field earlier values = .ok () ↔
      values.Nodup ∧ ∀ value ∈ values, value ∉ earlier := by
  induction values generalizing earlier with
  | nil => simp [distinctFrom]
  | cons value rest ih =>
    rw [distinctFrom, List.nodup_cons, List.forall_mem_cons]
    split
    · next hearlier => simp [hearlier]
    · next hnew =>
      rw [ih]
      constructor
      · rintro ⟨hnodup, hother⟩
        exact ⟨⟨fun hmem => hother value hmem List.mem_cons_self, hnodup⟩, hnew,
          fun other hmem hearlier => hother other hmem (List.mem_cons_of_mem _ hearlier)⟩
      · rintro ⟨⟨hfirst, hnodup⟩, -, hother⟩
        refine ⟨hnodup, fun other hmem hearlier => ?_⟩
        rcases List.mem_cons.mp hearlier with rfl | hearlier
        · exact hfirst hmem
        · exact hother other hmem hearlier

theorem distinct_eq_ok_iff {values : List String} :
    distinct field values = .ok () ↔ values.Nodup := by
  rw [distinct, distinctFrom_eq_ok_iff]
  simp

theorem segment_eq_ok_iff : segment field value = .ok () ↔ IsSegmentName value := by
  unfold segment
  rw [bind_eq_ok_iff, notBlank_eq_ok_iff]
  have hsegment : isSegment value = true ↔
      value ≠ "." ∧ value ≠ ".." ∧ '/' ∉ value.toList ∧ '\\' ∉ value.toList := by
    simp [isSegment, and_assoc]
  constructor
  · rintro ⟨hvisible, h⟩
    split at h
    · next hname =>
      obtain ⟨hhere, hup, hslash, hbackslash⟩ := hsegment.mp hname
      exact ⟨hvisible, hhere, hup, hslash, hbackslash⟩
    · cases h
  · intro h
    refine ⟨h.visible, ?_⟩
    rw [if_pos (hsegment.mpr ⟨h.ne_here, h.ne_up, h.slash_not_mem, h.backslash_not_mem⟩)]

section Failures

variable (field value : String)

theorem blamesConfiguration_path : BlamesConfiguration (path field value) := by
  unfold path
  split
  · exact .error rfl
  · split
    · exact .error rfl
    · exact .ok

theorem blamesConfiguration_atLeast (number least : Nat) :
    BlamesConfiguration (atLeast field number least) := by
  unfold atLeast
  split
  · exact .error rfl
  · exact .ok

theorem blamesConfiguration_notBlank : BlamesConfiguration (notBlank field value) := by
  unfold notBlank
  split
  · exact .error rfl
  · exact .ok

theorem blamesConfiguration_notEmpty (values : List String) :
    BlamesConfiguration (notEmpty field values) := by
  unfold notEmpty
  split
  · exact .error rfl
  · exact .ok

theorem blamesConfiguration_distinctFrom (earlier values : List String) :
    BlamesConfiguration (distinctFrom field earlier values) := by
  induction values generalizing earlier with
  | nil => exact .ok
  | cons value rest ih =>
    rw [distinctFrom]
    split
    · exact .error rfl
    · exact ih (value :: earlier)

theorem blamesConfiguration_segment : BlamesConfiguration (segment field value) := by
  refine (blamesConfiguration_notBlank field value).bind ?_
  split
  · exact .ok
  · exact .error rfl

end Failures

end Rule

namespace Config

/-! ## Solvers -/

theorem checkNames_eq_ok_iff {solvers : List (String × LaunchSpec)} :
    checkNames solvers = .ok () ↔
      ∀ entry ∈ solvers, ∃ solver, Solver.ofName? entry.1 = some solver := by
  induction solvers with
  | nil => simp [checkNames]
  | cons entry rest ih =>
    obtain ⟨name, spec⟩ := entry
    rw [checkNames, List.forall_mem_cons]
    split
    · next solver hsolver => rw [ih, and_iff_right ⟨solver, hsolver⟩]
    · next hnone => simp [hnone]

theorem checkProgram_eq_ok_iff {config : Config} {solver : Solver} :
    config.checkProgram solver = .ok () ↔
      ∃ spec, config.spec? solver = some spec ∧ Rule.IsVisible spec.program := by
  unfold checkProgram
  split
  · next hnone => simp [hnone]
  · next spec hspec => simp [hspec, Rule.notBlank_eq_ok_iff]

/-! ## Configurations -/

/-- What a pass needs of a configuration. -/
structure Usable (config : Config) : Prop where
  benchmarksFolder : config.benchmarksFolder ≠ "" ∧ '\x00' ∉ config.benchmarksFolder.toList
  outputPath : config.outputPath ≠ "" ∧ '\x00' ∉ config.outputPath.toList
  domains_ne_nil : config.domains ≠ []
  isSegmentName_domain : ∀ domain ∈ config.domains, Rule.IsSegmentName domain
  nodup_domains : config.domains.Nodup
  one_le_sampleSize : 1 ≤ config.sampleSize
  isSegmentName_description : Rule.IsSegmentName config.descriptionName
  isVisible_problemEnd : Rule.IsVisible config.problemEnd
  /-- Only solvers have an entry. -/
  known : ∀ entry ∈ config.solvers, ∃ solver, Solver.ofName? entry.1 = some solver
  /-- Every solver has an entry with a program. -/
  programs : ∀ solver, ∃ spec, config.spec? solver = some spec ∧ Rule.IsVisible spec.program

/-- **Validation accepts exactly the usable configurations.** -/
theorem validate_eq_ok_iff {config : Config} : config.validate = .ok () ↔ config.Usable := by
  unfold validate
  simp only [bind_eq_ok_iff, forM_eq_ok_iff, Rule.path_eq_ok_iff, Rule.notEmpty_eq_ok_iff,
    Rule.segment_eq_ok_iff, Rule.distinct_eq_ok_iff, Rule.atLeast_eq_ok_iff,
    Rule.notBlank_eq_ok_iff, checkNames_eq_ok_iff, checkProgram_eq_ok_iff]
  constructor
  · rintro ⟨hfolder, houtput, hdomains, hsegments, hnodup, hsize, hdescription, hend, hknown,
      hprograms⟩
    exact ⟨hfolder, houtput, hdomains, hsegments, hnodup, hsize, hdescription, hend, hknown,
      fun solver => hprograms solver (Solver.mem_all solver)⟩
  · intro h
    exact ⟨h.benchmarksFolder, h.outputPath, h.domains_ne_nil, h.isSegmentName_domain,
      h.nodup_domains, h.one_le_sampleSize, h.isSegmentName_description, h.isVisible_problemEnd,
      h.known, fun solver _ => h.programs solver⟩

/-! ## Failures -/

theorem blamesConfiguration_checkNames (solvers : List (String × LaunchSpec)) :
    BlamesConfiguration (checkNames solvers) := by
  induction solvers with
  | nil => exact .ok
  | cons entry rest ih =>
    obtain ⟨name, spec⟩ := entry
    rw [checkNames]
    split
    · exact ih
    · exact .error rfl

theorem blamesConfiguration_checkProgram (config : Config) (solver : Solver) :
    BlamesConfiguration (config.checkProgram solver) := by
  unfold checkProgram
  split
  · exact .error rfl
  · exact Rule.blamesConfiguration_notBlank _ _

/-- **Whatever validation refuses is a fault of the configuration.** -/
theorem blamesConfiguration_validate (config : Config) : BlamesConfiguration config.validate :=
  (Rule.blamesConfiguration_path _ _).bind <|
    (Rule.blamesConfiguration_path _ _).bind <|
    (Rule.blamesConfiguration_notEmpty _ _).bind <|
    (BlamesConfiguration.forM (Rule.blamesConfiguration_segment _) _).bind <|
    (Rule.blamesConfiguration_distinctFrom _ _ _).bind <|
    (Rule.blamesConfiguration_atLeast _ _ _).bind <|
    (Rule.blamesConfiguration_segment _ _).bind <|
    (Rule.blamesConfiguration_notBlank _ _).bind <|
    (blamesConfiguration_checkNames _).bind <|
    BlamesConfiguration.forM (blamesConfiguration_checkProgram config) _

end Config
end PlannerTrials
