import PlannerTrials.Proofs.Corpus.Selection
import Mathlib.Data.Nat.Find

/-!
# Where the search for the corpora stops

The search for the corpora goes through the configured domains and remembers those it has passed.  A domain
can stop it in two ways, by being among the passed ones and by having no corpus, and of the domains
behind it nothing is asked any more.  So the search is all or nothing, and the failure belongs to the first
domain that stops it (`Corpus.locates_all_or_first_fault`).

Which of two failures is told is a matter of places only: a domain that is missing wins over one that is
repeated if it is named before the repetition, and loses if it is named behind it.  A domain that is missing
and named twice stops the search at its first place, so it is told to be missing.

What the search has passed is the part of the list before the place, which is what `locateFrom_append` is
about: behind domains that have been located, the search is the search with these domains as the earlier
ones.
-/

namespace PlannerTrials
namespace Corpus

open Files

variable {config : Config} {view : FileView}

/-! ## Going on behind located domains -/

/-- Behind domains that have been located, the search goes on with these as the earlier ones. -/
theorem locateFrom_append {earlier before : List String} {corpora : List Corpus}
    (h : locateFrom config view earlier before = .ok corpora) (rest : List String) :
    locateFrom config view earlier (before ++ rest) =
      (locateFrom config view (before.reverse ++ earlier) rest).map (corpora ++ ·) := by
  induction before generalizing earlier corpora with
  | nil =>
    obtain rfl : [] = corpora := Except.ok.inj h
    cases hrest : locateFrom config view earlier rest with
    | error failure => simp [hrest, Except.map]
    | ok more => simp [hrest, Except.map]
  | cons domain before ih =>
    obtain ⟨hnew, corpus, more, hcorpus, hmore, rfl⟩ := locateFrom_cons_eq_ok_iff.mp h
    rw [List.cons_append, locateFrom, if_neg hnew, hcorpus, List.reverse_cons, List.append_assoc,
      List.singleton_append]
    simp only [ih hmore]
    cases locateFrom config view (before.reverse ++ domain :: earlier) rest with
    | error failure => rfl
    | ok others => rfl

/-- The search stops at a domain that has been passed. -/
theorem locateFrom_cons_of_mem {earlier : List String} {domain : String} (h : domain ∈ earlier)
    (rest : List String) :
    locateFrom config view earlier (domain :: rest) = .error (repeatedDomain domain) := by
  rw [locateFrom, if_pos h]

/-- The search stops at a new domain that has no corpus. -/
theorem locateFrom_cons_of_error {earlier : List String} {domain : String} (h : domain ∉ earlier)
    {failure : Failure} (hlocate : locate config view domain = .error failure) (rest : List String) :
    locateFrom config view earlier (domain :: rest) = .error failure := by
  rw [locateFrom, if_neg h, hlocate]

/-! ## Faults -/

/-- The domain at a place cannot be located behind the earlier ones: it is one of them, or has no corpus. -/
def FaultAt (config : Config) (view : FileView) (domains : List String) (i : Nat) : Prop :=
  ∃ _ : i < domains.length, domains[i] ∈ domains.take i ∨
    ∃ failure, locate config view domains[i] = .error failure

/-- A new domain with a corpus is no fault. -/
theorem not_faultAt {domains : List String} {i : Nat} {domain : String}
    (hdomain : domains[i]? = some domain) (hnew : domain ∉ domains.take i)
    (hlocate : ∃ corpus, locate config view domain = .ok corpus) :
    ¬ FaultAt config view domains i := by
  rintro ⟨hi, hfault⟩
  obtain ⟨corpus, hcorpus⟩ := hlocate
  rw [List.getElem?_eq_getElem hi] at hdomain
  rw [Option.some.inj hdomain] at hfault
  rcases hfault with hmem | ⟨failure, hfailure⟩
  · exact hnew hmem
  · cases hcorpus.symm.trans hfailure

/-- The first place with a fault. -/
structure IsFirstFault (config : Config) (view : FileView) (domains : List String) (i : Nat) : Prop where
  fault : FaultAt config view domains i
  least : ∀ j < i, ¬ FaultAt config view domains j

section Faults

variable {domains : List String} {i : Nat}

/-- One domain without a fault is located behind the earlier ones. -/
theorem exists_corpora_take_succ (hi : i < domains.length) (h : ¬ FaultAt config view domains i)
    {corpora : List Corpus} (hearlier : locateFrom config view [] (domains.take i) = .ok corpora) :
    ∃ more, locateFrom config view [] (domains.take (i + 1)) = .ok more := by
  have hnew : domains[i] ∉ domains.take i := fun hmem => h ⟨hi, .inl hmem⟩
  have hlocated : ∃ corpus, locate config view domains[i] = .ok corpus := by
    cases hlocate : locate config view domains[i] with
    | error failure => exact absurd ⟨hi, .inr ⟨failure, hlocate⟩⟩ h
    | ok corpus => exact ⟨corpus, rfl⟩
  obtain ⟨corpus, hcorpus⟩ := hlocated
  have hone : locateFrom config view (domains.take i).reverse [domains[i]] = .ok [corpus] :=
    locateFrom_cons_eq_ok_iff.mpr
      ⟨fun hmem => hnew (List.mem_reverse.mp hmem), corpus, [], hcorpus, rfl, rfl⟩
  refine ⟨corpora ++ [corpus], ?_⟩
  rw [List.take_succ_eq_append_getElem hi, locateFrom_append hearlier, List.append_nil, hone]
  rfl

/-- **All domains before the first fault are located.** -/
theorem exists_corpora_take (hi : i ≤ domains.length)
    (h : ∀ j < i, ¬ FaultAt config view domains j) :
    ∃ corpora, locateFrom config view [] (domains.take i) = .ok corpora := by
  induction i with
  | zero => exact ⟨[], rfl⟩
  | succ i ih =>
    obtain ⟨corpora, hcorpora⟩ :=
      ih (Nat.le_of_succ_le hi) fun j hj => h j (Nat.lt_succ_of_lt hj)
    exact exists_corpora_take_succ hi (h i (Nat.lt_succ_self i)) hcorpora

/-- What the search makes of the domains up to the first fault is the failure there, whatever follows. -/
theorem locateFrom_of_isFirstFault (hi : i < domains.length)
    (h : IsFirstFault config view domains i) (later : List String) :
    (domains[i] ∈ domains.take i →
      locateFrom config view [] (domains.take (i + 1) ++ later) =
        .error (repeatedDomain domains[i])) ∧
    (domains[i] ∉ domains.take i →
      ∃ failure, locate config view domains[i] = .error failure ∧
        locateFrom config view [] (domains.take (i + 1) ++ later) = .error failure) := by
  obtain ⟨corpora, hearlier⟩ := exists_corpora_take (Nat.le_of_lt hi) h.least
  rw [List.take_succ_eq_append_getElem hi, List.append_assoc, List.singleton_append,
    locateFrom_append hearlier, List.append_nil]
  constructor
  · intro hmem
    rw [locateFrom_cons_of_mem (List.mem_reverse.mpr hmem)]
    rfl
  · intro hnew
    obtain ⟨_, hfault⟩ := h.fault
    obtain ⟨failure, hlocate⟩ := hfault.resolve_left hnew
    refine ⟨failure, hlocate, ?_⟩
    rw [locateFrom_cons_of_error (fun hmem => hnew (List.mem_reverse.mp hmem)) hlocate]
    rfl

/-- Without a fault, everything is located. -/
theorem exists_corpora_or_firstFault (config : Config) (view : FileView) (domains : List String) :
    (∃ corpora, locateFrom config view [] domains = .ok corpora) ∨
      ∃ i, IsFirstFault config view domains i := by
  classical
  by_cases hfault : ∃ i, FaultAt config view domains i
  · exact .inr ⟨Nat.find hfault, Nat.find_spec hfault, fun j hj => Nat.find_min hfault hj⟩
  · obtain ⟨corpora, hcorpora⟩ := exists_corpora_take (Nat.le_refl domains.length)
      fun j _ hj => hfault ⟨j, hj⟩
    rw [List.take_length] at hcorpora
    exact .inl ⟨corpora, hcorpora⟩

end Faults

/-! ## All or nothing -/

/-- Each domain has a corpus if and only if there is a list of the corpora. -/
theorem exists_forall₂_locate_iff {domains : List String} :
    (∃ corpora, List.Forall₂ (fun domain corpus => locate config view domain = .ok corpus)
        domains corpora) ↔
      ∀ domain ∈ domains, ∃ corpus, locate config view domain = .ok corpus := by
  induction domains with
  | nil => exact iff_of_true ⟨[], .nil⟩ (List.forall_mem_nil _)
  | cons domain domains ih =>
    rw [List.forall_mem_cons, ← ih]
    constructor
    · rintro ⟨_, hall⟩
      cases hall with
      | cons hcorpus hrest => exact ⟨⟨_, hcorpus⟩, _, hrest⟩
    · rintro ⟨⟨corpus, hcorpus⟩, corpora, hrest⟩
      exact ⟨corpus :: corpora, .cons hcorpus hrest⟩

/-- Which other domains are configured does not matter to the search. -/
theorem locateFrom_domains (domains earlier rest : List String) :
    locateFrom { config with domains } view earlier rest = locateFrom config view earlier rest := by
  induction rest generalizing earlier with
  | nil => rfl
  | cons domain rest ih =>
    rw [locateFrom, locateFrom, ih]
    rfl

/-- **Either all domains are located or the first fault is told.**  The search succeeds if and only if no domain is
named twice and each one has a corpus, and these are the corpora that it finds, in the order of the domains.
Otherwise there is a first domain that is named before or has no corpus.  If it is named before then the
failure is that it is repeated, and otherwise the failure is the one of its corpus; and the domains behind it
could be any others. -/
theorem locates_all_or_first_fault (config : Config) (view : FileView) :
    ((∃ corpora, locateAll config view = .ok corpora) ↔
      config.domains.Nodup ∧
        ∀ domain ∈ config.domains, ∃ corpus, locate config view domain = .ok corpus) ∧
    (∀ corpora, locateAll config view = .ok corpora →
      List.Forall₂ (fun domain corpus => locate config view domain = .ok corpus)
        config.domains corpora) ∧
    ((∃ corpora, locateAll config view = .ok corpora) ∨
      ∃ i, IsFirstFault config view config.domains i) ∧
    ∀ i (_ : i < config.domains.length), IsFirstFault config view config.domains i →
      (config.domains[i] ∈ config.domains.take i →
        locateAll config view =
          .error (.configValue "domains" config.domains[i] "Duplicate entry")) ∧
      (config.domains[i] ∉ config.domains.take i →
        ∃ failure, locate config view config.domains[i] = .error failure ∧
          locateAll config view = .error failure) ∧
      ∀ later, locateAll { config with domains := config.domains.take (i + 1) ++ later } view =
        locateAll config view := by
  refine ⟨?_, fun corpora h => (locateAll_eq_ok_iff.mp h).2,
    exists_corpora_or_firstFault config view config.domains, fun i hi h => ?_⟩
  · simp only [locateAll_eq_ok_iff, exists_and_left, exists_forall₂_locate_iff]
  · have hfound := locateFrom_of_isFirstFault hi h
    have hsame : locateAll config view = locateFrom config view []
        (config.domains.take (i + 1) ++ config.domains.drop (i + 1)) := by
      rw [List.take_append_drop]
      rfl
    obtain ⟨hrepeated, hmissing⟩ := hfound (config.domains.drop (i + 1))
    rw [hsame]
    refine ⟨hrepeated, hmissing, fun later => ?_⟩
    obtain ⟨hrepeated', hmissing'⟩ := hfound later
    rw [locateAll, locateFrom_domains]
    by_cases hmem : config.domains[i] ∈ config.domains.take i
    · rw [hrepeated hmem, hrepeated' hmem]
    · obtain ⟨failure, hlocate, hstops⟩ := hmissing hmem
      obtain ⟨failure', hlocate', hstops'⟩ := hmissing' hmem
      rw [hstops, hstops', Except.error.inj (hlocate'.symm.trans hlocate)]

/-- A file system in which one domain is missing and the others have no problems. -/
def withoutLogistics : FileView where
  isFolder path := path ≠ "benchmarks/logistics"
  isFile _ := true
  list _ := .ok []

/-- A repetition wins over a missing domain behind it, and loses to one before it. -/
theorem first_fault_of_repeated_and_missing :
    let repeated : Config := { domains := ["gripper", "depots", "gripper", "logistics"] }
    let missing : Config := { domains := ["gripper", "logistics", "depots", "gripper"] }
    IsFirstFault repeated withoutLogistics repeated.domains 2 ∧
      locateAll repeated withoutLogistics =
        .error (.configValue "domains" "gripper" "Duplicate entry") ∧
      IsFirstFault missing withoutLogistics missing.domains 1 ∧
      locateAll missing withoutLogistics =
        .error (.domainNotFound "logistics" "benchmarks/logistics") ∧
      locateAll { domains := ["gripper", "logistics", "logistics"] } withoutLogistics =
        locateAll missing withoutLogistics := by
  intro repeated missing
  have hmissing : locate missing withoutLogistics "logistics" =
      .error (.domainNotFound "logistics" "benchmarks/logistics") := by decide
  have hgripper : ∃ corpus, locate repeated withoutLogistics "gripper" = .ok corpus :=
    ⟨_, locate_of_list_ok (by decide) (by decide) rfl⟩
  have hdepots : ∃ corpus, locate repeated withoutLogistics "depots" = .ok corpus :=
    ⟨_, locate_of_list_ok (by decide) (by decide) rfl⟩
  have hfirst : IsFirstFault repeated withoutLogistics repeated.domains 2 := by
    refine ⟨⟨by decide, .inl (by decide)⟩, ?_⟩
    rintro (_ | _ | j) hj
    · exact not_faultAt rfl (by decide) hgripper
    · exact not_faultAt rfl (by decide) hdepots
    · omega
  have hfirst' : IsFirstFault missing withoutLogistics missing.domains 1 := by
    refine ⟨⟨by decide, .inr ⟨_, hmissing⟩⟩, ?_⟩
    rintro (_ | j) hj
    · exact not_faultAt rfl (by decide) hgripper
    · omega
  obtain ⟨-, -, -, hfound⟩ := locates_all_or_first_fault repeated withoutLogistics
  obtain ⟨-, -, -, hfound'⟩ := locates_all_or_first_fault missing withoutLogistics
  obtain ⟨hrepeated, -, -⟩ := hfound 2 (by decide) hfirst
  obtain ⟨-, hstops, hlater⟩ := hfound' 1 (by decide) hfirst'
  obtain ⟨failure, hfailure, hall⟩ := hstops (by decide)
  obtain rfl := Except.error.inj (hfailure.symm.trans hmissing)
  exact ⟨hfirst, hrepeated (by decide), hfirst', hall, hlater ["logistics"]⟩

end Corpus
end PlannerTrials
