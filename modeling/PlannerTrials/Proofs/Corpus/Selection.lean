import PlannerTrials.Proofs.Corpus.Locate
import PlannerTrials.Proofs.Text.ByteOrder
import Mathlib.Data.List.Sort

/-!
# The problems of a domain are its smallest ones

The search for the problems of a domain filters what a folder lists, sorts it and cuts it.
`selects_smallest_names` says what comes of the three together, without any of them: the selected names are
eligible, there are as many of them as the configuration asks for, or all if there are fewer, they stand in
the order of their bytes, and every eligible name that was left out comes after all of them.  A folder lists
its names in no particular order, and there is only one such selection, so it does not depend on this
order.

## Names as bytes

What a folder lists are bytes.  A name that is no text is not eligible, and the texts are written as bytes in
one way only, so the names that are found are the eligible entries themselves (`map_encodeString_filterMap`).
Names are sorted as texts, which is the order of their bytes (`Utf8.encodeString_lt_iff`).
-/

namespace PlannerTrials
namespace Corpus

open Files

variable {config : Config} {view : FileView} {domain : String}

/-! ## Eligible entries -/

/-- An entry of the folder of a domain is a problem of the domain: its name is a text with the start and the
end of the name of a problem, and the entry is a file. -/
def IsEligible (config : Config) (view : FileView) (domain : String) (entry : Name) : Prop :=
  ∃ name ∈ Utf8.decodeString? entry,
    config.problemStart.toList <+: name.toList ∧ config.problemEnd.toList <:+ name.toList ∧
      view.isFile (Path.join (folderOf config domain) name) = true

instance : DecidablePred (IsEligible config view domain) := fun entry =>
  inferInstanceAs (Decidable (∃ name ∈ Utf8.decodeString? entry, _))

theorem isProblemName_iff {name : String} :
    isProblemName config name = true ↔
      config.problemStart.toList <+: name.toList ∧ config.problemEnd.toList <:+ name.toList := by
  rw [isProblemName, Bool.and_eq_true_iff, List.isPrefixOf_iff_prefix, List.isSuffixOf_iff_suffix]

/-- The name of a problem is found at an entry exactly if the entry is eligible. -/
theorem isSome_problemName?_iff {entry : Name} :
    (problemName? config view (folderOf config domain) entry).isSome = true ↔
      IsEligible config view domain entry := by
  unfold problemName? IsEligible
  cases hname : Utf8.decodeString? entry with
  | none => simp
  | some name =>
    simp only [Option.mem_def, Option.some.injEq, ← and_assoc, ← isProblemName_iff]
    split
    · next h => simpa [and_comm] using h
    · next h => simpa [and_comm] using h

/-- The name that is found at an entry is the name of the entry. -/
theorem problemName?_encodeString {entry : Name} (h : IsEligible config view domain entry) :
    ∃ name, problemName? config view (folderOf config domain) entry = some name ∧
      Utf8.encodeString name = entry := by
  obtain ⟨name, hname⟩ := Option.isSome_iff_exists.mp (isSome_problemName?_iff.mpr h)
  exact ⟨name, hname, Utf8.encodeString_of_decodeString? (decodeString?_of_problemName? hname)⟩

/-- **What is found are the eligible entries themselves**, written as texts. -/
theorem map_encodeString_filterMap (entries : List Name) :
    (entries.filterMap (problemName? config view (folderOf config domain))).map Utf8.encodeString =
      entries.filter fun entry => IsEligible config view domain entry := by
  induction entries with
  | nil => rfl
  | cons entry entries ih =>
    by_cases heligible : IsEligible config view domain entry
    · obtain ⟨name, hname, hentry⟩ := problemName?_encodeString heligible
      rw [List.filterMap_cons_some hname, List.map_cons, hentry, ih,
        List.filter_cons_of_pos (by simpa using heligible)]
    · have hnone := mt isSome_problemName?_iff.mp heligible
      rw [List.filterMap_cons_none (Option.not_isSome_iff_eq_none.mp hnone), ih,
        List.filter_cons_of_neg (by simpa using heligible)]

/-! ## Order -/

theorem pairwise_mergeSort_nameBefore (names : List String) :
    (names.mergeSort nameBefore).Pairwise (· ≤ ·) := by
  have htrans : ∀ a b c, nameBefore a b = true → nameBefore b c = true → nameBefore a c = true :=
    fun a b c hab hbc =>
      decide_eq_true (String.le_trans (of_decide_eq_true hab) (of_decide_eq_true hbc))
  have htotal : ∀ a b, (nameBefore a b || nameBefore b a) = true := fun a b => by
    simpa [nameBefore] using String.le_total a b
  exact (List.pairwise_mergeSort htrans htotal names).imp of_decide_eq_true

/-- The sorted names do not depend on the order in which they were found. -/
theorem mergeSort_nameBefore_of_perm {names names' : List String} (h : names.Perm names') :
    names.mergeSort nameBefore = names'.mergeSort nameBefore := by
  have hperm := (List.mergeSort_perm names nameBefore).trans
    (h.trans (List.mergeSort_perm names' nameBefore).symm)
  exact hperm.eq_of_pairwise (fun _ _ _ _ => String.le_antisymm)
    (pairwise_mergeSort_nameBefore names) (pairwise_mergeSort_nameBefore names')

/-- The names of the problems of a folder that lists no name twice are in the order of their bytes. -/
theorem pairwise_map_encodeString_mergeSort {names : List String} (h : names.Nodup) :
    ((names.mergeSort nameBefore).map Utf8.encodeString).Pairwise (· < ·) := by
  have hnodup := (List.mergeSort_perm names nameBefore).nodup_iff.mpr h
  have hlt := (pairwise_mergeSort_nameBefore names).imp₂
    (fun a b hle hne => lt_of_le_of_ne hle hne) hnodup
  exact List.pairwise_map.mpr (hlt.imp Utf8.encodeString_lt_iff.mpr)

/-! ## The first of the eligible entries -/

/-- Some of the entries of a folder are the first of the eligible ones, as many as there may be. -/
structure IsFirst (eligible : Name → Prop) [DecidablePred eligible] (size : Nat)
    (entries selected : List Name) : Prop where
  increasing : selected.Pairwise (· < ·)
  length : selected.length = min size (entries.countP eligible)
  chosen : ∀ entry ∈ selected, entry ∈ entries ∧ eligible entry
  smallest : ∀ entry ∈ entries, eligible entry → entry ∉ selected → ∀ other ∈ selected, other < entry

/-- The first entries of a sorted list of all that are eligible. -/
theorem isFirst_take {eligible : Name → Prop} [DecidablePred eligible] {entries sorted : List Name}
    (hsorted : sorted.Pairwise (· < ·))
    (hperm : sorted.Perm (entries.filter fun entry => eligible entry)) (size : Nat) :
    IsFirst eligible size entries (sorted.take size) where
  increasing := hsorted.sublist (List.take_sublist size sorted)
  length := by
    rw [List.length_take, hperm.length_eq, List.countP_eq_length_filter]
  chosen entry hentry := by
    have hmem := List.mem_filter.mp (hperm.mem_iff.mp (List.mem_of_mem_take hentry))
    exact ⟨hmem.1, of_decide_eq_true hmem.2⟩
  smallest entry hentry heligible hleft other hother := by
    have hmem : entry ∈ sorted :=
      hperm.mem_iff.mpr (List.mem_filter.mpr ⟨hentry, decide_eq_true heligible⟩)
    rw [← List.take_append_drop size sorted] at hmem hsorted
    have hdrop := (List.mem_append.mp hmem).resolve_left hleft
    exact (List.pairwise_append.mp hsorted).2.2 other hother entry hdrop

/-! ## The search -/

theorem locate_of_not_isFolder (hfolder : view.isFolder (folderOf config domain) = false) :
    locate config view domain = .error (.domainNotFound domain (folderOf config domain)) := by
  simp only [locate, namesIn, hfolder]
  rfl

section IsFolder

variable (hfolder : view.isFolder (folderOf config domain) = true)

include hfolder

theorem locate_of_not_isFile (hfile : view.isFile (descriptionOf config domain) = false) :
    locate config view domain =
      .error (.descriptionMissing domain (descriptionOf config domain)) := by
  simp only [locate, namesIn, hfolder, hfile]
  rfl

variable (hfile : view.isFile (descriptionOf config domain) = true)

include hfile

theorem locate_of_list_error {fault : Fault} (hlist : view.list (folderOf config domain) = .error fault) :
    locate config view domain =
      .error (.domainUnreadable domain (folderOf config domain) fault) := by
  simp only [locate, namesIn, hfolder, hfile, hlist]
  rfl

theorem locate_of_list_ok {entries : List Name} (hlist : view.list (folderOf config domain) = .ok entries) :
    locate config view domain = .ok (ofNames config domain
      ((entries.filterMap (problemName? config view (folderOf config domain))).mergeSort
        nameBefore)) := by
  simp only [locate, namesIn, hfolder, hfile, hlist]
  rfl

end IsFolder

/-- What the search for a domain ends with: the first of its folder, its description and its listing that is
not there is reported, and if all are there then the domain has a corpus. -/
theorem locate_outcomes (config : Config) (view : FileView) (domain : String) :
    ((∃ corpus, locate config view domain = .ok corpus) ↔
      view.isFolder (folderOf config domain) = true ∧
        view.isFile (descriptionOf config domain) = true ∧
        ∃ entries, view.list (folderOf config domain) = .ok entries) ∧
    (locate config view domain = .error (.domainNotFound domain (folderOf config domain)) ↔
      view.isFolder (folderOf config domain) = false) ∧
    (locate config view domain = .error (.descriptionMissing domain (descriptionOf config domain)) ↔
      view.isFolder (folderOf config domain) = true ∧
        view.isFile (descriptionOf config domain) = false) ∧
    ∀ fault, locate config view domain =
        .error (.domainUnreadable domain (folderOf config domain) fault) ↔
      view.isFolder (folderOf config domain) = true ∧
        view.isFile (descriptionOf config domain) = true ∧
        view.list (folderOf config domain) = .error fault := by
  cases hfolder : view.isFolder (folderOf config domain) with
  | false => simp [locate_of_not_isFolder hfolder]
  | true =>
    cases hfile : view.isFile (descriptionOf config domain) with
    | false => simp [locate_of_not_isFile hfolder hfile]
    | true =>
      cases hlist : view.list (folderOf config domain) with
      | error fault => simp [locate_of_list_error hfolder hfile hlist]
      | ok entries => simp [locate_of_list_ok hfolder hfile hlist]

/-- The selected names of a located domain are the first of the eligible entries of its folder. -/
theorem isFirst_selection (hdistinct : view.Distinct) {entries : List Name} {corpus : Corpus}
    (hlocate : locate config view domain = .ok corpus)
    (hlist : view.list (folderOf config domain) = .ok entries) :
    IsFirst (IsEligible config view domain) config.sampleSize entries
      ((selection config view domain).map Utf8.encodeString) := by
  obtain ⟨names, hnames, -⟩ := exists_names_of_locate hlocate
  obtain ⟨entries', hlist', rfl⟩ := exists_entries_of_namesIn hnames
  obtain rfl : entries' = entries := Except.ok.inj (hlist'.symm.trans hlist)
  rw [selection, hnames, List.map_take]
  refine isFirst_take (pairwise_map_encodeString_mergeSort ?_) ?_ _
  · exact nodup_filterMap_problemName? hdistinct hlist
  · rw [← map_encodeString_filterMap]
    exact (List.mergeSort_perm _ _).map _

/-- Two answers to the question what a folder holds are the same up to the order of the names. -/
inductive SameListing : Except Fault (List Name) → Except Fault (List Name) → Prop
  | fault (fault : Fault) : SameListing (.error fault) (.error fault)
  | entries {entries entries' : List Name} (h : entries.Perm entries') :
    SameListing (.ok entries) (.ok entries')

/-- **The order of a listing does not matter** to the search. -/
theorem locate_of_sameListing {list' : String → Except Fault (List Name)}
    (h : SameListing (view.list (folderOf config domain)) (list' (folderOf config domain))) :
    locate config { view with list := list' } domain = locate config view domain := by
  cases hfolder : view.isFolder (folderOf config domain) with
  | false => rw [locate_of_not_isFolder hfolder, locate_of_not_isFolder (by exact hfolder)]
  | true =>
    cases hfile : view.isFile (descriptionOf config domain) with
    | false =>
      rw [locate_of_not_isFile hfolder hfile,
        locate_of_not_isFile (by exact hfolder) (by exact hfile)]
    | true =>
      generalize hlist : view.list (folderOf config domain) = answer at h
      generalize hlist' : list' (folderOf config domain) = answer' at h
      cases h with
      | fault fault =>
        rw [locate_of_list_error hfolder hfile hlist,
          locate_of_list_error (by exact hfolder) (by exact hfile) hlist']
      | entries hperm =>
        rw [locate_of_list_ok hfolder hfile hlist,
          locate_of_list_ok (by exact hfolder) (by exact hfile) hlist']
        have hfound := hperm.filterMap (problemName? config view (folderOf config domain))
        exact congrArg (fun names => Except.ok (ofNames config domain names))
          (mergeSort_nameBefore_of_perm hfound).symm

/-- **The first of the eligible entries are selected, whatever order a folder lists them in.**  A domain is
located exactly if its folder and its description are there and the folder can be read, and the first of these
that fails is the one that is reported. -/
theorem selects_smallest_names (config : Config) (view : FileView) (domain : String) :
    ((∃ corpus, locate config view domain = .ok corpus) ↔
      view.isFolder (folderOf config domain) = true ∧
        view.isFile (descriptionOf config domain) = true ∧
        ∃ entries, view.list (folderOf config domain) = .ok entries) ∧
    (locate config view domain = .error (.domainNotFound domain (folderOf config domain)) ↔
      view.isFolder (folderOf config domain) = false) ∧
    (locate config view domain = .error (.descriptionMissing domain (descriptionOf config domain)) ↔
      view.isFolder (folderOf config domain) = true ∧
        view.isFile (descriptionOf config domain) = false) ∧
    (∀ fault, locate config view domain =
        .error (.domainUnreadable domain (folderOf config domain) fault) ↔
      view.isFolder (folderOf config domain) = true ∧
        view.isFile (descriptionOf config domain) = true ∧
        view.list (folderOf config domain) = .error fault) ∧
    (view.Proper → view.Distinct → ∀ corpus entries, locate config view domain = .ok corpus →
      view.list (folderOf config domain) = .ok entries →
      IsFirst (IsEligible config view domain) config.sampleSize entries
        (corpus.problems.map fun problem => Utf8.encodeString problem.name)) ∧
    ∀ list', SameListing (view.list (folderOf config domain)) (list' (folderOf config domain)) →
      locate config { view with list := list' } domain = locate config view domain := by
  obtain ⟨hok, hfolder, hfile, hlist⟩ := locate_outcomes config view domain
  refine ⟨hok, hfolder, hfile, hlist, ?_, fun _ => locate_of_sameListing⟩
  intro hproper hdistinct corpus entries hlocate hlist
  have hnames := (map_name_of_locate hproper hlocate).2
  have hfirst := isFirst_selection hdistinct hlocate hlist
  rwa [← hnames, List.map_map] at hfirst

/-- A name that is no text, one with another start, and a folder with the name of a problem, among three
problems. -/
def mixedEntries : List Name :=
  [Utf8.encodeString "p03.pddl", [0x70, 0xff], Utf8.encodeString "p02.pddl",
    Utf8.encodeString "notes.pddl", Utf8.encodeString "p00.pddl", Utf8.encodeString "p01.pddl"]

/-- A file system with these names in every folder. -/
def mixedView : FileView where
  isFolder _ := true
  isFile path := path ≠ "benchmarks/gripper/p00.pddl"
  list _ := .ok mixedEntries

theorem proper_mixedView : mixedView.Proper := by
  intro folder entries hentries name hname
  obtain rfl : mixedEntries = entries := Except.ok.inj hentries
  simp only [mixedEntries, List.mem_cons, List.not_mem_nil, or_false] at hname
  rcases hname with rfl | rfl | rfl | rfl | rfl | rfl <;>
    exact ⟨by decide, by decide, by decide, by decide⟩

theorem distinct_mixedView : mixedView.Distinct := by
  intro folder entries hentries
  obtain rfl : mixedEntries = entries := Except.ok.inj hentries
  decide

/-- The two problems that are taken from this file system. -/
def mixedCorpus : Corpus where
  domain := "gripper"
  description := "benchmarks/gripper/domain.pddl"
  problems := [⟨"gripper", "benchmarks/gripper/p01.pddl"⟩, ⟨"gripper", "benchmarks/gripper/p02.pddl"⟩]

theorem locate_mixedView : locate { sampleSize := 2 } mixedView "gripper" = .ok mixedCorpus := by
  have hfound : mixedEntries.filterMap
      (problemName? { sampleSize := 2 } mixedView (folderOf { sampleSize := 2 } "gripper")) =
        ["p03.pddl", "p02.pddl", "p01.pddl"] := by
    decide +kernel
  have hsorted : ["p03.pddl", "p02.pddl", "p01.pddl"].mergeSort nameBefore =
      ["p01.pddl", "p02.pddl", "p03.pddl"].mergeSort nameBefore :=
    mergeSort_nameBefore_of_perm (by decide)
  rw [locate_of_list_ok rfl (by decide) rfl, hfound, hsorted, List.mergeSort_of_pairwise (by decide)]
  decide

/-- The smallest two of three problems, also if the folder lists its names the other way round. -/
theorem selects_smallest_names_of_mixedEntries :
    mixedView.Proper ∧ mixedView.Distinct ∧
      locate { sampleSize := 2 } mixedView "gripper" = .ok mixedCorpus ∧
      SameListing (.ok mixedEntries) (.ok mixedEntries.reverse) ∧
      IsFirst (IsEligible { sampleSize := 2 } mixedView "gripper") 2 mixedEntries
        [Utf8.encodeString "p01.pddl", Utf8.encodeString "p02.pddl"] ∧
      locate { sampleSize := 2 } { mixedView with list := fun _ => .ok mixedEntries.reverse } "gripper" =
        .ok mixedCorpus := by
  have hreversed : SameListing (.ok mixedEntries) (.ok mixedEntries.reverse) :=
    .entries (List.reverse_perm _).symm
  obtain ⟨-, -, -, -, hfirst, horder⟩ :=
    selects_smallest_names { sampleSize := 2 } mixedView "gripper"
  have hnames : (mixedCorpus.problems.map fun problem => Utf8.encodeString problem.name) =
      [Utf8.encodeString "p01.pddl", Utf8.encodeString "p02.pddl"] := by
    decide
  refine ⟨proper_mixedView, distinct_mixedView, locate_mixedView, hreversed, ?_, ?_⟩
  · rw [← hnames]
    exact hfirst proper_mixedView distinct_mixedView _ _ locate_mixedView rfl
  · exact (horder (fun _ => .ok mixedEntries.reverse) hreversed).trans locate_mixedView

end Corpus
end PlannerTrials
