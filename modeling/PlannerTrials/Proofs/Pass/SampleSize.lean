import PlannerTrials.Proofs.Corpus.Selection
import PlannerTrials.Proofs.Pass.Keys
import Mathlib.Logic.Function.Basic

/-!
# What the sample size changes

A configuration says how many problems to take from a domain.  `sample_size_only_cuts` compares two passes that
differ in nothing else: both fail with the same failure or neither does, and then the table of the pass with
the smaller number is the table of the other one cut to the first rows of every domain (`Pass.keepFirst`).
The solvers are assumed to answer the same call in the same way, whenever it is made: the passes do not
make the same calls, and so a call is answered in other states.

## Where the number is used

The names of the problems of a domain are found and sorted without it, and so is every failure; only then the
list is cut.  So the corpora for the smaller number are those for the larger one cut again
(`Corpus.locateAll_sampleSize`).  What is run on a corpus depends on this corpus only
(`rows_ofCorpora_of_answer`), and no two corpora have the same domain.  So to cut the corpora and to cut the
table is the same (`Pass.keepFirst_flatMap_rows`).
-/

namespace PlannerTrials

/-! ## Cutting corpora -/

namespace Corpus

/-- A corpus with its first problems only. -/
def cut (size : Nat) (corpus : Corpus) : Corpus :=
  { corpus with problems := corpus.problems.take size }

section SampleSize

variable {config : Config} {view : Files.FileView} {size size' : Nat} (hle : size ≤ size')

include hle

theorem ofNames_sampleSize (domain : String) (names : List String) :
    ofNames { config with sampleSize := size } domain names =
      (ofNames { config with sampleSize := size' } domain names).cut size := by
  simp only [ofNames, cut, ← List.map_take, List.take_take, Nat.min_eq_left hle]
  rfl

/-- The corpus for a smaller number of problems is the one for a larger number with fewer problems. -/
theorem locate_sampleSize (domain : String) :
    locate { config with sampleSize := size } view domain =
      (locate { config with sampleSize := size' } view domain).map (cut size) := by
  have hnames : namesIn { config with sampleSize := size } view domain =
      namesIn { config with sampleSize := size' } view domain := rfl
  rw [locate, locate, hnames]
  cases namesIn { config with sampleSize := size' } view domain with
  | error failure => rfl
  | ok names => exact congrArg Except.ok (ofNames_sampleSize hle domain names)

theorem locateFrom_sampleSize (earlier domains : List String) :
    locateFrom { config with sampleSize := size } view earlier domains =
      (locateFrom { config with sampleSize := size' } view earlier domains).map
        (List.map (cut size)) := by
  induction domains generalizing earlier with
  | nil => rfl
  | cons domain domains ih =>
    rw [locateFrom, locateFrom, locate_sampleSize hle, ih]
    split
    · rfl
    · cases locate { config with sampleSize := size' } view domain with
      | error failure => rfl
      | ok corpus =>
        cases locateFrom { config with sampleSize := size' } view (domain :: earlier) domains with
        | error failure => rfl
        | ok more => rfl

/-- **The corpora for a smaller number are cut from those for a larger number**, and the failures are the
same. -/
theorem locateAll_sampleSize :
    locateAll { config with sampleSize := size } view =
      (locateAll { config with sampleSize := size' } view).map (List.map (cut size)) :=
  locateFrom_sampleSize hle [] config.domains

end SampleSize

end Corpus

/-! ## Solvers that answer a call always in the same way -/

section Answer

variable {σ : Type} {invoke : Call → σ → Invocation × σ} (answer : Call → Invocation)

/-- The trial on a problem of a corpus. -/
def Corpus.trialBy (corpus : Corpus) (problem : Problem) : Trial where
  domain := corpus.domain
  description := corpus.description
  problem := problem
  sat := answer ⟨.sat, corpus.description, problem.path⟩
  hsp := answer ⟨.hsp, corpus.description, problem.path⟩

/-- The rows for a corpus. -/
def Corpus.rowsBy (corpus : Corpus) : List Row :=
  corpus.problems.map fun problem => (corpus.trialBy answer problem).row

theorem Corpus.domain_of_mem_rowsBy {corpus : Corpus} {row : Row} (h : row ∈ corpus.rowsBy answer) :
    row.domain = corpus.domain := by
  obtain ⟨problem, _, rfl⟩ := List.mem_map.mp h
  rfl

theorem Corpus.rowsBy_cut (size : Nat) (corpus : Corpus) :
    (corpus.cut size).rowsBy answer = (corpus.rowsBy answer).take size :=
  List.map_take

variable {answer} (hanswer : ∀ call s, (invoke call s).1 = answer call)

include hanswer

theorem trialsOn_of_answer (corpus : Corpus) (problems : List Problem) (s : σ) :
    (trialsOn invoke corpus problems s).1 = problems.map (corpus.trialBy answer) := by
  induction problems generalizing s with
  | nil => rfl
  | cons problem problems ih =>
    rw [trialsOn, List.map_cons, Corpus.trialBy]
    simp only [trialOf, hanswer, ih]

/-- The trials on a corpus do not depend on what was run before. -/
theorem trialsOf_of_answer (corpora : List Corpus) (s : σ) :
    (trialsOf invoke corpora s).1 =
      corpora.flatMap fun corpus => corpus.problems.map (corpus.trialBy answer) := by
  induction corpora generalizing s with
  | nil => rfl
  | cons corpus corpora ih =>
    rw [trialsOf, List.flatMap_cons]
    simp only [trialsOn_of_answer hanswer, ih]

/-- **The rows of a pass are the rows for its corpora**, whatever was run before. -/
theorem rows_ofCorpora_of_answer (corpora : List Corpus) (s : σ) :
    (Pass.ofCorpora invoke corpora s).1.rows = corpora.flatMap (Corpus.rowsBy answer) := by
  rw [Pass.ofCorpora_eq, Pass.rows, trialsOf_of_answer hanswer, List.map_flatMap]
  simp only [List.map_map]
  rfl

end Answer

/-! ## Cutting tables -/

namespace Pass

/-- Keeps of every domain its first rows; `left` says how many more there may be. -/
def keepFirst : (String → Nat) → List Row → List Row
  | _, [] => []
  | left, row :: rest =>
    if 0 < left row.domain then
      row :: keepFirst (Function.update left row.domain (left row.domain - 1)) rest
    else keepFirst left rest

/-- Rows are kept in their order. -/
theorem keepFirst_sublist (left : String → Nat) (rows : List Row) :
    (keepFirst left rows).Sublist rows := by
  induction rows generalizing left with
  | nil => exact List.Sublist.refl []
  | cons row rows ih =>
    rw [keepFirst]
    split
    · exact (ih _).cons_cons row
    · exact (ih left).cons row

/-- What is kept of a domain are its first rows, and the other domains have no part in it. -/
theorem filter_keepFirst (left : String → Nat) (domain : String) (rows : List Row) :
    ((keepFirst left rows).filter fun row => row.domain = domain) =
      (rows.filter fun row => row.domain = domain).take (left domain) := by
  induction rows generalizing left with
  | nil => rw [keepFirst, List.filter_nil, List.take_nil]
  | cons row rows ih =>
    by_cases hdomain : row.domain = domain
    · have hrow : decide (row.domain = domain) = true := decide_eq_true hdomain
      rw [keepFirst, hdomain, List.filter_cons_of_pos (by exact hrow)]
      cases hleft : left domain with
      | zero => rw [if_neg (Nat.lt_irrefl 0), ih, hleft, List.take_zero, List.take_zero]
      | succ more =>
        rw [if_pos (Nat.succ_pos more), List.filter_cons_of_pos (by exact hrow), ih,
          Function.update_self, List.take_succ_cons, Nat.add_sub_cancel]
    · have hrow : ¬decide (row.domain = domain) = true := by simpa using hdomain
      rw [keepFirst, List.filter_cons_of_neg (by exact hrow)]
      split
      · rw [List.filter_cons_of_neg (by exact hrow), ih, Function.update_of_ne (Ne.symm hdomain)]
      · exact ih left

/-- Only the domains that occur matter. -/
theorem keepFirst_congr {left left' : String → Nat} {rows : List Row}
    (h : ∀ row ∈ rows, left row.domain = left' row.domain) :
    keepFirst left rows = keepFirst left' rows := by
  induction rows generalizing left left' with
  | nil => rfl
  | cons row rows ih =>
    have hrow := h row List.mem_cons_self
    have hrows := fun other hother => h other (List.mem_cons_of_mem row hother)
    rw [keepFirst, keepFirst, hrow]
    split
    · refine congrArg (row :: ·) (ih fun other hother => ?_)
      by_cases hsame : other.domain = row.domain
      · rw [hsame, Function.update_self, Function.update_self]
      · rw [Function.update_of_ne hsame, Function.update_of_ne hsame, hrows other hother]
    · exact ih hrows

/-- Rows of a domain that stand together and are all that there are of it are cut like a list. -/
theorem keepFirst_append {domain : String} {rows rest : List Row}
    (hrows : ∀ row ∈ rows, row.domain = domain) (hrest : ∀ row ∈ rest, row.domain ≠ domain)
    (left : String → Nat) :
    keepFirst left (rows ++ rest) = rows.take (left domain) ++ keepFirst left rest := by
  induction rows generalizing left with
  | nil => rw [List.take_nil, List.nil_append, List.nil_append]
  | cons row rows ih =>
    have hrow := hrows row List.mem_cons_self
    have hmore := fun left => ih (fun other hother => hrows other (List.mem_cons_of_mem row hother)) left
    rw [List.cons_append, keepFirst, hrow]
    cases hleft : left domain with
    | zero =>
      rw [if_neg (Nat.lt_irrefl 0), hmore, hleft, List.take_zero, List.take_zero]
    | succ more =>
      have hothers : keepFirst (Function.update left domain more) rest = keepFirst left rest :=
        keepFirst_congr fun other hother => Function.update_of_ne (hrest other hother) _ _
      rw [if_pos (Nat.succ_pos more), Nat.add_sub_cancel, hmore, Function.update_self, hothers,
        List.take_succ_cons, List.cons_append]

/-- **Cutting the corpora cuts the table.** -/
theorem keepFirst_flatMap_rows (answer : Call → Invocation) (size : Nat) {corpora : List Corpus}
    (h : (corpora.map Corpus.domain).Nodup) :
    keepFirst (fun _ => size) (corpora.flatMap (Corpus.rowsBy answer)) =
      (corpora.map (Corpus.cut size)).flatMap (Corpus.rowsBy answer) := by
  induction corpora with
  | nil => rfl
  | cons corpus corpora ih =>
    obtain ⟨hnew, hnodup⟩ := List.nodup_cons.mp h
    rw [List.flatMap_cons, List.map_cons, List.flatMap_cons, Corpus.rowsBy_cut, ← ih hnodup]
    refine keepFirst_append (fun _ => Corpus.domain_of_mem_rowsBy answer) ?_ _
    intro row hrow hdomain
    obtain ⟨other, hother, hmem⟩ := List.mem_flatMap.mp hrow
    rw [Corpus.domain_of_mem_rowsBy answer hmem] at hdomain
    exact hnew (hdomain ▸ List.mem_map_of_mem hother)

/-! ## Two passes -/

/-- **The sample size only cuts the table.**  Let the solvers answer every call always in the same way, and let a
pass with the larger size and one with the smaller size find the same files.  Then both fail with the same
failure, or the table for the smaller size has of every domain the first rows in the table for the larger
size, as many as the smaller size allows, and nothing else, in the same order. -/
theorem sample_size_only_cuts {σ : Type} (world : World σ) (answer : Call → Invocation)
    (hanswer : ∀ call s, (world.invoker.invoke call s).1 = answer call) (config : Config)
    {size size' : Nat} (hle : size ≤ size') {s s' : σ} (hview : world.view s = world.view s') :
    let smaller := (drive world { config with sampleSize := size } s).result
    let larger := (drive world { config with sampleSize := size' } s').result
    (∃ failure, smaller = .error failure ∧ larger = .error failure) ∨
    ∃ pass pass', smaller = .ok pass ∧ larger = .ok pass' ∧
      pass.rows = keepFirst (fun _ => size) pass'.rows ∧
      pass.rows.Sublist pass'.rows ∧
      ∀ domain, (pass.rows.filter fun row => row.domain = domain) =
        (pass'.rows.filter fun row => row.domain = domain).take
          (min size (pass'.rows.countP fun row => row.domain = domain)) := by
  intro smaller larger
  have hcut := @Corpus.locateAll_sampleSize config (world.view s) size size' hle
  cases hlocate : Corpus.locateAll { config with sampleSize := size' } (world.view s') with
  | error failure =>
    rw [hview, hlocate] at hcut
    exact .inl ⟨failure, drive_of_locateAll_error world (hview ▸ hcut),
      drive_of_locateAll_error world hlocate⟩
  | ok corpora =>
    rw [hview, hlocate] at hcut
    have hdomains := Corpus.map_domain_of_locateAll hlocate
    have hnodup := (Corpus.locateAll_eq_ok_iff.mp hlocate).1
    have hrows : (ofCorpora world.invoker.invoke (corpora.map (Corpus.cut size)) s).1.rows =
        keepFirst (fun _ => size) (ofCorpora world.invoker.invoke corpora s').1.rows := by
      rw [rows_ofCorpora_of_answer hanswer, rows_ofCorpora_of_answer hanswer,
        keepFirst_flatMap_rows answer size (hdomains ▸ hnodup)]
    refine .inr ⟨_, _, (drive_of_locateAll_ok world (hview ▸ hcut)).1,
      (drive_of_locateAll_ok world hlocate).1, hrows, ?_, fun domain => ?_⟩
    · rw [hrows]
      exact keepFirst_sublist _ _
    · rw [hrows, filter_keepFirst, List.countP_eq_length_filter, ← List.take_eq_take_min]

/-- Answers of which only those of one solver have a plan. -/
def onlySat (call : Call) : Invocation :=
  .exited Elapsed.none (if call.solver = .sat then "0: A" else "") "" (some 0)

/-- A world with two problems in every folder, where one of the solvers finds a plan. -/
def twoProblems : World (List (String × Bytes)) :=
  { World.listing [Utf8.encodeString "p2.pddl", Utf8.encodeString "p1.pddl"] with
    invoker := ⟨fun call files => (onlySat call, files), fun _ => []⟩ }

theorem locate_twoProblems {config : Config} (hstart : config.problemStart = "p")
    (hend : config.problemEnd = ".pddl") (domain : String) :
    Corpus.locate config (twoProblems.view []) domain =
      .ok (Corpus.ofNames config domain ["p1.pddl", "p2.pddl"]) := by
  have hproblem : ∀ name ∈ ["p1.pddl", "p2.pddl"], Corpus.isProblemName config name = true := by
    intro name hname
    rw [Corpus.isProblemName, hstart, hend]
    simp only [List.mem_cons, List.not_mem_nil, or_false] at hname
    rcases hname with rfl | rfl <;> decide
  have hfound : [Utf8.encodeString "p2.pddl", Utf8.encodeString "p1.pddl"].filterMap
      (Corpus.problemName? config (twoProblems.view []) (Corpus.folderOf config domain)) =
        ["p2.pddl", "p1.pddl"] := by
    rw [List.filterMap_cons_some (Corpus.problemName?_of_isProblemName rfl (hproblem _ (by decide))),
      List.filterMap_cons_some (Corpus.problemName?_of_isProblemName rfl (hproblem _ (by decide)))]
    rfl
  have hsorted : ["p2.pddl", "p1.pddl"].mergeSort Corpus.nameBefore =
      ["p1.pddl", "p2.pddl"].mergeSort Corpus.nameBefore :=
    Corpus.mergeSort_nameBefore_of_perm (by decide)
  rw [Corpus.locate_of_list_ok rfl rfl rfl, hfound, hsorted, List.mergeSort_of_pairwise (by decide)]

/-- Two domains with two problems each, cut to one each. -/
theorem sample_size_only_cuts_twoProblems :
    let config : Config := { domains := ["b", "a"] }
    let smaller := (drive twoProblems { config with sampleSize := 1 } []).result
    let larger := (drive twoProblems { config with sampleSize := 2 } []).result
    (∀ call s, (twoProblems.invoker.invoke call s).1 = onlySat call) ∧ 1 ≤ 2 ∧
    ∃ pass pass', smaller = .ok pass ∧ larger = .ok pass' ∧
      pass'.rows.map Row.key = [("b", "p1.pddl"), ("b", "p2.pddl"), ("a", "p1.pddl"), ("a", "p2.pddl")] ∧
      pass.rows = keepFirst (fun _ => 1) pass'.rows ∧
      pass.rows.Sublist pass'.rows ∧
      ∀ domain, (pass.rows.filter fun row => row.domain = domain) =
        (pass'.rows.filter fun row => row.domain = domain).take
          (min 1 (pass'.rows.countP fun row => row.domain = domain)) := by
  intro config smaller larger
  have hanswer : ∀ call s, (twoProblems.invoker.invoke call s).1 = onlySat call := fun _ _ => rfl
  have hlocate : Corpus.locateAll { config with sampleSize := 2 } (twoProblems.view []) =
      .ok (["b", "a"].map fun domain =>
        Corpus.ofNames { config with sampleSize := 2 } domain ["p1.pddl", "p2.pddl"]) :=
    Corpus.locateAll_eq_ok_iff.mpr ⟨by decide,
      .cons (locate_twoProblems rfl rfl "b") (.cons (locate_twoProblems rfl rfl "a") .nil)⟩
  have hlarger := (drive_of_locateAll_ok twoProblems hlocate).1
  refine ⟨hanswer, by decide, ?_⟩
  have hle : 1 ≤ 2 := by decide
  have hview : twoProblems.view [] = twoProblems.view [] := rfl
  rcases sample_size_only_cuts twoProblems onlySat hanswer config hle hview with
    ⟨failure, _, herror⟩ | ⟨pass, pass', hok, hok', hcut⟩
  · exact absurd (herror.symm.trans hlarger) (by simp)
  · obtain rfl := Except.ok.inj (hok'.symm.trans hlarger)
    exact ⟨pass, _, hok, hok', by decide, hcut⟩

end Pass

end PlannerTrials
