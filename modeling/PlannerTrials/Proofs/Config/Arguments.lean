import PlannerTrials.Proofs.Config.Validation
import PlannerTrials.Proofs.Pass.Keys
import PlannerTrials.Proofs.Text.Marks

/-!
# How paths reach a solver

An argument of a solver can have marks for the path of the domain and for that of the problem.  `LaunchSpec.fill`
puts in one path after the other, so the second replacement sees the text with the first path in
it.  What is wanted is that both are put in at once (`LaunchSpec.IsFilled`): only the marks of the argument
count, and a path that has been put in is not looked at again.

The two are not the same.  A path can have the mark of a problem in it, since braces are allowed in the
names of folders, and then the path of the problem is put into the path of the domain.  The mark can also come
about across an end of the path, half from the path and half from the argument.

## When it goes well

`LaunchSpec.fill_isFilled_iff` says exactly when the two agree: with the path of the domain in its places,
the marks of a problem have to be those of the argument (`LaunchSpec.KeepsMarks`).  The arguments are
written by whoever configures a solver, the paths come from the file system; so it matters which
paths are safe whatever the arguments are.  These are the ones that neither contain the mark nor begin
with an end of it nor end with a start of it (`LaunchSpec.IsInert`, `LaunchSpec.isInert_iff`).  That a path
has a slash, and the mark none, is used here: otherwise a mark could swallow a whole path.

`Config.paths_arrive_iff` has both for the paths that are located under a validated configuration.
-/

namespace PlannerTrials

/-- Behind a folder with a name there is a slash. -/
theorem Path.slash_mem_join {left : String} (h : left ≠ "") (right : String) :
    '/' ∈ (join left right).toList := by
  have hne : left.toList ≠ [] := fun hnil => h (String.toList_inj.mp hnil)
  rw [join, String.toList_ofList, joinChars]
  split
  · next habsolute =>
    unfold isAbsolute at habsolute
    split at habsolute
    · next hright =>
      rw [hright]
      exact List.mem_cons_self
    · cases habsolute
  · split
    · next hend =>
      have hlast := List.mem_of_getLast? (hend.resolve_left hne)
      exact List.mem_append_left _ hlast
    · exact List.mem_append_right _ List.mem_cons_self

namespace LaunchSpec

open Text (replaceAll)
open Text.Marking (isReading_chars_append)

/-! ## Arguments with marks -/

/-- A piece of an argument: a character, or a mark. -/
inductive Piece where
  | char (c : Char)
  | domain
  | problem
  deriving DecidableEq, Repr

namespace Piece

/-- A piece as it is written. -/
def text : Piece → List Char
  | .char c => [c]
  | .domain => domainMark
  | .problem => problemMark

/-- A piece with both paths put in. -/
def filled (domain problem : List Char) : Piece → List Char
  | .char c => [c]
  | .domain => domain
  | .problem => problem

/-- A piece with the path of the domain put in, character by character. -/
def opened (domain : List Char) : Piece → List Piece
  | .char c => [.char c]
  | .domain => domain.map .char
  | .problem => [.problem]

end Piece

/-- The marks of both paths. -/
def marks : Text.Marking Piece where
  text := Piece.text
  char := .char
  IsMark piece := piece = .domain ∨ piece = .problem
  text_char _ := rfl
  not_isMark_char _ h := by simp at h
  text_ne_nil := by
    rintro _ (rfl | rfl) h <;> cases h
  eq_of_isPrefix := by
    rintro _ _ (rfl | rfl) (rfl | rfl) h
    · rfl
    · exact absurd h (by decide)
    · exact absurd h (by decide)
    · rfl

/-- The mark of a problem alone. -/
def problemMarks : Text.Marking Piece := marks.restrict (· = .problem)

theorem problemMarks_isMark_iff (piece : Piece) :
    problemMarks.IsMark piece ↔ piece = .problem := by
  constructor
  · exact fun h => h.2
  · exact fun h => ⟨.inr h, h⟩

theorem problemMarks_begins_iff {cs : List Char} :
    problemMarks.Begins cs ↔ problemMark <+: cs := by
  constructor
  · rintro ⟨piece, hpiece, hstart⟩
    rw [(problemMarks_isMark_iff piece).mp hpiece] at hstart
    exact hstart
  · exact fun h => ⟨.problem, (problemMarks_isMark_iff _).mpr rfl, h⟩

theorem marks_begins_iff {cs : List Char} :
    marks.Begins cs ↔ domainMark <+: cs ∨ problemMark <+: cs := by
  constructor
  · rintro ⟨_, rfl | rfl, hstart⟩
    · exact .inl hstart
    · exact .inr hstart
  · rintro (h | h)
    · exact ⟨.domain, .inl rfl, h⟩
    · exact ⟨.problem, .inr rfl, h⟩

/-- A mark begins with a brace that opens. -/
theorem not_marks_begins {c : Char} {cs : List Char} (h : c ≠ '{') : ¬ marks.Begins (c :: cs) := by
  rw [marks_begins_iff]
  rintro (hstart | hstart) <;> exact h (List.cons_prefix_cons.mp hstart).1.symm

theorem flatMap_text_chars (cs : List Char) : (cs.map Piece.char).flatMap Piece.text = cs :=
  Text.Marking.flatMap_text_map_char (M := marks) cs

theorem isReading_problem_chars_append {cs : List Char} {pieces : List Piece} :
    problemMarks.IsReading (cs.map Piece.char ++ pieces) ↔
      (∀ right, right <:+ cs → right ≠ [] → ¬ problemMark <+: right ++ pieces.flatMap Piece.text) ∧
        problemMarks.IsReading pieces := by
  have h : problemMarks.IsReading (cs.map Piece.char ++ pieces) ↔ _ := isReading_chars_append
  simp only [problemMarks_begins_iff] at h
  exact h

/-- `filled` is the argument `template` with each mark replaced by its path, all at once: no character
of a path is taken for a part of a mark. -/
def IsFilled (domain problem template filled : String) : Prop :=
  ∃ pieces, marks.IsReading pieces ∧ pieces.flatMap Piece.text = template.toList ∧
    filled.toList = pieces.flatMap (Piece.filled domain.toList problem.toList)

/-- With the path of the domain in its places, the argument `template` has the same marks of a problem as
before. -/
def KeepsMarks (domain template : String) : Prop :=
  ∃ pieces, marks.IsReading pieces ∧ pieces.flatMap Piece.text = template.toList ∧
    problemMarks.IsReading (pieces.flatMap (Piece.opened domain.toList))

/-! ## One path after the other -/

section Fill

variable {domain problem : List Char} {pieces : List Piece}

/-- The first replacement puts the path of the domain into its places. -/
theorem replaceAll_domain (h : marks.IsReading pieces) :
    replaceAll '{' ("domain".toList ++ ['}']) domain (pieces.flatMap Piece.text) =
      (pieces.flatMap (Piece.opened domain)).flatMap Piece.text := by
  induction h with
  | nil => rw [List.flatMap_nil, List.flatMap_nil, List.flatMap_nil, replaceAll]
  | @mark piece pieces hpiece _ ih =>
    rcases hpiece with rfl | rfl
    · have hmark : Piece.domain.text = '{' :: ("domain".toList ++ ['}']) := rfl
      rw [List.flatMap_cons, List.flatMap_cons, List.flatMap_append, Piece.opened, flatMap_text_chars,
        ← ih, hmark, Text.replaceAll_append_pattern]
    · have hmark : Piece.problem.text = '{' :: ("problem".toList ++ ['}']) := rfl
      have hother : ¬ '{' :: ("domain".toList ++ ['}']) <+:
          '{' :: ("problem".toList ++ ['}'] ++ pieces.flatMap Piece.text) := fun hstart =>
        absurd (List.cons_prefix_cons.mp (List.cons_prefix_cons.mp hstart).2).1 (by decide)
      have hfree : '{' ∉ "problem".toList ++ ['}'] := by decide
      rw [List.flatMap_cons, List.flatMap_cons, List.flatMap_append, ← ih, Piece.opened,
        List.flatMap_singleton, hmark, List.cons_append, Text.replaceAll_cons_of_not_isPrefix hother,
        Text.replaceAll_append_of_not_mem hfree, List.cons_append]
  | @char c pieces free _ ih =>
    have hnone : ¬ '{' :: ("domain".toList ++ ['}']) <+: c :: pieces.flatMap Piece.text :=
      fun hstart => free (marks_begins_iff.mpr (.inl hstart))
    change replaceAll _ _ _ (c :: pieces.flatMap Piece.text) =
      c :: (pieces.flatMap (Piece.opened domain)).flatMap Piece.text
    rw [Text.replaceAll_cons_of_not_isPrefix hnone, ih]

/-- Both paths are put in if the path of the problem is put into the marks that are left. -/
theorem flatMap_filled (pieces : List Piece) :
    pieces.flatMap (Piece.filled domain problem) =
      (pieces.flatMap (Piece.opened domain)).flatMap (problemMarks.replaced .problem problem) := by
  have hchar : ∀ c, problemMarks.replaced .problem problem (.char c) = [c] :=
    Text.Marking.replaced_char problemMarks_isMark_iff
  induction pieces with
  | nil => rfl
  | cons piece pieces ih =>
    rw [List.flatMap_cons, List.flatMap_cons, List.flatMap_append, ih]
    congr 1
    cases piece with
    | char c => rw [Piece.opened, List.flatMap_singleton, hchar, Piece.filled]
    | domain =>
      rw [Piece.opened, List.flatMap_map, Piece.filled, List.flatMap_congr fun c _ => hchar c,
        List.flatMap_singleton']
    | problem => rw [Piece.opened, List.flatMap_singleton]; rfl

theorem opened_pieces {piece : Piece} (h : piece ∈ pieces.flatMap (Piece.opened domain)) :
    piece = .problem ∨ ∃ c, piece = .char c := by
  obtain ⟨source, -, hsource⟩ := List.mem_flatMap.mp h
  cases source with
  | char c => exact .inr ⟨c, List.mem_singleton.mp hsource⟩
  | domain =>
    obtain ⟨c, -, hc⟩ := List.mem_map.mp hsource
    exact .inr ⟨c, hc.symm⟩
  | problem => exact .inl (List.mem_singleton.mp hsource)

end Fill

/-- **An argument is filled as it should be** if and only if no mark of a problem comes about by putting in
the path of the domain. -/
theorem fill_isFilled_iff {domain problem template : String} (h : '/' ∈ problem.toList) :
    IsFilled domain problem template (fill domain problem template) ↔ KeepsMarks domain template := by
  have hiff : ∀ pieces, marks.IsReading pieces → pieces.flatMap Piece.text = template.toList →
      ((fill domain problem template).toList =
          pieces.flatMap (Piece.filled domain.toList problem.toList) ↔
        problemMarks.IsReading (pieces.flatMap (Piece.opened domain.toList))) := by
    intro pieces hpieces htext
    rw [fill, String.toList_ofList, ← htext, replaceAll_domain hpieces, flatMap_filled]
    exact Text.Marking.replaceAll_eq_iff (M := problemMarks) problemMarks_isMark_iff rfl (by decide) h
      (by decide) fun _ => opened_pieces
  constructor
  · rintro ⟨pieces, hpieces, htext, hfilled⟩
    exact ⟨pieces, hpieces, htext, (hiff pieces hpieces htext).mp hfilled⟩
  · rintro ⟨pieces, hpieces, htext, hopened⟩
    exact ⟨pieces, hpieces, htext, (hiff pieces hpieces htext).mpr hopened⟩

/-! ## Safe paths -/

/-- A path with which no mark of a problem can come about: there is none in it, it does not begin with the
end of one, and it does not end with the start of one. -/
structure IsInert (path : List Char) : Prop where
  inside : ¬ problemMark <:+: path
  first : ∀ left right, left ++ right = problemMark → left ≠ [] → right ≠ [] → ¬ right <+: path
  last : ∀ left right, left ++ right = problemMark → left ≠ [] → right ≠ [] → ¬ left <:+ path

theorem slash_not_mem_problemMark : '/' ∉ problemMark := by decide

/-- Behind its first character, the mark does not open a brace again. -/
theorem brace_not_mem_of_append {left right : List Char} (h : left ++ right = problemMark)
    (hleft : left ≠ []) : '{' ∉ right := by
  cases left with
  | nil => exact absurd rfl hleft
  | cons c left =>
    have htail : left ++ right = "problem".toList ++ ['}'] := (List.cons.inj h).2
    have hfree : '{' ∉ left ++ right := by
      rw [htail]
      decide
    exact fun hmem => hfree (List.mem_append_right _ hmem)

section Inert

variable {domain : List Char}

/-- The end of a mark stands behind the path of the domain only where it stood before. -/
theorem isPrefix_of_isPrefix_opened (hslash : '/' ∈ domain) (h : IsInert domain)
    {pieces : List Piece} {left right : List Char} (hmark : left ++ right = problemMark)
    (hleft : left ≠ [])
    (hright : right <+: (pieces.flatMap (Piece.opened domain)).flatMap Piece.text) :
    right <+: pieces.flatMap Piece.text := by
  induction pieces generalizing left right with
  | nil => exact hright
  | cons piece pieces ih =>
    cases right with
    | nil => exact List.nil_prefix
    | cons c right =>
      rw [List.flatMap_cons, List.flatMap_append] at hright
      cases piece with
      | char d =>
        obtain ⟨rfl, htail⟩ := List.cons_prefix_cons.mp hright
        have hmark' : (left ++ [c]) ++ right = problemMark := by
          rw [List.append_assoc, List.singleton_append, hmark]
        exact List.cons_prefix_cons.mpr
          ⟨rfl, ih hmark' (List.append_ne_nil_of_left_ne_nil hleft _) htail⟩
      | domain =>
        rw [Piece.opened, flatMap_text_chars] at hright
        rcases List.prefix_or_prefix_of_prefix hright (List.prefix_append domain _) with hin | hover
        · exact absurd hin (h.first left _ hmark hleft (List.cons_ne_nil _ _))
        · -- the whole path would be a part of the mark
          have hmem : '/' ∈ problemMark := by
            rw [← hmark]
            exact List.mem_append_right _ (hover.subset hslash)
          exact absurd hmem slash_not_mem_problemMark
      | problem =>
        have hbrace : c = '{' := (List.cons_prefix_cons.mp hright).1
        exact absurd (hbrace ▸ List.mem_cons_self) (brace_not_mem_of_append hmark hleft)

/-- With a safe path in their places, the marks of the domain leave the marks of a problem as they are. -/
theorem isReading_opened_of_isInert (hslash : '/' ∈ domain) (h : IsInert domain)
    {pieces : List Piece} (hpieces : marks.IsReading pieces) :
    problemMarks.IsReading (pieces.flatMap (Piece.opened domain)) := by
  induction hpieces with
  | nil => exact .nil
  | @mark piece pieces hpiece _ ih =>
    rw [List.flatMap_cons]
    rcases hpiece with rfl | rfl
    · refine isReading_problem_chars_append.mpr ⟨fun right hright hne hstart => ?_, ih⟩
      rcases List.prefix_or_prefix_of_prefix hstart (List.prefix_append right _) with hin | ⟨rest, hrest⟩
      · exact h.inside (hin.isInfix.trans hright.isInfix)
      · by_cases hnil : rest = []
        · rw [hnil, List.append_nil] at hrest
          exact h.inside (hrest ▸ hright.isInfix)
        · exact h.last right rest hrest hne hnil hright
    · exact .mark ((problemMarks_isMark_iff _).mpr rfl) ih
  | @char c pieces free _ ih =>
    rw [List.flatMap_cons]
    refine .char (fun hbegins => free ?_) ih
    obtain ⟨rfl, htail⟩ := List.cons_prefix_cons.mp (problemMarks_begins_iff.mp hbegins)
    have hmark : ['{'] ++ ("problem".toList ++ ['}']) = problemMark := rfl
    have hstays := isPrefix_of_isPrefix_opened hslash h hmark (List.cons_ne_nil _ _) htail
    exact marks_begins_iff.mpr (.inr (List.cons_prefix_cons.mpr ⟨rfl, hstays⟩))

theorem flatMap_opened_map_char (cs : List Char) :
    (cs.map Piece.char).flatMap (Piece.opened domain) = cs.map Piece.char := by
  rw [List.flatMap_map, List.map_eq_flatMap]
  rfl

/-- An argument that keeps its marks is known by its pieces. -/
theorem KeepsMarks.isReading {domain template : String} (h : KeepsMarks domain template)
    {pieces : List Piece} (hpieces : marks.IsReading pieces)
    (htext : pieces.flatMap Piece.text = template.toList) :
    problemMarks.IsReading (pieces.flatMap (Piece.opened domain.toList)) := by
  obtain ⟨pieces', hpieces', htext', hopened⟩ := h
  rwa [hpieces.eq hpieces' (htext.trans htext'.symm)]

/-- A start of the mark of a problem has no mark in it, and none comes about with a mark of the domain behind
it. -/
theorem isReading_start {left right : List Char} (hmark : left ++ right = problemMark)
    (hright : right ≠ []) : marks.IsReading (left.map Piece.char ++ [.domain]) := by
  have hnone : ∀ start ∈ problemMark.inits, start ≠ problemMark → ∀ cs ∈ start.tails, cs ≠ [] →
      ¬ domainMark <+: cs ++ domainMark ∧ ¬ problemMark <+: cs ++ domainMark := by
    decide
  have hleft : left ∈ problemMark.inits := (List.mem_inits _ _).mpr ⟨right, hmark⟩
  have hne : left ≠ problemMark := by
    rintro rfl
    exact hright (List.append_right_eq_self.mp hmark)
  refine (isReading_chars_append (M := marks)).mpr ⟨fun cs hcs hcsne => ?_, .mark (.inl rfl) .nil⟩
  obtain ⟨hdomain, hproblem⟩ := hnone left hleft hne cs ((List.mem_tails _ _).mpr hcs) hcsne
  exact fun hbegins => (marks_begins_iff.mp hbegins).elim hdomain hproblem

/-- An end of the mark of a problem has no mark in it. -/
theorem isReading_end {left right : List Char} (hmark : left ++ right = problemMark)
    (hleft : left ≠ []) : marks.IsReading (.domain :: right.map Piece.char) := by
  refine .mark (.inl rfl) ?_
  rw [← List.append_nil (right.map _)]
  refine (isReading_chars_append (M := marks)).mpr ⟨fun cs hcs hne => ?_, .nil⟩
  cases cs with
  | nil => exact absurd rfl hne
  | cons c cs =>
    refine not_marks_begins fun hbrace => brace_not_mem_of_append hmark hleft ?_
    exact hbrace ▸ hcs.subset List.mem_cons_self

end Inert

/-- **The safe paths** are those with which every argument keeps its marks. -/
theorem isInert_iff {domain : String} (hslash : '/' ∈ domain.toList) :
    IsInert domain.toList ↔ ∀ template, KeepsMarks domain template := by
  constructor
  · intro h template
    obtain ⟨pieces, ⟨hpieces, htext⟩, -⟩ := marks.existsUnique_isReading template.toList
    exact ⟨pieces, hpieces, htext, isReading_opened_of_isInert hslash h hpieces⟩
  · intro h
    have hopened : ∀ pieces, marks.IsReading pieces →
        problemMarks.IsReading (pieces.flatMap (Piece.opened domain.toList)) := fun pieces hpieces =>
      (h (String.ofList (pieces.flatMap Piece.text))).isReading hpieces String.toList_ofList.symm
    refine ⟨?_, ?_, ?_⟩
    · -- in the argument that is the mark of the domain
      rintro ⟨before, after, hdomain⟩
      have hread := hopened [.domain] (.mark (.inl rfl) .nil)
      have hsuffix : problemMark ++ after <:+ domain.toList :=
        ⟨before, by rw [← List.append_assoc, hdomain]⟩
      refine (isReading_problem_chars_append.mp hread).1 _ hsuffix (by simp [problemMark]) ?_
      rw [List.append_assoc]
      exact List.prefix_append _ _
    · -- in the argument with the start of the mark before the mark of the domain
      intro left right hmark hleft hright hstart
      have hread := hopened _ (isReading_start hmark hright)
      rw [List.flatMap_append, flatMap_opened_map_char] at hread
      refine (isReading_problem_chars_append.mp hread).1 left List.suffix_rfl hleft ?_
      rw [List.flatMap_singleton, Piece.opened, flatMap_text_chars, ← hmark]
      exact (List.prefix_append_right_inj left).mpr hstart
    · -- in the argument with the end of the mark behind the mark of the domain
      intro left right hmark hleft hright hsuffix
      have hread := hopened _ (isReading_end hmark hleft)
      rw [List.flatMap_cons, flatMap_opened_map_char] at hread
      refine (isReading_problem_chars_append.mp hread).1 left hsuffix hleft ?_
      rw [flatMap_text_chars, hmark]

/-! ## All arguments of a solver -/

section Arguments

variable {spec : LaunchSpec} {domain problem : String}

/-- Some argument has a mark. -/
def IsMarked (spec : LaunchSpec) : Prop :=
  ∃ argument ∈ spec.arguments,
    domainMark <:+: argument.toList ∨ problemMark <:+: argument.toList

/-- `arguments` are what a solver should be given for two paths.  If it has marks then each argument has the
paths in the places of its marks, and nothing is appended; otherwise the paths follow the arguments. -/
structure Receives (spec : LaunchSpec) (domain problem : String) (arguments : List String) : Prop where
  marked : spec.IsMarked → List.Forall₂ (IsFilled domain problem) spec.arguments arguments
  unmarked : ¬ spec.IsMarked → arguments = spec.arguments ++ [domain, problem]

theorem hasMarks_iff : spec.hasMarks = true ↔ spec.IsMarked := by
  rw [hasMarks, List.any_eq_true, IsMarked]
  simp only [Bool.or_eq_true, Text.occurs_iff]

/-- An argument without the mark of the domain keeps its marks: nothing is put in. -/
theorem keepsMarks_of_unmarked {template : String} (h : ¬ domainMark <:+: template.toList) :
    KeepsMarks domain template := by
  obtain ⟨pieces, ⟨hpieces, htext⟩, -⟩ := marks.existsUnique_isReading template.toList
  have hnone : ∀ piece ∈ pieces, piece ≠ .domain := by
    rintro _ hmem rfl
    obtain ⟨before, after, rfl⟩ := List.append_of_mem hmem
    refine h ⟨before.flatMap Piece.text, after.flatMap Piece.text, ?_⟩
    rw [← htext, List.flatMap_append, List.flatMap_cons, List.append_assoc]
    rfl
  have hopened : pieces.flatMap (Piece.opened domain.toList) = pieces := by
    have hsame : ∀ piece ∈ pieces, piece.opened domain.toList = [piece] := by
      intro piece hpiece
      cases piece with
      | char c => rfl
      | domain => exact absurd rfl (hnone _ hpiece)
      | problem => rfl
    rw [List.flatMap_congr hsame, List.flatMap_singleton']
  refine ⟨pieces, hpieces, htext, ?_⟩
  rw [hopened]
  exact hpieces.restrict fun piece hpiece hmark => hmark.resolve_left (hnone piece hpiece)

/-- **A solver is given what it should be given** if and only if each of its arguments keeps its marks. -/
theorem receives_argumentsFor_iff (hslash : '/' ∈ problem.toList) :
    spec.Receives domain problem (spec.argumentsFor domain problem) ↔
      ∀ argument ∈ spec.arguments, KeepsMarks domain argument := by
  by_cases hmarked : spec.IsMarked
  · rw [argumentsFor, if_pos (hasMarks_iff.mpr hmarked)]
    have hfilled : List.Forall₂ (IsFilled domain problem) spec.arguments
        (spec.arguments.map (fill domain problem)) ↔
          ∀ argument ∈ spec.arguments, KeepsMarks domain argument := by
      rw [List.forall₂_map_right_iff, List.forall₂_same]
      exact forall₂_congr fun _ _ => fill_isFilled_iff hslash
    exact ⟨fun h => hfilled.mp (h.marked hmarked),
      fun h => ⟨fun _ => hfilled.mpr h, fun hnot => absurd hmarked hnot⟩⟩
  · rw [argumentsFor, if_neg fun hmarks => hmarked (hasMarks_iff.mp hmarks)]
    constructor
    · exact fun _ argument hargument =>
        keepsMarks_of_unmarked fun hmark => hmarked ⟨argument, hargument, .inl hmark⟩
    · exact fun _ => ⟨fun h => absurd h hmarked, fun _ => rfl⟩

/-- A path is safe if every solver is given what it should be given, whatever its arguments are. -/
theorem forall_receives_iff (hdomain : '/' ∈ domain.toList) (hproblem : '/' ∈ problem.toList) :
    (∀ spec : LaunchSpec, spec.Receives domain problem (spec.argumentsFor domain problem)) ↔
      IsInert domain.toList := by
  simp only [receives_argumentsFor_iff hproblem]
  rw [isInert_iff hdomain]
  constructor
  · intro h template
    exact h { program := "", arguments := [template] } template List.mem_cons_self
  · exact fun h _ argument _ => h argument

end Arguments
end LaunchSpec

/-! ## Located paths -/

namespace Corpus

variable {config : Config} {view : Files.FileView} {domain : String} {corpus : Corpus}

theorem folderOf_ne_empty (h : config.benchmarksFolder ≠ "") : folderOf config domain ≠ "" := by
  intro hempty
  have hslash := Path.slash_mem_join h domain
  rw [show Path.join config.benchmarksFolder domain = "" from hempty] at hslash
  cases hslash

/-- What is located below a folder with a name has a slash in its path. -/
theorem slash_mem_of_locate (h : config.benchmarksFolder ≠ "")
    (hcorpus : locate config view domain = .ok corpus) :
    '/' ∈ corpus.description.toList ∧ ∀ problem ∈ corpus.problems, '/' ∈ problem.path.toList := by
  rw [eq_of_locate hcorpus]
  refine ⟨Path.slash_mem_join (folderOf_ne_empty h) _, fun problem hproblem => ?_⟩
  obtain ⟨name, -, rfl⟩ := List.mem_map.mp hproblem
  exact Path.slash_mem_join (folderOf_ne_empty h) name

end Corpus

namespace Config

open LaunchSpec (KeepsMarks IsInert)

/-- **How located paths arrive at the solvers.**  Under a validated configuration, a solver is given the paths of
a located problem as it should be if and only if the path of the domain lets its arguments keep their marks; and
the paths of a domain that are safe for all solvers with whatever arguments are those with which no mark of a
problem can come about. -/
theorem paths_arrive_iff (config : Config) (hvalid : config.validate = .ok ()) (view : Files.FileView) :
    ∀ domain ∈ config.domains, ∀ corpus, Corpus.locate config view domain = .ok corpus →
      ∀ problem ∈ corpus.problems,
        (∀ entry ∈ config.solvers,
          entry.2.Receives corpus.description problem.path
              (entry.2.argumentsFor corpus.description problem.path) ↔
            ∀ argument ∈ entry.2.arguments, KeepsMarks corpus.description argument) ∧
        ((∀ spec : LaunchSpec, spec.Receives corpus.description problem.path
              (spec.argumentsFor corpus.description problem.path)) ↔
            IsInert corpus.description.toList) := by
  intro domain _ corpus hcorpus problem hproblem
  have hfolder := (validate_eq_ok_iff.mp hvalid).benchmarksFolder.1
  obtain ⟨hdescription, hproblems⟩ := Corpus.slash_mem_of_locate hfolder hcorpus
  have hpath := hproblems problem hproblem
  exact ⟨fun _ _ => LaunchSpec.receives_argumentsFor_iff hpath,
    LaunchSpec.forall_receives_iff hdescription hpath⟩

/-- A configuration whose domain is named like the mark of a domain, and whose description is named like the
start of the mark of a problem. -/
def bracedNames : Config :=
  { benchmarksFolder := "b", domains := ["\x7bdomain\x7d"], descriptionName := "\x7bproblem",
    sampleSize := 1,
    solvers := [("SAT", { program := "sat", arguments := ["\x7bdomain\x7d \x7bproblem\x7d"] }),
      ("HSP", { program := "hsp" })] }

/-- What is found under a configuration that asks for one problem. -/
theorem locate_listing_plainNames {config : Config} (hstart : config.problemStart = "p")
    (hend : config.problemEnd = ".pddl") (hsize : config.sampleSize = 1) (domain : String) :
    Corpus.locate config ((World.listing plainNames).view []) domain =
      .ok ⟨domain, Corpus.descriptionOf config domain,
        [⟨domain, Path.join (Corpus.folderOf config domain) "p01.pddl"⟩]⟩ := by
  have hlocated : ∃ corpus,
      Corpus.locate config ((World.listing plainNames).view []) domain = .ok corpus := ⟨_, rfl⟩
  obtain ⟨corpus, hcorpus⟩ := hlocated
  rw [hcorpus, Corpus.eq_of_locate hcorpus, selection_listing_plainNames hstart hend hsize []]
  rfl

/-- Braces in the paths do no harm where the argument has a blank behind the path of the domain, and would do
harm in another argument. -/
theorem paths_arrive_of_bracedNames :
    let domain := "b/\x7bdomain\x7d/\x7bproblem"
    let problem := "b/\x7bdomain\x7d/p01.pddl"
    bracedNames.validate = .ok () ∧ "\x7bdomain\x7d" ∈ bracedNames.domains ∧
      Corpus.locate bracedNames ((World.listing plainNames).view []) "\x7bdomain\x7d" =
        .ok ⟨"\x7bdomain\x7d", domain, [⟨"\x7bdomain\x7d", problem⟩]⟩ ∧
      (∀ entry ∈ bracedNames.solvers,
        entry.2.Receives domain problem (entry.2.argumentsFor domain problem)) ∧
      ¬ ∀ spec : LaunchSpec, spec.Receives domain problem (spec.argumentsFor domain problem) := by
  intro domain problem
  have hvalid : bracedNames.validate = .ok () := rfl
  have hmem : "\x7bdomain\x7d" ∈ bracedNames.domains := List.mem_cons_self
  have hlocate : Corpus.locate bracedNames ((World.listing plainNames).view []) "\x7bdomain\x7d" =
      .ok ⟨"\x7bdomain\x7d", domain, [⟨"\x7bdomain\x7d", problem⟩]⟩ :=
    (locate_listing_plainNames rfl rfl rfl _).trans (by decide)
  obtain ⟨hsolvers, hsafe⟩ := paths_arrive_iff bracedNames hvalid ((World.listing plainNames).view [])
    "\x7bdomain\x7d" hmem _ hlocate _ List.mem_cons_self
  refine ⟨hvalid, hmem, hlocate, fun entry hentry => (hsolvers entry hentry).mpr ?_, fun hall => ?_⟩
  · -- The first solver has one argument with marks, the second one has none.
    have hkeeps : KeepsMarks domain "\x7bdomain\x7d \x7bproblem\x7d" := by
      have hnone : ∀ right ∈ domain.toList.tails, right ≠ [] →
          ¬ LaunchSpec.problemMark <+: right ++ ' ' :: LaunchSpec.problemMark := by
        decide
      refine ⟨[.domain, .char ' ', .problem], .mark (.inl rfl) ?_, by decide, ?_⟩
      · exact .char (M := LaunchSpec.marks) (LaunchSpec.not_marks_begins (by decide))
          (.mark (.inr rfl) .nil)
      · refine LaunchSpec.isReading_problem_chars_append.mpr ⟨fun right hright hne => ?_, ?_⟩
        · exact hnone right ((List.mem_tails _ _).mpr hright) hne
        · refine .char (M := LaunchSpec.problemMarks) ?_ (.mark ⟨.inr rfl, rfl⟩ .nil)
          rw [LaunchSpec.problemMarks_begins_iff]
          decide
    rcases List.mem_cons.mp hentry with rfl | hentry
    · exact List.forall_mem_singleton.mpr hkeeps
    · rw [List.mem_singleton.mp hentry]
      exact List.forall_mem_nil _
  · have hlast := (hsafe.mp hall).last ('{' :: "problem".toList) ['}'] rfl (by decide) (by decide)
    exact hlast (by decide)

/-- A configuration with a domain that is named like the mark of a problem. -/
def markedDomain : Config :=
  { benchmarksFolder := "b", domains := ["\x7bproblem\x7d"], sampleSize := 1,
    solvers := [("SAT", { program := "true", arguments := ["\x7bdomain\x7d", "\x7bproblem\x7d"] }),
      ("HSP", { program := "true", arguments := ["\x7bdomain\x7d", "\x7bproblem\x7d"] })] }

/-- **A domain named like a mark does not arrive.**  The configuration is accepted and its problem is found, but
both solvers are given a path of the domain with the path of the problem in the middle of it. -/
theorem paths_of_markedDomain :
    let domain := "b/\x7bproblem\x7d/domain.pddl"
    let problem := "b/\x7bproblem\x7d/p01.pddl"
    markedDomain.validate = .ok () ∧ "\x7bproblem\x7d" ∈ markedDomain.domains ∧
      Corpus.locate markedDomain ((World.listing plainNames).view []) "\x7bproblem\x7d" =
        .ok ⟨"\x7bproblem\x7d", domain, [⟨"\x7bproblem\x7d", problem⟩]⟩ ∧
      ∀ entry ∈ markedDomain.solvers,
        entry.2.argumentsFor domain problem =
          ["b/b/\x7bproblem\x7d/p01.pddl/domain.pddl", "b/\x7bproblem\x7d/p01.pddl"] ∧
        ¬ entry.2.Receives domain problem (entry.2.argumentsFor domain problem) := by
  intro domain problem
  have hlocate : Corpus.locate markedDomain ((World.listing plainNames).view []) "\x7bproblem\x7d" =
      .ok ⟨"\x7bproblem\x7d", domain, [⟨"\x7bproblem\x7d", problem⟩]⟩ :=
    (locate_listing_plainNames rfl rfl rfl _).trans (by decide)
  have hslash : '/' ∈ problem.toList := by decide
  refine ⟨rfl, List.mem_cons_self, hlocate, fun entry hentry => ?_⟩
  have hspec : entry.2 =
      { program := "true", arguments := ["\x7bdomain\x7d", "\x7bproblem\x7d"] } := by
    rcases List.mem_cons.mp hentry with rfl | hentry
    · rfl
    · rw [List.mem_singleton.mp hentry]
  rw [hspec]
  refine ⟨by decide +kernel, fun hreceives => ?_⟩
  -- With the path in its place, the mark of a problem begins at the fourth character.
  have hkeeps := (LaunchSpec.receives_argumentsFor_iff hslash).mp hreceives _ List.mem_cons_self
  have hpieces : LaunchSpec.marks.IsReading [.domain] := .mark (.inl rfl) .nil
  have hread := hkeeps.isReading hpieces (by decide)
  have hnone := (LaunchSpec.isReading_problem_chars_append.mp hread).1
    "\x7bproblem\x7d/domain.pddl".toList (by decide) (by decide)
  exact hnone (by decide)

end Config
end PlannerTrials
