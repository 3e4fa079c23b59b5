import PlannerTrials.Proofs.Path
import Mathlib.Data.List.Basic

/-!
# The steps of a path

Taking the last step off a path is, like joining, an operation on texts: parts between slashes are
dropped from the end, with the empty parts and single points around them, and the rest stays as it
was written.  `exists_step_of_parent?` says what it means: the path above has the steps of
the path without the last one.  Together with joining a name this gives what is behind another name in
the same folder (`components_withFileName`): the same steps up to the last one.

## The start of a path

The slash or the single point at the start of a path is a step that is no part between slashes, so the
path is cut there first.  `componentsOf_eq_start` reads the steps of a path off its two pieces, and
the main proof follows the three ways in which a path can start.  Where a path is joined to another one
its single point at the start is lost (`componentsOf_joinChars`), and all its other steps stay.
-/

namespace PlannerTrials
namespace Path

open Text (segments segments_ne_nil segments_cons_of_pos segments_intercalate
  not_isSeparator_of_mem_segments)

/-! ## Steps of segments -/

/-- Segments that are no steps do not count at the end. -/
theorem steps_dropNoSteps (reversed : List (List Char)) :
    steps (dropNoSteps reversed).reverse = steps reversed.reverse := by
  induction reversed with
  | nil => rfl
  | cons part parts ih =>
    unfold dropNoSteps at ih ⊢
    rw [List.dropWhile_cons]
    split
    · next hnone =>
      have hpart : steps [part] = [] := by
        rw [steps, List.filterMap_cons, Option.isNone_iff_eq_none.mp hnone]
        rfl
      rw [ih, List.reverse_cons, steps_append, hpart, List.append_nil]
    · rfl

/-- Parts that are joined by slashes have the steps of the parts. -/
theorem steps_segments_intercalate {parts : List (List Char)}
    (h : ∀ part ∈ parts, ∀ c ∈ part, isSlash c = false) :
    steps (segments isSlash (['/'].intercalate parts)) = steps parts := by
  by_cases hnil : parts = []
  · subst hnil
    rfl
  · rw [segments_intercalate rfl hnil h]

/-- What is left of segments without their last step, where there is one. -/
structure WithoutLast (parts kept : List (List Char)) : Prop where
  /-- The segments that are kept are the first ones. -/
  isPrefix : kept <+: parts
  /-- They have the steps up to the last one. -/
  step : ∃ step, steps parts = steps kept ++ [step] ∧ step ≠ .root
  /-- The last of them is a step. -/
  last : ∀ part ∈ kept.getLast?, part ≠ []

theorem ne_root_of_ofSegment? {part : List Char} {component : Component}
    (h : Component.ofSegment? part = some component) : component ≠ .root := by
  rintro rfl
  unfold Component.ofSegment? at h
  split at h
  · cases h
  · split at h <;> cases h

/-- Dropping the last step of segments, where there is one. -/
theorem withoutLast_of_dropNoSteps {parts before : List (List Char)} {part : List Char}
    (h : dropNoSteps parts.reverse = part :: before) :
    WithoutLast parts (dropNoSteps before).reverse := by
  have hsuffix : part :: before <:+ parts.reverse := h ▸ List.dropWhile_suffix _
  have hbefore : dropNoSteps before <:+ parts.reverse :=
    (List.dropWhile_suffix _).trans ((List.suffix_cons part before).trans hsuffix)
  have hpart : (Component.ofSegment? part).isNone = false := by
    have hhead := List.head?_dropWhile_not (fun s => (Component.ofSegment? s).isNone) parts.reverse
    unfold dropNoSteps at h
    rw [h] at hhead
    simpa using hhead
  obtain ⟨component, hcomponent⟩ : ∃ component, Component.ofSegment? part = some component :=
    Option.isSome_iff_exists.mp (by simpa [Option.isNone_eq_false_iff] using hpart)
  refine ⟨?_, ⟨component, ?_, ne_root_of_ofSegment? hcomponent⟩, ?_⟩
  · simpa using List.reverse_prefix.mpr hbefore
  · have hone : steps [part] = [component] := by
      rw [steps, List.filterMap_cons, hcomponent]
      rfl
    rw [steps_dropNoSteps, ← hone, ← steps_append, ← List.reverse_cons, ← h, steps_dropNoSteps,
      List.reverse_reverse]
  · intro last hlast hnil
    rw [List.getLast?_reverse] at hlast
    have hhead := List.head?_dropWhile_not (fun s => (Component.ofSegment? s).isNone) before
    unfold dropNoSteps at hlast
    rw [Option.mem_def.mp hlast, hnil] at hhead
    exact absurd hhead (by simp [Component.ofSegment?])

theorem steps_eq_nil_of_dropNoSteps {parts : List (List Char)}
    (h : dropNoSteps parts.reverse = []) : steps parts = [] := by
  rw [← parts.reverse_reverse, ← steps_dropNoSteps, h]
  rfl

/-! ## The start of a path -/

/-- The step that the start of a path stands for, if it has one. -/
def startSteps (start : List Char) : List Component :=
  if start = ['/'] then [.root] else if start = ['.'] then [.here] else []

theorem mem_startSteps {start : List Char} {step : Component} (h : step ∈ startSteps start) :
    step = .root ∨ step = .here := by
  unfold startSteps at h
  split at h
  · exact .inl (List.mem_singleton.mp h)
  · split at h
    · exact .inr (List.mem_singleton.mp h)
    · cases h

theorem splitStart_cons_slash (rest : List Char) : splitStart ('/' :: rest) = (['/'], rest) := rfl

/-- A single point is the start of a path where a slash or nothing follows it. -/
theorem splitStart_cons_point {rest : List Char} (h : rest = [] ∨ rest.head? = some '/') :
    splitStart ('.' :: rest) = (['.'], rest) := by
  rcases h with rfl | h
  · rfl
  · obtain ⟨rest, rfl⟩ := List.head?_eq_some_iff.mp h
    rfl

/-- The first segment of a path that starts with a single point. -/
theorem exists_rest_of_head?_segments {path : List Char}
    (h : (segments isSlash path).head? = some ['.']) :
    ∃ rest parts, path = '.' :: rest ∧ segments isSlash rest = [] :: parts ∧
      segments isSlash path = ['.'] :: parts := by
  cases path with
  | nil => exact absurd h (by simp [segments])
  | cons c rest =>
    cases hparts : segments isSlash rest with
    | nil => exact absurd hparts (segments_ne_nil rest)
    | cons part parts =>
      rw [segments] at h ⊢
      split at h
      · exact absurd h (by simp)
      · next hslash =>
        rw [hparts, List.head?_cons, Option.some.injEq, List.cons.injEq] at h
        obtain ⟨rfl, rfl⟩ := h
        exact ⟨rest, parts, rfl, hparts, by rw [if_neg hslash, hparts]⟩

/-- Only the empty path and a path from the root start with an empty segment. -/
theorem eq_nil_of_head?_segments {path : List Char} (habsolute : ¬isAbsolute path = true)
    (h : (segments isSlash path).head? = some []) : path = [] := by
  cases path with
  | nil => rfl
  | cons c rest =>
    rw [segments] at h
    split at h
    · next hslash =>
      obtain rfl : c = '/' := of_decide_eq_true hslash
      exact absurd rfl habsolute
    · split at h <;> exact absurd h (by simp)

theorem not_isAbsolute_of_mem_segments {path part : List Char}
    (h : part ∈ segments isSlash path) : isAbsolute part = false := by
  unfold isAbsolute
  split
  · exact absurd (not_isSeparator_of_mem_segments h '/' List.mem_cons_self) (by decide)
  · rfl

theorem isAbsolute_intercalate_cons {part : List Char} (h : part ≠ []) (parts : List (List Char)) :
    isAbsolute (['/'].intercalate (part :: parts)) = isAbsolute part := by
  obtain ⟨c, part, rfl⟩ := List.exists_cons_of_ne_nil h
  cases parts with
  | nil => rw [List.intercalate_singleton]
  | cons next parts =>
    rw [List.intercalate_cons_cons, List.append_assoc, isAbsolute_cons_append]

/-- The start of a path is no step of its segments. -/
theorem steps_segments_splitStart (path : List Char) :
    steps (segments isSlash (splitStart path).2) = steps (segments isSlash path) := by
  unfold splitStart
  by_cases habsolute : isAbsolute path = true
  · obtain ⟨rest, rfl⟩ : ∃ rest, path = '/' :: rest := by
      unfold isAbsolute at habsolute
      split at habsolute
      · exact ⟨_, rfl⟩
      · cases habsolute
    rw [if_pos habsolute, segments_cons_of_pos rfl]
    rfl
  · rw [if_neg habsolute]
    by_cases hhere : (segments isSlash path).head? = some ['.']
    · rw [if_pos hhere]
      obtain ⟨rest, parts, rfl, hrest, hpath⟩ := exists_rest_of_head?_segments hhere
      rw [List.drop_one, List.tail_cons, hrest, hpath]
      rfl
    · rw [if_neg hhere]

/-- **The steps of a path** are the one at its start and those of its segments. -/
theorem componentsOf_eq_start (path : List Char) :
    componentsOf path = startSteps (splitStart path).1 ++ steps (segments isSlash path) := by
  unfold componentsOf splitStart
  simp only
  split
  · rfl
  · split <;> rfl

theorem componentsOf_eq_splitStart (path : List Char) :
    componentsOf path =
      startSteps (splitStart path).1 ++ steps (segments isSlash (splitStart path).2) := by
  rw [componentsOf_eq_start, steps_segments_splitStart]

/-! ## The path above -/

/-- The steps of a path that is put together from its start and some of the segments after it. -/
theorem componentsOf_start_append {path : List Char} {kept : List (List Char)}
    (hfirst : kept <+: segments isSlash (splitStart path).2)
    (hlast : ∀ part ∈ kept.getLast?, part ≠ []) :
    componentsOf ((splitStart path).1 ++ ['/'].intercalate kept) =
      startSteps (splitStart path).1 ++ steps kept := by
  have hkept : steps (segments isSlash (['/'].intercalate kept)) = steps kept :=
    steps_segments_intercalate fun part hpart =>
      not_isSeparator_of_mem_segments (hfirst.subset hpart)
  rw [componentsOf_eq_splitStart]
  suffices hsplit : splitStart ((splitStart path).1 ++ ['/'].intercalate kept) =
      ((splitStart path).1, ['/'].intercalate kept) by
    rw [hsplit, hkept]
  unfold splitStart at hfirst ⊢
  by_cases habsolute : isAbsolute path = true
  · simp only [if_pos habsolute]
    exact splitStart_cons_slash _
  simp only [if_neg habsolute] at hfirst ⊢
  by_cases hhere : (segments isSlash path).head? = some ['.']
  · simp only [if_pos hhere] at hfirst ⊢
    obtain ⟨rest, parts, rfl, hrest, -⟩ := exists_rest_of_head?_segments hhere
    rw [List.drop_one, List.tail_cons, hrest] at hfirst
    refine splitStart_cons_point ?_
    -- The first segment after the point is empty, so a slash follows unless nothing is kept.
    rcases List.prefix_cons_iff.mp hfirst with rfl | ⟨kept, rfl, -⟩
    · exact .inl rfl
    · cases kept with
      | nil => exact absurd rfl (hlast [] rfl)
      | cons part kept => exact .inr (by rw [List.intercalate_cons_cons]; rfl)
  · simp only [if_neg hhere] at hfirst ⊢
    cases kept with
    | nil => rfl
    | cons part kept =>
      have hhead : (segments isSlash path).head? = some part := by
        obtain ⟨parts, hparts⟩ := hfirst
        rw [← hparts]
        rfl
      have hjoined : segments isSlash (['/'].intercalate (part :: kept)) = part :: kept :=
        segments_intercalate rfl (List.cons_ne_nil _ _) fun p hp =>
          not_isSeparator_of_mem_segments (hfirst.subset hp)
      have hrelative : isAbsolute (['/'].intercalate (part :: kept)) = false := by
        by_cases hpart : part = []
        · -- The path is empty, and its one segment is no step.
          subst hpart
          have hpath : path = [] := eq_nil_of_head?_segments habsolute hhead
          rw [hpath] at hfirst
          obtain rfl : kept = [] := by
            simpa [segments] using hfirst
          rfl
        · rw [isAbsolute_intercalate_cons hpart]
          exact not_isAbsolute_of_mem_segments (hfirst.subset List.mem_cons_self)
      rw [List.nil_append, hrelative, if_neg Bool.false_ne_true, hjoined, List.head?_cons,
        ← hhead, if_neg hhere]

/-- **The path above a path has its steps without the last one**, which is never the root. -/
theorem exists_step_of_parent? {path parent : String} (h : parent? path = some parent) :
    ∃ step, components path = components parent ++ [step] ∧ step ≠ .root := by
  obtain ⟨above, habove, rfl⟩ := Option.map_eq_some_iff.mp h
  rw [components, components, String.toList_ofList, componentsOf_eq_splitStart path.toList]
  unfold parentOf? at habove
  simp only at habove
  split at habove
  · next part before hsteps =>
    have hkept := withoutLast_of_dropNoSteps hsteps
    obtain rfl := Option.some.inj habove
    obtain ⟨step, hstep, hroot⟩ := hkept.step
    exact ⟨step, by rw [componentsOf_start_append hkept.isPrefix hkept.last, hstep,
      List.append_assoc], hroot⟩
  · next hsteps =>
    split at habove
    · next hstart =>
      obtain rfl := Option.some.inj habove
      rw [steps_eq_nil_of_dropNoSteps hsteps, hstart]
      exact ⟨.here, rfl, by simp⟩
    · cases habove

theorem components_parent? {path parent : String} (h : parent? path = some parent) :
    components parent = (components path).dropLast := by
  obtain ⟨step, hstep, -⟩ := exists_step_of_parent? h
  rw [hstep, List.dropLast_concat]

/-- A path with a last name has a path above it. -/
theorem exists_parent? {path name : String} (h : fileName? path = some name) :
    ∃ parent, parent? path = some parent := by
  obtain ⟨n, hlast⟩ : ∃ n, (components path).getLast? = some (.name n) := by
    unfold fileName? at h
    split at h
    · next n hlast => exact ⟨n, hlast⟩
    · cases h
  unfold parent? parentOf?
  simp only
  split
  · exact ⟨_, rfl⟩
  · next hsteps =>
    rw [components, componentsOf_eq_splitStart, steps_eq_nil_of_dropNoSteps hsteps,
      List.append_nil] at hlast
    rcases mem_startSteps (List.mem_of_getLast? hlast) with heq | heq <;> cases heq

/-! ## Another name in the same folder -/

/-- The names of a path are names of entries. -/
theorem isName_of_mem_components {path : String} {name : List Char}
    (h : .name name ∈ components path) : IsName name := by
  rw [components, componentsOf_eq_start, List.mem_append] at h
  rcases h with h | h
  · rcases mem_startSteps h with heq | heq <;> cases heq
  · obtain ⟨part, hpart, hname⟩ := List.mem_filterMap.mp h
    unfold Component.ofSegment? at hname
    split at hname
    · cases hname
    · next hne =>
      split at hname
      · cases hname
      · next hup =>
        obtain rfl : part = name := by simpa using hname
        exact ⟨fun hnil => hne (.inl hnil), fun hhere => hne (.inr hhere), hup, fun hslash =>
          absurd (not_isSeparator_of_mem_segments hpart '/' hslash) (by decide)⟩

/-- The last step of a path with a last name. -/
theorem components_of_fileName? {path name : String} (h : fileName? path = some name) :
    components path = (components path).dropLast ++ [.name name.toList] := by
  unfold fileName? at h
  split at h
  · next n hlast =>
    obtain rfl := Option.some.inj h
    rw [String.toList_ofList]
    exact (List.dropLast_append_getLast? _ hlast).symm
  · cases h

theorem isName_of_fileName? {path name : String} (h : fileName? path = some name) :
    IsName name.toList :=
  isName_of_mem_components (components_of_fileName? h ▸ List.mem_concat_self)

/-- **Another last name** changes the last step only. -/
theorem components_withFileName {path name other : String} (h : fileName? path = some name)
    (hother : IsName other.toList) :
    components (withFileName path other) =
      (components path).dropLast ++ [.name other.toList] := by
  obtain ⟨parent, hparent⟩ := exists_parent? h
  unfold withFileName
  rw [h]
  simp only
  rw [hparent, Option.getD_some, components_join hother, components_parent? hparent]

/-- A name that is continued with more than points is still a name. -/
theorem IsName.append {name more : List Char} (h : IsName name) (hslash : '/' ∉ more)
    (hmore : ∃ c ∈ more, c ≠ '.') : IsName (name ++ more) := by
  obtain ⟨c, hc, hpoint⟩ := hmore
  have hmem : c ∈ name ++ more := List.mem_append_right _ hc
  refine ⟨List.append_ne_nil_of_left_ne_nil h.ne_nil _, ?_, ?_, ?_⟩
  · intro heq
    rw [heq] at hmem
    exact hpoint (List.mem_singleton.mp hmem)
  · intro heq
    rw [heq] at hmem
    simp at hmem
    exact hpoint hmem
  · rw [List.mem_append, not_or]
    exact ⟨h.slash_not_mem, hslash⟩

/-! ## Joining a path -/

/-- **A joined path ends as the path that was joined**: all steps of that path stay but the one at its
start, and what precedes them are steps of the other path, or the same start. -/
theorem exists_components_join (base path : String) :
    ∃ start before rest, components path = start ++ rest ∧
      components (join base path) = before ++ rest ∧
      (∀ step ∈ start, step = .root ∨ step = .here) ∧ before ⊆ components base ++ start := by
  have hsteps : components path =
      startSteps (splitStart path.toList).1 ++ steps (segments isSlash path.toList) :=
    componentsOf_eq_start path.toList
  have hsame (hjoin : join base path = path) : components (join base path) =
      startSteps (splitStart path.toList).1 ++ steps (segments isSlash path.toList) := by
    rw [hjoin, hsteps]
  by_cases habsolute : isAbsolute path.toList = true
  · have hjoin : join base path = path := by
      rw [join, joinChars, if_pos habsolute, String.ofList_toList]
    exact ⟨_, _, _, hsteps, hsame hjoin, fun _ => mem_startSteps, fun _ => List.mem_append_right _⟩
  have hright : isAbsolute path.toList = false := Bool.eq_false_iff.mpr habsolute
  by_cases hleft : base.toList = []
  · have hjoin : join base path = path := by
      rw [join, joinChars, hright, if_neg Bool.false_ne_true, if_pos (.inl hleft), hleft,
        List.nil_append, String.ofList_toList]
    exact ⟨_, _, _, hsteps, hsame hjoin, fun _ => mem_startSteps, fun _ => List.mem_append_right _⟩
  · have hjoin : components (join base path) =
        components base ++ steps (segments isSlash path.toList) := by
      rw [components, join, String.toList_ofList, componentsOf_joinChars hleft hright]
      rfl
    exact ⟨_, components base, _, hsteps, hjoin, fun _ => mem_startSteps,
      fun _ => List.mem_append_left _⟩

/-- The last name of a joined path is the one of the path that was joined. -/
theorem fileName?_join_of_fileName? {path name : String} (h : fileName? path = some name)
    (base : String) : fileName? (join base path) = some name := by
  obtain ⟨start, before, rest, hpath, hjoin, hstart, -⟩ := exists_components_join base path
  have hlast : (start ++ rest).getLast? = some (.name name.toList) := by
    rw [← hpath, components_of_fileName? h, List.getLast?_concat]
  have hrest : rest ≠ [] := by
    rintro rfl
    rw [List.append_nil] at hlast
    rcases hstart _ (List.mem_of_getLast? hlast) with heq | heq <;> cases heq
  rw [List.getLast?_append_of_ne_nil _ hrest] at hlast
  rw [fileName?, hjoin, List.getLast?_append_of_ne_nil _ hrest, hlast]
  exact congrArg some String.ofList_toList

/-- Joining adds no step that goes up. -/
theorem up_not_mem_components_join {base path : String} (hbase : .up ∉ components base)
    (hpath : .up ∉ components path) : .up ∉ components (join base path) := by
  obtain ⟨start, before, rest, hsteps, hjoin, hstart, hbefore⟩ := exists_components_join base path
  rw [hsteps, List.mem_append, not_or] at hpath
  rw [hjoin, List.mem_append]
  rintro (hup | hup)
  · rcases List.mem_append.mp (hbefore hup) with hup | hup
    · exact hbase hup
    · exact hpath.1 hup
  · exact hpath.2 hup

end Path
end PlannerTrials
