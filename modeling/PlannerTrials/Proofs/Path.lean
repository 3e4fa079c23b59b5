import PlannerTrials.Path
import PlannerTrials.Proofs.Text.Segments

/-!
# A name below a folder

Paths are texts, and joining two of them is an operation on texts that knows nothing of components.
`components_join` says what it means where it matters most: joining the name of an entry to a path adds
exactly one step, the name, whatever the path is.  A path may be empty, end with a slash or be
the root, and each of these is written in its own way; the meaning is the same.  The name may be any
path that does not start at the root (`componentsOf_joinChars`); only a single point at its start is lost.

An entry of a folder has an `IsName`: it is not empty, neither of the two names with a meaning of their
own, and has no slash.
-/

namespace PlannerTrials
namespace Path

open Text (segments segments_append segments_ne_nil segments_of_forall)

/-- The first character says whether a path starts at the root. -/
theorem isAbsolute_cons_append (c : Char) (cs ds : List Char) :
    isAbsolute (c :: cs ++ ds) = isAbsolute (c :: cs) := by
  by_cases hc : c = '/'
  · subst hc
    rfl
  · have hnot : ∀ rest, isAbsolute (c :: rest) = false := by
      intro rest
      unfold isAbsolute
      split
      · next heq => exact absurd (List.cons.inj heq).1 hc
      · rfl
    rw [List.cons_append, hnot, hnot]

/-! ## Joining a path -/

/-- The steps that segments stand for. -/
def steps (parts : List (List Char)) : List Component := parts.filterMap Component.ofSegment?

theorem steps_append (first rest : List (List Char)) :
    steps (first ++ rest) = steps first ++ steps rest :=
  List.filterMap_append

section Joining

variable {left right : List Char} (hleft : left ≠ []) (hright : isAbsolute right = false)

include hleft hright

/-- What joining a path does to the segments of a path that is not empty. -/
theorem exists_segments_joinChars :
    ∃ before, before ≠ [] ∧
      segments isSlash (joinChars left right) = before ++ segments isSlash right ∧
        (segments isSlash left = before ∨ segments isSlash left = before ++ [[]]) := by
  have hslash : isSlash '/' = true := rfl
  unfold joinChars
  rw [hright, if_neg Bool.false_ne_true]
  by_cases hlast : left.getLast? = some '/'
  · obtain ⟨folder, rfl⟩ := List.getLast?_eq_some_iff.mp hlast
    refine ⟨segments isSlash folder, segments_ne_nil folder, ?_, .inr ?_⟩
    · rw [if_pos (.inr hlast), List.append_assoc, List.singleton_append, segments_append hslash]
    · rw [segments_append hslash]
      rfl
  · refine ⟨segments isSlash left, segments_ne_nil left, ?_, .inl rfl⟩
    rw [if_neg (not_or.mpr ⟨hleft, hlast⟩), segments_append hslash]

theorem isAbsolute_joinChars : isAbsolute (joinChars left right) = isAbsolute left := by
  obtain ⟨c, left, rfl⟩ := List.exists_cons_of_ne_nil hleft
  unfold joinChars
  rw [hright, if_neg Bool.false_ne_true]
  split
  · exact isAbsolute_cons_append c left right
  · exact isAbsolute_cons_append c left ('/' :: right)

/-- **Joining a path adds the steps of its segments** if it does not start at the root.  A single point
at its start is none of them. -/
theorem componentsOf_joinChars :
    componentsOf (joinChars left right) = componentsOf left ++ steps (segments isSlash right) := by
  obtain ⟨before, hne, hjoined, hsegments⟩ := exists_segments_joinChars hleft hright
  have hnames : (segments isSlash (joinChars left right)).filterMap Component.ofSegment? =
      (segments isSlash left).filterMap Component.ofSegment? ++ steps (segments isSlash right) := by
    have hkept : (segments isSlash left).filterMap Component.ofSegment? =
        before.filterMap Component.ofSegment? := by
      rcases hsegments with heq | heq
      · rw [heq]
      · rw [heq, List.filterMap_append]
        exact List.append_nil _
    rw [hjoined, hkept, List.filterMap_append]
    rfl
  have hhead : (segments isSlash (joinChars left right)).head? =
      (segments isSlash left).head? := by
    obtain ⟨part, parts, rfl⟩ := List.exists_cons_of_ne_nil hne
    rw [hjoined]
    rcases hsegments with heq | heq
    · rw [heq]
      rfl
    · rw [heq]
      rfl
  unfold componentsOf
  rw [isAbsolute_joinChars hleft hright, hhead, hnames]
  simp only
  split
  · rfl
  · split <;> rfl

end Joining

/-! ## Names -/

/-- The name of an entry of a folder. -/
structure IsName (name : List Char) : Prop where
  ne_nil : name ≠ []
  ne_here : name ≠ ['.']
  ne_up : name ≠ ['.', '.']
  slash_not_mem : '/' ∉ name

section Names

variable {name : List Char} (h : IsName name)

include h

theorem IsName.segments_eq : segments isSlash name = [name] :=
  segments_of_forall fun c hc => by
    rw [isSlash, decide_eq_false_iff_not]
    rintro rfl
    exact h.slash_not_mem hc

theorem IsName.ofSegment?_eq : Component.ofSegment? name = some (.name name) := by
  rw [Component.ofSegment?, if_neg (not_or.mpr ⟨h.ne_nil, h.ne_here⟩), if_neg h.ne_up]

theorem IsName.not_isAbsolute : isAbsolute name = false := by
  unfold isAbsolute
  split
  · exact absurd List.mem_cons_self h.slash_not_mem
  · rfl

theorem IsName.steps_segments : steps (segments isSlash name) = [.name name] := by
  rw [h.segments_eq, steps, List.filterMap_cons, h.ofSegment?_eq]
  rfl

/-- A path that consists of a name has one step. -/
theorem IsName.componentsOf_eq : componentsOf name = [.name name] := by
  have hhere : ¬[name].head? = some ['.'] := fun heq => h.ne_here (Option.some.inj heq)
  unfold componentsOf
  rw [h.segments_eq, h.not_isAbsolute, if_neg Bool.false_ne_true, if_neg hhere,
    List.filterMap_cons, h.ofSegment?_eq]
  rfl

/-- **Joining a name adds one step**, the name. -/
theorem IsName.componentsOf_joinChars (left : List Char) :
    componentsOf (joinChars left name) = componentsOf left ++ [.name name] := by
  by_cases hleft : left = []
  · subst hleft
    have hjoin : joinChars [] name = name := by
      rw [joinChars, h.not_isAbsolute, if_neg Bool.false_ne_true, if_pos (.inl rfl),
        List.nil_append]
    rw [hjoin, h.componentsOf_eq]
    rfl
  · rw [Path.componentsOf_joinChars hleft h.not_isAbsolute, h.steps_segments]

end Names

/-- **Joining a name to a path adds exactly one step.** -/
theorem components_join {folder name : String} (h : IsName name.toList) :
    components (join folder name) = components folder ++ [.name name.toList] := by
  rw [components, join, String.toList_ofList, h.componentsOf_joinChars]
  rfl

/-- The last name of a path to an entry is the name of the entry. -/
theorem fileName?_join {folder name : String} (h : IsName name.toList) :
    fileName? (join folder name) = some name := by
  rw [fileName?, components_join h, List.getLast?_concat]
  exact congrArg some (String.ofList_toList)

end Path
end PlannerTrials
