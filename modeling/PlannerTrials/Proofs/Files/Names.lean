import PlannerTrials.Proofs.Files.Plain

/-!
# The names of a path

The place of a path is said by its components, which are cut from its text, and a file tree walks along
names, which are cut from its bytes.  Both lead to the same place (`placeFrom_eq_start_append`), because the
byte of a slash stands in the bytes of a text for a slash only.

A walk goes through single points without looking at them, so the place of a path consists of the names
that are left without them.
-/

namespace PlannerTrials
namespace Files
namespace FileTree

open PlannerTrials.Path (Component components isSlash steps)
open Text (segments)

/-! ## Bytes between slashes -/

theorem not_slash_of_mem_encodeChar {c : Char} (hc : c ≠ '/') :
    ∀ b ∈ String.utf8EncodeChar c, (b == slash) = false := by
  intro b hb
  rw [beq_eq_false_iff_ne]
  rintro rfl
  exact hc ((Utf8.mem_encodeChar_ascii (n := 0x2f) (by decide) c).mp hb)

/-- The parts of the bytes of a text are the bytes of its parts. -/
theorem segments_encode (cs : List Char) :
    segments (· == slash) (Utf8.encode cs) = (segments isSlash cs).map Utf8.encode := by
  induction cs with
  | nil => rfl
  | cons c cs ih =>
    rw [Utf8.encode_cons]
    by_cases hc : c = '/'
    · subst hc
      rw [Text.segments_cons_of_pos rfl, List.map_cons, ← ih]
      exact Text.segments_cons_of_pos rfl _
    · have hslash : isSlash c = false := decide_eq_false hc
      cases hparts : segments isSlash cs with
      | nil => exact absurd hparts (Text.segments_ne_nil cs)
      | cons part parts =>
        rw [hparts, List.map_cons] at ih
        rw [Text.segments_append_of_forall (not_slash_of_mem_encodeChar hc) ih, segments, hslash,
          if_neg Bool.false_ne_true, hparts, List.map_cons, Utf8.encode_cons]

/-- The bytes of a path start with a slash if the path does. -/
theorem head?_encode_eq_slash_iff (cs : List Char) :
    (Utf8.encode cs).head? = some slash ↔ Path.isAbsolute cs = true := by
  cases cs with
  | nil => exact ⟨nofun, nofun⟩
  | cons c cs =>
    by_cases hc : c = '/'
    · subst hc
      exact ⟨fun _ => rfl, fun _ => rfl⟩
    · have hrelative : ¬Path.isAbsolute (c :: cs) = true := by
        unfold Path.isAbsolute
        split
        · next heq => exact absurd (List.cons.inj heq).1 hc
        · exact Bool.false_ne_true
      refine iff_of_false (fun hhead => ?_) hrelative
      cases hbytes : String.utf8EncodeChar c with
      | nil => exact absurd hbytes String.utf8EncodeChar_ne_nil
      | cons b bytes =>
        rw [Utf8.encode_cons, hbytes, List.cons_append, List.head?_cons] at hhead
        obtain rfl := Option.some.inj hhead
        have hslash := not_slash_of_mem_encodeChar hc slash (hbytes ▸ List.mem_cons_self)
        exact absurd hslash (by decide)

/-! ## The place of a path -/

/-- The names of a path that are passed one after the other. -/
def passed (names : List Name) : List Name := names.filter (· ≠ hereName)

/-- The bytes of a text are one of the two special names only if the text is. -/
theorem encode_eq_hereName_iff {part : List Char} : Utf8.encode part = hereName ↔ part = ['.'] :=
  Utf8.encode_injective.eq_iff' rfl

theorem encode_eq_upName_iff {part : List Char} : Utf8.encode part = upName ↔ part = ['.', '.'] :=
  Utf8.encode_injective.eq_iff' rfl

theorem encode_eq_nil_iff {part : List Char} : Utf8.encode part = [] ↔ part = [] :=
  Utf8.encode_injective.eq_iff' rfl

/-- Steps that do not go up lead down through the names. -/
theorem foldl_stepFrom_steps {parts : List (List Char)} (hup : .up ∉ steps parts) (here : Location) :
    (steps parts).foldl stepFrom here =
      here ++ passed ((parts.map Utf8.encode).filter (· ≠ [])) := by
  induction parts generalizing here with
  | nil => exact (List.append_nil here).symm
  | cons part parts ih =>
    unfold steps at hup ih ⊢
    unfold passed at ih ⊢
    by_cases hnil : part = []
    · subst hnil
      exact ih hup here
    by_cases hpoint : part = ['.']
    · subst hpoint
      exact ih hup here
    by_cases htwo : part = ['.', '.']
    · subst htwo
      exact absurd List.mem_cons_self hup
    have hsegment : Component.ofSegment? part = some (.name part) := by
      rw [Component.ofSegment?, if_neg (not_or.mpr ⟨hnil, hpoint⟩), if_neg htwo]
    have hbytes : Utf8.encode part ≠ [] := mt encode_eq_nil_iff.mp hnil
    have hother : Utf8.encode part ≠ hereName := mt encode_eq_hereName_iff.mp hpoint
    rw [List.filterMap_cons, hsegment] at hup ⊢
    rw [List.foldl_cons, ih (fun hmem => hup (List.mem_cons_of_mem _ hmem)), stepFrom,
      List.map_cons, List.filter_cons_of_pos (by simpa using hbytes),
      List.filter_cons_of_pos (by simpa using hother), List.append_assoc]
    rfl

/-- The folder in which a path starts. -/
def startOf (working : Location) (path : String) : Location :=
  if (Utf8.encodeString path).head? = some slash then [] else working

/-- The names of a path. -/
def namesOf (path : String) : List Name := pathNames (Utf8.encodeString path)

theorem namesOf_eq (path : String) :
    namesOf path = ((segments isSlash path.toList).map Utf8.encode).filter (· ≠ []) := by
  rw [namesOf, pathNames, Utf8.encodeString, segments_encode]

/-- The start of a path leads to the folder in which it starts. -/
theorem foldl_stepFrom_startSteps (working : Location) (path : String) :
    (Path.startSteps (Path.splitStart path.toList).1).foldl stepFrom working =
      startOf working path := by
  unfold Path.splitStart startOf Utf8.encodeString
  simp only [head?_encode_eq_slash_iff]
  split
  · rfl
  · split <;> rfl

/-- **The place of a path** consists of its names, from the folder in which it starts. -/
theorem placeFrom_eq_start_append {path : String} (h : IsStraight path) (working : Location) :
    placeFrom working path = startOf working path ++ passed (namesOf path) := by
  unfold IsStraight at h
  unfold placeFrom
  rw [components, Path.componentsOf_eq_start] at h ⊢
  rw [List.mem_append, not_or] at h
  rw [List.foldl_append, foldl_stepFrom_startSteps, foldl_stepFrom_steps h.2, namesOf_eq]

theorem upName_not_mem_namesOf {path : String} (h : IsStraight path) : upName ∉ namesOf path := by
  rw [namesOf_eq]
  intro hmem
  obtain ⟨part, hpart, hname⟩ := List.mem_map.mp (List.mem_of_mem_filter hmem)
  obtain rfl := encode_eq_upName_iff.mp hname
  have hup : .up ∈ steps (segments isSlash path.toList) := List.mem_filterMap.mpr ⟨_, hpart, rfl⟩
  refine h ?_
  rw [components, Path.componentsOf_eq_start]
  exact List.mem_append_right _ hup

end FileTree
end Files
end PlannerTrials
