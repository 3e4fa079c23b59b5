import PlannerTrials.Text.Blank
import Mathlib.Data.List.DropRight

/-!
# What is left of a text without its outer blanks

`Text.trim` drops blanks from the start and then from the end.  `IsCore` says without any dropping
what the result has to be: the text is the result between two runs of blanks, and the result neither
starts nor ends with a blank.  There is exactly one such result (`isCore_iff`), so the order of the
two steps does not matter, and blanks inside a text are never touched.

* `isCore_trim`: trimming gives the core.
* `isCore_iff`: and nothing else is one.
* `trim_eq_self_iff`: the texts that trimming leaves alone.
* `trim_trim`: a trimmed text is left alone.
-/

namespace PlannerTrials
namespace Text

/-! ## Where a class of characters ends -/

section Class

variable {α : Type} {p : α → Bool} {as bs : List α} (has : ∀ a ∈ as, p a = true)
  (hbs : ∀ b ∈ bs.head?, p b = false)

include has hbs in
/-- What belongs to a class is taken up to the first element that does not. -/
theorem takeWhile_of_boundary : (as ++ bs).takeWhile p = as := by
  rw [List.takeWhile_append_of_pos has]
  cases bs with
  | nil => exact List.append_nil as
  | cons b bs => rw [List.takeWhile_cons_of_neg (by simp [hbs b rfl]), List.append_nil]

include has hbs in
theorem dropWhile_of_boundary : (as ++ bs).dropWhile p = bs := by
  rw [List.dropWhile_append_of_pos has]
  cases bs with
  | nil => rfl
  | cons b bs => rw [List.dropWhile_cons_of_neg (by simp [hbs b rfl])]

include has hbs in
/-- There is one place where the class ends. -/
theorem eq_of_boundary {as' bs' : List α} (has' : ∀ a ∈ as', p a = true)
    (hbs' : ∀ b ∈ bs'.head?, p b = false) (h : as ++ bs = as' ++ bs') : as = as' ∧ bs = bs' := by
  have htake := congrArg (List.takeWhile p) h
  have hdrop := congrArg (List.dropWhile p) h
  rw [takeWhile_of_boundary has hbs, takeWhile_of_boundary has' hbs'] at htake
  rw [dropWhile_of_boundary has hbs, dropWhile_of_boundary has' hbs'] at hdrop
  exact ⟨htake, hdrop⟩

end Class

/-! ## Cores -/

/-- `core` is the text `cs` without the blanks at both ends. -/
structure IsCore (core cs : List Char) : Prop where
  /-- Outside of the core there are only blanks. -/
  split : ∃ left right, cs = left ++ core ++ right ∧ (∀ c ∈ left, isBlank c = true) ∧
    ∀ c ∈ right, isBlank c = true
  /-- The core does not start with a blank. -/
  head : ∀ c ∈ core.head?, isBlank c = false
  /-- The core does not end with a blank. -/
  last : ∀ c ∈ core.getLast?, isBlank c = false

/-- Figures, letters and signs of ASCII are not blank. -/
theorem not_isBlank_of_range {c : Char} (h : 33 ≤ c.toNat) (h' : c.toNat ≤ 126) :
    isBlank c = false := by
  unfold isBlank
  simp only [Bool.or_eq_false_iff, Bool.and_eq_false_iff, decide_eq_false_iff_not,
    beq_eq_false_iff_ne]
  omega

theorem trimEnd_eq_rdropWhile (cs : List Char) : trimEnd cs = cs.rdropWhile isBlank := rfl

theorem trimStart_of_head {cs : List Char} (h : ∀ c ∈ cs.head?, isBlank c = false) :
    trimStart cs = cs := by
  cases cs with
  | nil => rfl
  | cons c cs => exact List.dropWhile_cons_of_neg (by simpa using h c rfl)

theorem trimEnd_of_last {cs : List Char} (h : ∀ c ∈ cs.getLast?, isBlank c = false) :
    trimEnd cs = cs := by
  rw [trimEnd_eq_rdropWhile, List.rdropWhile_eq_self_iff]
  intro hne
  have hlast := h _ (List.getLast?_eq_getLast_of_ne_nil hne)
  simp [hlast]

/-- Blanks before a text do not matter. -/
theorem trim_append_left {left : List Char} (h : ∀ c ∈ left, isBlank c = true) (cs : List Char) :
    trim (left ++ cs) = trim cs := by
  unfold trim trimStart
  rw [List.dropWhile_append_of_pos h]

/-- Blanks after a text do not matter. -/
theorem trimEnd_append_right (cs : List Char) {right : List Char}
    (h : ∀ c ∈ right, isBlank c = true) : trimEnd (cs ++ right) = trimEnd cs := by
  unfold trimEnd
  rw [List.reverse_append, List.dropWhile_append_of_pos fun c hc => h c (List.mem_reverse.mp hc)]

/-- A character that is not blank protects what stands before it. -/
theorem trimEnd_cons {c : Char} (h : isBlank c = false) (cs : List Char) :
    trimEnd (c :: cs) = c :: trimEnd cs := by
  unfold trimEnd
  rw [List.reverse_cons, List.dropWhile_append]
  split
  · next hempty =>
    rw [List.isEmpty_iff.mp hempty, List.dropWhile_cons_of_neg (by simp [h])]
    rfl
  · rw [List.reverse_append]
    rfl

theorem exists_trimStart (cs : List Char) :
    ∃ left, cs = left ++ trimStart cs ∧ ∀ c ∈ left, isBlank c = true :=
  ⟨cs.takeWhile isBlank, List.takeWhile_append_dropWhile.symm, fun _ h => List.mem_takeWhile_imp h⟩

theorem exists_trimEnd (cs : List Char) :
    ∃ right, cs = trimEnd cs ++ right ∧ ∀ c ∈ right, isBlank c = true :=
  ⟨cs.rtakeWhile isBlank, List.rdropWhile_append_rtakeWhile.symm,
    fun _ h => List.mem_rtakeWhile_imp h⟩

theorem head_trimStart (cs : List Char) : ∀ c ∈ (trimStart cs).head?, isBlank c = false := by
  intro c hc
  have h := List.head?_dropWhile_not isBlank cs
  unfold trimStart at hc
  rw [Option.mem_def.mp hc] at h
  simpa using h

theorem last_trimEnd (cs : List Char) : ∀ c ∈ (trimEnd cs).getLast?, isBlank c = false := by
  intro c hc
  unfold trimEnd at hc
  rw [List.getLast?_reverse] at hc
  exact head_trimStart cs.reverse c hc

/-- **Trimming gives the core.** -/
theorem isCore_trim (cs : List Char) : IsCore (trim cs) cs := by
  obtain ⟨left, hleft, hblankLeft⟩ := exists_trimStart cs
  obtain ⟨right, hright, hblankRight⟩ := exists_trimEnd (trimStart cs)
  refine ⟨⟨left, right, ?_, hblankLeft, hblankRight⟩, ?_, last_trimEnd _⟩
  · rw [List.append_assoc, trim, ← hright, ← hleft]
  · intro c hc
    apply head_trimStart cs c
    -- the first character of the core is that of the text before its end was cut
    rw [hright]
    rw [trim] at hc
    cases hcore : trimEnd (trimStart cs) with
    | nil => rw [hcore] at hc; simp at hc
    | cons a as => rw [hcore] at hc; simpa using hc

/-- **There is only one core.** -/
theorem isCore_iff {core cs : List Char} : IsCore core cs ↔ core = trim cs := by
  constructor
  · rintro ⟨⟨left, right, rfl, hleft, hright⟩, hhead, hlast⟩
    rw [List.append_assoc, trim_append_left hleft]
    cases core with
    | nil =>
      rw [List.nil_append, ← List.append_nil right, trim_append_left hright]
      rfl
    | cons c core =>
      have hstart : trimStart (c :: core ++ right) = c :: core ++ right :=
        trimStart_of_head hhead
      rw [trim, hstart, trimEnd_append_right _ hright, trimEnd_of_last hlast]
  · rintro rfl
    exact isCore_trim cs

/-- Blanks around a text do not matter. -/
theorem trim_between {left right : List Char} (hleft : ∀ c ∈ left, isBlank c = true)
    (hright : ∀ c ∈ right, isBlank c = true) (cs : List Char) :
    trim (left ++ cs ++ right) = trim cs := by
  obtain ⟨⟨before, behind, hsplit, hbefore, hbehind⟩, hhead, hlast⟩ := isCore_trim cs
  refine (isCore_iff.mp ⟨⟨left ++ before, behind ++ right, ?_, ?_, ?_⟩, hhead, hlast⟩).symm
  · conv_lhs => rw [hsplit]
    simp only [List.append_assoc]
  · exact List.forall_mem_append.mpr ⟨hleft, hbefore⟩
  · exact List.forall_mem_append.mpr ⟨hbehind, hright⟩

/-- The texts that trimming leaves alone. -/
theorem trim_eq_self_iff {cs : List Char} :
    trim cs = cs ↔ (∀ c ∈ cs.head?, isBlank c = false) ∧ ∀ c ∈ cs.getLast?, isBlank c = false := by
  constructor
  · intro h
    have hcore := isCore_trim cs
    rw [h] at hcore
    exact ⟨hcore.head, hcore.last⟩
  · rintro ⟨hhead, hlast⟩
    rw [trim, trimStart_of_head hhead, trimEnd_of_last hlast]

/-- A trimmed text is left alone. -/
@[simp] theorem trim_trim (cs : List Char) : trim (trim cs) = trim cs :=
  trim_eq_self_iff.mpr ⟨(isCore_trim cs).head, (isCore_trim cs).last⟩

@[simp] theorem trimmed_trimmed (s : String) : trimmed (trimmed s) = trimmed s := by
  unfold trimmed
  rw [String.toList_ofList, trim_trim]

/-- A text without blanks is left alone. -/
theorem trim_of_forall {cs : List Char} (h : ∀ c ∈ cs, isBlank c = false) : trim cs = cs :=
  trim_eq_self_iff.mpr
    ⟨fun c hc => h c (List.mem_of_mem_head? hc), fun c hc => h c (List.mem_of_mem_getLast? hc)⟩

end Text
end PlannerTrials
