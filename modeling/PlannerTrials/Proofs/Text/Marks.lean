import PlannerTrials.Text.Replace
import Mathlib.Data.List.Basic
import Mathlib.Data.List.Infix

/-!
# Marks in a text

A template has marks for what is to be put in, and a text of a configuration has references.  Both are read
in the same way, from left to right: where a mark begins, the mark is taken as a whole, and where none
begins, a single character.  A `Marking` says which marks there are, and `Marking.IsReading` says of a
list of pieces that it is what is read: a character stands alone in it only where no mark begins.

* `Marking.existsUnique_isReading`: every text is read in exactly one way.
* `Marking.isReading_chars_append`: what it takes to put characters before a text without changing how the
  text is read.
* `Marking.replaceAll_eq_iff`: replacing a pattern gives the pieces of a text their values if and only if
  the pieces are what is read.

## Why a reading can break

The pieces of a text can be anything whose texts make it up, and a reading is one choice among them.  If
something is put in the place of a piece then the new pieces are still pieces of the new text, but they need
not be what is read there: a mark can stand in what was put in, and it can also come about across its
ends, half from what was put in and half from what stands beside it.  Replacing a pattern reads the text
anew, so it finds such marks too.
-/

namespace PlannerTrials
namespace Text

/-- What can stand in a text: single characters, and marks. -/
structure Marking (α : Type) where
  /-- A piece as it is written. -/
  text : α → List Char
  /-- The piece that is a single character. -/
  char : Char → α
  IsMark : α → Prop
  text_char : ∀ c, text (char c) = [c]
  not_isMark_char : ∀ c, ¬ IsMark (char c)
  text_ne_nil : ∀ m, IsMark m → text m ≠ []
  /-- No mark is the start of another one. -/
  eq_of_isPrefix : ∀ m m', IsMark m → IsMark m' → text m <+: text m' → m = m'

namespace Marking

variable {α : Type} (M : Marking α)

/-- A mark begins at the start of a text. -/
def Begins (cs : List Char) : Prop := ∃ m, M.IsMark m ∧ M.text m <+: cs

/-- The pieces are what is read from left to right: a mark wherever one begins, and otherwise a single
character. -/
inductive IsReading : List α → Prop
  | nil : IsReading []
  | mark {m pieces} (hm : M.IsMark m) (rest : IsReading pieces) : IsReading (m :: pieces)
  | char {c pieces} (free : ¬ M.Begins (c :: pieces.flatMap M.text)) (rest : IsReading pieces) :
      IsReading (M.char c :: pieces)

variable {M}

theorem flatMap_text_map_char (cs : List Char) : (cs.map M.char).flatMap M.text = cs := by
  induction cs with
  | nil => rfl
  | cons c cs ih => rw [List.map_cons, List.flatMap_cons, ih, M.text_char, List.singleton_append]

theorem begins_text_append {m : α} (hm : M.IsMark m) (cs : List Char) : M.Begins (M.text m ++ cs) :=
  ⟨m, hm, List.prefix_append _ _⟩

theorem isReading_char_cons {c : Char} {pieces : List α} :
    M.IsReading (M.char c :: pieces) ↔
      ¬ M.Begins (c :: pieces.flatMap M.text) ∧ M.IsReading pieces := by
  constructor
  · intro h
    generalize hpiece : M.char c = piece at h
    cases h with
    | mark hm _ => exact absurd (hpiece ▸ hm) (M.not_isMark_char c)
    | @char d _ free rest =>
      have htext := congrArg M.text hpiece
      rw [M.text_char, M.text_char] at htext
      rw [(List.cons.inj htext).1]
      exact ⟨free, rest⟩
  · exact fun h => .char h.1 h.2

/-! ## Every text is read in one way -/

/-- Pieces that are read are known from their text. -/
theorem IsReading.eq {pieces pieces' : List α} (h : M.IsReading pieces) (h' : M.IsReading pieces')
    (htext : pieces.flatMap M.text = pieces'.flatMap M.text) : pieces = pieces' := by
  induction h generalizing pieces' with
  | nil =>
    cases h' with
    | nil => rfl
    | mark hm _ => exact absurd (List.append_eq_nil_iff.mp htext.symm).1 (M.text_ne_nil _ hm)
    | char _ _ => simp [M.text_char] at htext
  | @mark m pieces hm _ ih =>
    rw [List.flatMap_cons] at htext
    cases h' with
    | nil => exact absurd (List.append_eq_nil_iff.mp htext).1 (M.text_ne_nil _ hm)
    | @mark m' pieces' hm' rest' =>
      rw [List.flatMap_cons] at htext
      -- Both marks begin the same text, so one of them is the start of the other.
      have hsame : m = m' := by
        have hstart : M.text m <+: M.text m' ++ pieces'.flatMap M.text :=
          htext ▸ List.prefix_append _ _
        rcases List.prefix_or_prefix_of_prefix hstart (List.prefix_append _ _) with hmm | hmm
        · exact M.eq_of_isPrefix _ _ hm hm' hmm
        · exact (M.eq_of_isPrefix _ _ hm' hm hmm).symm
      subst hsame
      rw [ih rest' (List.append_cancel_left htext)]
    | char free' _ =>
      rw [List.flatMap_cons, M.text_char, List.singleton_append] at htext
      exact absurd (htext ▸ begins_text_append hm _) free'
  | @char c pieces free _ ih =>
    rw [List.flatMap_cons, M.text_char, List.singleton_append] at htext
    cases h' with
    | nil => cases htext
    | mark hm' _ => exact absurd (htext ▸ begins_text_append hm' _) free
    | char _ rest' =>
      rw [List.flatMap_cons, M.text_char, List.singleton_append] at htext
      obtain ⟨rfl, hrest⟩ := List.cons.inj htext
      rw [ih rest' hrest]

theorem exists_isReading (cs : List Char) :
    ∃ pieces, M.IsReading pieces ∧ pieces.flatMap M.text = cs := by
  match cs with
  | [] => exact ⟨[], .nil, rfl⟩
  | c :: cs =>
    by_cases hbegins : M.Begins (c :: cs)
    · obtain ⟨m, hm, rest, hrest⟩ := hbegins
      have hshorter : rest.length < cs.length + 1 := by
        rw [← List.length_cons, ← hrest, List.length_append]
        exact Nat.lt_add_of_pos_left (List.length_pos_of_ne_nil (M.text_ne_nil m hm))
      obtain ⟨pieces, hpieces, htext⟩ := exists_isReading rest
      exact ⟨m :: pieces, .mark hm hpieces, by rw [List.flatMap_cons, htext, hrest]⟩
    · obtain ⟨pieces, hpieces, htext⟩ := exists_isReading cs
      refine ⟨M.char c :: pieces, .char (by rwa [htext]) hpieces, ?_⟩
      rw [List.flatMap_cons, htext, M.text_char, List.singleton_append]
termination_by cs.length

/-- **Every text is read in exactly one way.** -/
theorem existsUnique_isReading (M : Marking α) (cs : List Char) :
    ∃! pieces, M.IsReading pieces ∧ pieces.flatMap M.text = cs := by
  obtain ⟨pieces, hpieces, htext⟩ := exists_isReading (M := M) cs
  exact ⟨pieces, ⟨hpieces, htext⟩, fun _ h => h.1.eq hpieces (h.2.trans htext.symm)⟩

/-! ## Characters before a text -/

/-- Characters that are put before a text are read one by one if no mark begins at any of them. -/
theorem isReading_chars_append {cs : List Char} {pieces : List α} :
    M.IsReading (cs.map M.char ++ pieces) ↔
      (∀ right, right <:+ cs → right ≠ [] → ¬ M.Begins (right ++ pieces.flatMap M.text)) ∧
        M.IsReading pieces := by
  induction cs with
  | nil =>
    refine ⟨fun h => ⟨fun right hright hne => ?_, h⟩, fun h => h.2⟩
    exact absurd (List.suffix_nil.mp hright) hne
  | cons c cs ih =>
    rw [List.map_cons, List.cons_append, isReading_char_cons, ih, List.flatMap_append,
      flatMap_text_map_char]
    constructor
    · rintro ⟨hfirst, hothers, hpieces⟩
      refine ⟨fun right hright hne => ?_, hpieces⟩
      rcases List.suffix_cons_iff.mp hright with rfl | hright
      · exact hfirst
      · exact hothers right hright hne
    · rintro ⟨hall, hpieces⟩
      exact ⟨hall _ List.suffix_rfl (List.cons_ne_nil _ _),
        fun right hright => hall right (hright.trans (List.suffix_cons _ _)), hpieces⟩

/-! ## Fewer marks -/

/-- The same pieces, of which only some count as marks. -/
def restrict (M : Marking α) (keep : α → Prop) : Marking α :=
  { M with
    IsMark := fun m => M.IsMark m ∧ keep m
    not_isMark_char := fun c h => M.not_isMark_char c h.1
    text_ne_nil := fun m h => M.text_ne_nil m h.1
    eq_of_isPrefix := fun m m' h h' => M.eq_of_isPrefix m m' h.1 h'.1 }

/-- What is read stays the same without marks that do not occur. -/
theorem IsReading.restrict {keep : α → Prop} {pieces : List α} (h : M.IsReading pieces)
    (hkeep : ∀ m ∈ pieces, M.IsMark m → keep m) : (M.restrict keep).IsReading pieces := by
  induction h with
  | nil => exact .nil
  | mark hm _ ih =>
    obtain ⟨hfirst, hrest⟩ := List.forall_mem_cons.mp hkeep
    exact .mark ⟨hm, hfirst hm⟩ (ih hrest)
  | char free _ ih =>
    refine .char (fun hbegins => free ?_) (ih (List.forall_mem_cons.mp hkeep).2)
    obtain ⟨m, hm, hstart⟩ := hbegins
    exact ⟨m, hm.1, hstart⟩

end Marking

/-! ## Replacing a pattern -/

section Replacing

variable {p : Char} {ps new : List Char}

theorem replaceAll_append_pattern (cs : List Char) :
    replaceAll p ps new (p :: ps ++ cs) = new ++ replaceAll p ps new cs := by
  have hstart : (p :: ps).isPrefixOf (p :: (ps ++ cs)) = true :=
    List.isPrefixOf_iff_prefix.mpr (List.prefix_append (p :: ps) cs)
  rw [List.cons_append, replaceAll, if_pos hstart, List.drop_left]

theorem replaceAll_cons_of_not_isPrefix {c : Char} {cs : List Char} (h : ¬ p :: ps <+: c :: cs) :
    replaceAll p ps new (c :: cs) = c :: replaceAll p ps new cs := by
  rw [replaceAll, if_neg fun hstart => h (List.isPrefixOf_iff_prefix.mp hstart)]

/-- Characters with which the pattern does not begin stay. -/
theorem replaceAll_append_of_not_mem {as : List Char} (h : p ∉ as) (cs : List Char) :
    replaceAll p ps new (as ++ cs) = as ++ replaceAll p ps new cs := by
  induction as with
  | nil => rfl
  | cons a as ih =>
    obtain ⟨hfirst, hrest⟩ := List.ne_and_not_mem_of_not_mem_cons h
    rw [List.cons_append, replaceAll_cons_of_not_isPrefix fun hstart =>
      hfirst (List.cons_prefix_cons.mp hstart).1, ih hrest, List.cons_append]

theorem occurs_iff {pattern cs : List Char} : occurs pattern cs = true ↔ pattern <:+: cs := by
  induction cs with
  | nil => simp [occurs]
  | cons c cs ih =>
    rw [occurs, Bool.or_eq_true, ih, List.isPrefixOf_iff_prefix, List.infix_cons_iff]

end Replacing

namespace Marking

/-! ## Replacing a mark -/

section OneMark

variable {α : Type} {M : Marking α} {m : α} {p : Char} {ps new : List Char}

/-- What replacing a mark by something new makes of a piece. -/
def replaced [DecidableEq α] (M : Marking α) (m : α) (new : List Char) (piece : α) : List Char :=
  if piece = m then new else M.text piece

variable [DecidableEq α] (hmark : ∀ m', M.IsMark m' ↔ m' = m) (htext : M.text m = p :: ps)

include hmark

theorem replaced_char (c : Char) : M.replaced m new (M.char c) = [c] := by
  rw [replaced, if_neg fun h => M.not_isMark_char c ((hmark _).mpr h), M.text_char]

include htext

/-- Replacing a pattern gives each piece of a reading its value. -/
theorem IsReading.replaceAll_eq {pieces : List α} (h : M.IsReading pieces) :
    replaceAll p ps new (pieces.flatMap M.text) = pieces.flatMap (M.replaced m new) := by
  induction h with
  | nil => rw [List.flatMap_nil, List.flatMap_nil, replaceAll]
  | @mark m' pieces hm _ ih =>
    obtain rfl := (hmark _).mp hm
    rw [List.flatMap_cons, List.flatMap_cons, htext, replaceAll_append_pattern, ih, replaced,
      if_pos rfl]
  | @char c pieces free _ ih =>
    have hnone : ¬ p :: ps <+: c :: pieces.flatMap M.text := fun hstart =>
      free ⟨m, (hmark m).mpr rfl, htext ▸ hstart⟩
    rw [List.flatMap_cons, List.flatMap_cons, M.text_char, List.singleton_append,
      replaceAll_cons_of_not_isPrefix hnone, ih, replaced_char hmark, List.singleton_append]

omit hmark [DecidableEq α] in
/-- Characters with which no mark begins are pieces of their own, in whatever way a text is cut. -/
theorem exists_chars_of_flatMap_text {pieces : List α} {as cs : List Char} (has : p ∉ as)
    (hpieces : ∀ piece ∈ pieces, piece = m ∨ ∃ c, piece = M.char c)
    (h : pieces.flatMap M.text = as ++ cs) :
    ∃ rest, pieces = as.map M.char ++ rest ∧ rest.flatMap M.text = cs := by
  induction as generalizing pieces with
  | nil => exact ⟨pieces, rfl, h⟩
  | cons a as ih =>
    obtain ⟨hne, hmem⟩ := List.ne_and_not_mem_of_not_mem_cons has
    cases pieces with
    | nil => cases h
    | cons piece pieces =>
      obtain ⟨hfirst, hothers⟩ := List.forall_mem_cons.mp hpieces
      rw [List.flatMap_cons] at h
      rcases hfirst with rfl | ⟨c, rfl⟩
      · rw [htext] at h
        exact absurd (List.cons.inj h).1 hne
      · rw [M.text_char] at h
        obtain ⟨rfl, hrest⟩ := List.cons.inj h
        obtain ⟨rest, rfl, hcs⟩ := ih hmem hothers hrest
        exact ⟨rest, rfl, hcs⟩

/-- A reading has at least as many marks as any other way to cut its text, and any other way has
fewer. -/
theorem IsReading.count_le {reading pieces : List α} (h : M.IsReading reading) (hps : p ∉ ps)
    (hpieces : ∀ piece ∈ pieces, piece = m ∨ ∃ c, piece = M.char c)
    (hsame : pieces.flatMap M.text = reading.flatMap M.text) :
    pieces.count m ≤ reading.count m ∧
      (reading.count m ≤ pieces.count m → pieces = reading) := by
  have hchar : ∀ c, M.char c ≠ m := fun c hc => M.not_isMark_char c ((hmark _).mpr hc)
  induction h generalizing pieces with
  | nil =>
    cases pieces with
    | nil => exact ⟨Nat.le_refl _, fun _ => rfl⟩
    | cons piece pieces =>
      rcases (List.forall_mem_cons.mp hpieces).1 with rfl | ⟨c, rfl⟩
      · rw [List.flatMap_cons, htext] at hsame
        cases hsame
      · rw [List.flatMap_cons, M.text_char] at hsame
        cases hsame
  | @mark m' reading hm _ ih =>
    obtain rfl := (hmark _).mp hm
    rw [List.flatMap_cons, htext] at hsame
    cases pieces with
    | nil => cases hsame
    | cons piece pieces =>
      obtain ⟨hfirst, hothers⟩ := List.forall_mem_cons.mp hpieces
      rw [List.flatMap_cons] at hsame
      rcases hfirst with rfl | ⟨c, rfl⟩
      · rw [htext] at hsame
        obtain ⟨hle, heq⟩ := ih hothers (List.append_cancel_left hsame)
        rw [List.count_cons_self, List.count_cons_self]
        exact ⟨Nat.succ_le_succ hle, fun hge => by rw [heq (Nat.le_of_succ_le_succ hge)]⟩
      · -- The mark is spelled by single characters here, so one mark is missing.
        rw [M.text_char] at hsame
        obtain ⟨rfl, hspelling⟩ := List.cons.inj hsame
        obtain ⟨rest, rfl, hrest⟩ := exists_chars_of_flatMap_text htext hps hothers hspelling
        have hspelled : (ps.map M.char).count m' = 0 := by
          rw [List.count_eq_zero]
          intro hmem
          obtain ⟨c, -, hc⟩ := List.mem_map.mp hmem
          exact hchar c hc
        have hfewer := (ih (List.forall_mem_append.mp hothers).2 hrest).1
        rw [List.count_cons_self, List.count_cons_of_ne (hchar _), List.count_append, hspelled]
        omega
  | @char c reading free _ ih =>
    rw [List.flatMap_cons, M.text_char, List.singleton_append] at hsame
    cases pieces with
    | nil => cases hsame
    | cons piece pieces =>
      obtain ⟨hfirst, hothers⟩ := List.forall_mem_cons.mp hpieces
      rw [List.flatMap_cons] at hsame
      rcases hfirst with rfl | ⟨d, rfl⟩
      · exact absurd (hsame ▸ begins_text_append ((hmark _).mpr rfl) _) free
      · rw [M.text_char] at hsame
        obtain ⟨rfl, hrest⟩ := List.cons.inj hsame
        rw [List.count_cons_of_ne (hchar _), List.count_cons_of_ne (hchar _)]
        obtain ⟨hle, heq⟩ := ih hothers hrest
        exact ⟨hle, fun hge => by rw [heq hge]⟩

omit hmark in
/-- A character that the mark does not have comes into the text once for each time it is put in. -/
theorem count_flatMap_replaced {x : Char} (hx : x ∉ p :: ps) (pieces : List α) :
    (pieces.flatMap (M.replaced m new)).count x =
      (pieces.flatMap M.text).count x + pieces.count m * new.count x := by
  induction pieces with
  | nil => rw [List.flatMap_nil, List.flatMap_nil, List.count_nil, List.count_nil, Nat.zero_mul]
  | cons piece pieces ih =>
    rw [List.flatMap_cons, List.flatMap_cons, List.count_append, List.count_append, ih, replaced]
    by_cases hpiece : piece = m
    · rw [if_pos hpiece, hpiece, htext, List.count_cons_self, List.count_eq_zero.mpr hx,
        Nat.succ_mul]
      omega
    · rw [if_neg hpiece, List.count_cons_of_ne hpiece, Nat.add_assoc]

/-- **Replacing a pattern gives the pieces of a text their values** if and only if the pieces are what is
read.  What is put in has a character that the pattern does not have, so putting it in once more is seen. -/
theorem replaceAll_eq_iff (hps : p ∉ ps) {x : Char} (hnew : x ∈ new) (hx : x ∉ p :: ps)
    {pieces : List α} (hpieces : ∀ piece ∈ pieces, piece = m ∨ ∃ c, piece = M.char c) :
    replaceAll p ps new (pieces.flatMap M.text) = pieces.flatMap (M.replaced m new) ↔
      M.IsReading pieces := by
  refine ⟨fun h => ?_, fun h => h.replaceAll_eq hmark htext⟩
  obtain ⟨reading, hreading, hsame⟩ := exists_isReading (M := M) (pieces.flatMap M.text)
  have hcount := congrArg (List.count x) h
  rw [← hsame, hreading.replaceAll_eq hmark htext, count_flatMap_replaced htext hx,
    count_flatMap_replaced htext hx, hsame] at hcount
  have hcount := Nat.eq_of_mul_eq_mul_right (List.count_pos_iff.mpr hnew) (Nat.add_left_cancel hcount)
  rw [(hreading.count_le hmark htext hps hpieces hsame.symm).2 hcount.le]
  exact hreading

end OneMark

end Marking
end Text
end PlannerTrials
