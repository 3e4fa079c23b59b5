import PlannerTrials.Proofs.Files.Plain

/-!
# A file is replaced as a whole or not at all

Replacing a file takes three steps, and each of them may fail: the folders above it are made, the content
is written to the file beside it, and that file takes its place.  The file itself is touched by the last
step only, and the last step happens as a whole or not at all.  So after a failure the file is what it was
(`Sight.Kept`), and after a success it is the new content and the file beside it is gone
(`Sight.Replaced`).  Nothing else changes but folders that were missing.

What has to be known of paths is that the file beside is in the same folder under another name.
-/

namespace PlannerTrials
namespace Files

open PlannerTrials.Path (fileName?)

/-- The place of the file beside a path that takes the content until it is complete. -/
def spareFrom (working : Location) (path : String) : Location :=
  (placeFrom working path).dropLast ++ [Utf8.encodeString ((fileName? path).getD "" ++ ".tmp")]

section Places

variable {working : Location} {path name : String}

theorem placeFrom_temporary (h : fileName? path = some name) :
    placeFrom working (Disk.temporary path) = spareFrom working path := by
  unfold Disk.temporary spareFrom
  rw [h, Option.getD_some]
  exact placeFrom_withFileName h (isName_append_tmp h)

theorem IsStraight.temporary (h : IsStraight path) (hname : fileName? path = some name) :
    IsStraight (Disk.temporary path) := by
  unfold Disk.temporary
  rw [hname, Option.getD_some]
  exact h.withFileName hname (isName_append_tmp hname)

/-- A place with a last name is not empty, and the place above it is not below it. -/
theorem not_placeFrom_isPrefix_dropLast (h : fileName? path = some name) :
    ¬placeFrom working path <+: (placeFrom working path).dropLast := by
  intro hfirst
  have hlength := hfirst.length_le
  rw [placeFrom_of_fileName? h, List.dropLast_concat, List.length_append] at hlength
  exact absurd hlength (by simp)

/-- The file beside is not above, at or below the file. -/
theorem not_placeFrom_isPrefix_spareFrom (h : fileName? path = some name) :
    ¬placeFrom working path <+: spareFrom working path := by
  intro hfirst
  have heq := hfirst.eq_of_length (by
    rw [placeFrom_of_fileName? h, spareFrom, List.length_append, List.length_append]
    rfl)
  rw [placeFrom_of_fileName? h, spareFrom, h, Option.getD_some] at heq
  have hlast := List.cons.inj (List.append_cancel_left heq)
  have hnames := Utf8.encode_injective hlast.1
  rw [String.toList_append] at hnames
  exact absurd (List.self_eq_append_right.mp hnames) (by decide)

end Places

/-! ## The outcomes -/

section Outcomes

variable {σ : Type} (sight : Sight σ) (path : String)

/-- The file at a path, or what else was there, is kept with all that is below it. -/
structure Sight.Kept (s s' : σ) : Prop where
  same : ∀ place, sight.placeOf path <+: place → sight.entry? s' place = sight.entry? s place
  others : ∀ place, place ≠ spareFrom sight.working path →
    sight.AsBefore (sight.placeOf path).dropLast s s' place

/-- The file at a path has a new content. -/
structure Sight.Replaced (content : Bytes) (s s' : σ) : Prop where
  there : sight.entry? s' (sight.placeOf path) = some (.file content)
  gone : sight.entry? s' (spareFrom sight.working path) = none
  others : ∀ place, place ≠ sight.placeOf path → place ≠ spareFrom sight.working path →
    sight.AsBefore (sight.placeOf path).dropLast s s' place

/-- The ways in which replacing a file can go. -/
inductive Disk.Goes (disk : Disk σ) (content : Bytes) (s : σ) : Except Fault Unit → σ → Prop
  /-- The folders above it could not be made. -/
  | noFolders {fault made} (hmade : disk.makeParents path s = (.error fault, made)) :
    Goes disk content s (.error fault) made
  /-- The content could not be written. -/
  | notWritten {fault made written} (hmade : disk.makeParents path s = (.ok (), made))
    (hwritten : disk.write (Disk.temporary path) content made = (.error fault, written)) :
    Goes disk content s (.error fault) written
  /-- The content has been written, and what happens then happens to its file. -/
  | written {made written renamed result} (hmade : disk.makeParents path s = (.ok (), made))
    (hwritten : disk.write (Disk.temporary path) content made = (.ok (), written))
    (hrenamed : disk.rename (Disk.temporary path) path written = (result, renamed)) :
    Goes disk content s result renamed

theorem Disk.goes_replaceFile (disk : Disk σ) (content : Bytes) (s : σ) :
    disk.Goes path content s (disk.replaceFile path content s).1
      (disk.replaceFile path content s).2 := by
  unfold Disk.replaceFile
  cases hmade : disk.makeParents path s with
  | mk result made =>
    cases result with
    | error fault => exact .noFolders hmade
    | ok =>
      simp only
      cases hwritten : disk.write (Disk.temporary path) content made with
      | mk result written =>
        cases result with
        | error fault => exact .notWritten hmade hwritten
        | ok => exact .written hmade hwritten rfl

end Outcomes

/-! ## Each step and all of them -/

section Steps

variable {σ : Type} {disk : Disk σ} {sight : Sight σ} (hdisk : disk.Plain sight)
  {path name : String} (hname : fileName? path = some name) (hpath : IsStraight path)
  {content : Bytes} {s : σ} (hs : sight.Sound s)

include hdisk hname hpath hs

/-- The folders above a file are made, or some of them. -/
theorem Disk.Plain.makeParents :
    sight.Sound (disk.makeParents path s).2 ∧
      ∀ place, sight.AsBefore (sight.placeOf path).dropLast s (disk.makeParents path s).2 place := by
  obtain ⟨parent, hparent⟩ := Path.exists_parent? hname
  unfold Disk.makeParents
  rw [hparent]
  simp only
  split
  · exact ⟨hs, fun _ => .refl⟩
  · obtain ⟨hsound, hbefore⟩ := hdisk.makeFolders hs (hpath.parent? hparent)
    have hplace : sight.placeOf parent = (sight.placeOf path).dropLast :=
      placeFrom_parent? hname hparent
    exact ⟨hsound, hplace ▸ hbefore⟩

/-- Until the file beside takes its place nothing but that file and missing folders change. -/
theorem Disk.Plain.write_temporary (content : Bytes) :
    sight.Sound (disk.write (Disk.temporary path) content (disk.makeParents path s).2).2 ∧
      ∀ place, place ≠ spareFrom sight.working path →
        sight.AsBefore (sight.placeOf path).dropLast s
          (disk.write (Disk.temporary path) content (disk.makeParents path s).2).2 place := by
  obtain ⟨hmade, hbefore⟩ := hdisk.makeParents hname hpath hs
  obtain ⟨hwritten, hothers⟩ := hdisk.write content hmade (hpath.temporary hname)
  refine ⟨hwritten, fun place hplace => (hbefore place).of_eq (hothers place ?_)⟩
  rw [Sight.placeOf, placeFrom_temporary hname]
  exact hplace

omit hdisk hpath hs in
/-- A place at or below the file is kept where only the file beside and folders above change. -/
theorem Sight.kept_of_others {s' : σ}
    (h : ∀ place, place ≠ spareFrom sight.working path →
      sight.AsBefore (sight.placeOf path).dropLast s s' place) : sight.Kept path s s' := by
  refine ⟨fun place hplace => (h place ?_).eq ?_, h⟩
  · rintro rfl
    exact not_placeFrom_isPrefix_spareFrom hname hplace
  · exact fun habove => not_placeFrom_isPrefix_dropLast hname (hplace.trans habove)

/-- The file beside takes the place of the file, or stays where it is. -/
theorem Disk.Plain.rename_temporary {made written renamed : σ} {result : Except Fault Unit}
    (hmade : disk.makeParents path s = (.ok (), made))
    (hwritten : disk.write (Disk.temporary path) content made = (.ok (), written))
    (hrenamed : disk.rename (Disk.temporary path) path written = (result, renamed)) :
    (∀ fault, result = .error fault → sight.Kept path s renamed) ∧
      (result = .ok () → sight.Replaced path content s renamed ∧ sight.NamesFile path) := by
  have hspare : IsStraight (Disk.temporary path) := hpath.temporary hname
  have hplace : sight.placeOf (Disk.temporary path) = spareFrom sight.working path :=
    placeFrom_temporary hname
  have hne : sight.placeOf (Disk.temporary path) ≠ sight.placeOf path := by
    rw [hplace]
    intro heq
    have hself : placeFrom sight.working path <+: spareFrom sight.working path :=
      heq ▸ List.prefix_rfl
    exact not_placeFrom_isPrefix_spareFrom hname hself
  obtain ⟨hmadeSound, -⟩ := hdisk.makeParents hname hpath hs
  obtain ⟨hsound, hbefore⟩ := hdisk.write_temporary hname hpath hs content
  rw [hmade] at hmadeSound hsound hbefore
  have hcontent := hdisk.write_ok hmadeSound hspare hwritten
  rw [hwritten] at hsound hbefore
  constructor
  · rintro fault rfl
    refine Sight.kept_of_others hname fun place hplace => (hbefore place hplace).of_eq ?_
    exact hdisk.rename_error hsound hspare hpath hrenamed place
  · rintro rfl
    obtain ⟨hmoved, hnames⟩ := hdisk.rename_ok hsound hspare hpath hne hcontent hrenamed
    rw [hplace] at hmoved
    refine ⟨⟨hmoved.there, hmoved.gone, fun place htarget hspare => ?_⟩, hnames⟩
    exact (hbefore place hspare).of_eq (hmoved.others place hspare htarget)

/-- **A file is replaced as a whole or not at all**, whichever step fails. -/
theorem Disk.Plain.of_goes {s' : σ} {result : Except Fault Unit}
    (h : disk.Goes path content s result s') :
    sight.Sound s' ∧ (∀ fault, result = .error fault → sight.Kept path s s') ∧
      (result = .ok () → sight.Replaced path content s s' ∧ sight.NamesFile path) := by
  have hparents := hdisk.makeParents hname hpath hs
  have hspare := hdisk.write_temporary hname hpath hs content
  cases h with
  | noFolders hmade =>
    rw [hmade] at hparents
    exact ⟨hparents.1, fun _ _ => Sight.kept_of_others hname fun place _ => hparents.2 place, nofun⟩
  | notWritten hmade hwritten =>
    rw [hmade, hwritten] at hspare
    exact ⟨hspare.1, fun _ _ => Sight.kept_of_others hname hspare.2, nofun⟩
  | written hmade hwritten hrenamed =>
    have hrename := hdisk.rename_temporary hname hpath hs hmade hwritten hrenamed
    rw [hmade, hwritten] at hspare
    have hsound := hdisk.rename hspare.1 (hpath.temporary hname) hpath
    rw [hrenamed] at hsound
    exact ⟨hsound, hrename⟩

end Steps

end Files
end PlannerTrials
