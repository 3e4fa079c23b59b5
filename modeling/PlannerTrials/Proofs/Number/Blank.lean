import PlannerTrials.Proofs.Number.Notation

/-!
# A number has no blanks in it

The texts that are read as numbers have no blank anywhere, so a cell with a number is the same before and
after trimming, and blanks around it belong to the layout of the table.  Every character of such a text has
been looked at by the reader: it is a digit of the radix or one of a few others.
-/

namespace PlannerTrials
namespace Number

/-- A digit of any radix is a letter or a figure. -/
theorem not_isBlank_of_digitValue? {radix d : Nat} {c : Char} (h : digitValue? radix c = some d) :
    Text.isBlank c = false := by
  have hrange : 48 ≤ c.toNat ∧ c.toNat ≤ 57 ∨ 97 ≤ c.toNat ∧ c.toNat ≤ 122 ∨
      65 ≤ c.toNat ∧ c.toNat ≤ 90 := by
    unfold digitValue? at h
    simp only [Option.ite_none_right_eq_some] at h
    have hlt := h.1
    split at hlt
    · exact .inl ‹_›
    · split at hlt
      · exact .inr (.inl ‹_›)
      · split at hlt
        · exact .inr (.inr ‹_›)
        · exact absurd hlt (Nat.lt_irrefl _)
  exact Text.not_isBlank_of_range (by omega) (by omega)

/-! ## Numerals -/

namespace Numeral

theorem not_isBlank_of_readDigits {radix bound v n : Nat} {cs : List Char}
    (h : readDigits radix bound v cs = .ok n) : ∀ c ∈ cs, Text.isBlank c = false := by
  induction cs generalizing v with
  | nil => exact nofun
  | cons c cs ih =>
    rw [readDigits] at h
    split at h
    · cases h
    · next d hd =>
      simp only at h
      split at h
      · exact List.forall_mem_cons.mpr ⟨not_isBlank_of_digitValue? hd, ih h⟩
      · cases h

theorem not_isBlank_of_read {radix bound n : Nat} {cs : List Char} (h : read radix bound cs = .ok n) :
    ∀ c ∈ cs, Text.isBlank c = false := by
  unfold read at h
  split at h
  · cases h
  · cases h
  · exact List.forall_mem_cons.mpr ⟨by decide, not_isBlank_of_readDigits h⟩
  · exact not_isBlank_of_readDigits h

/-- **A cell that reads as a makespan has no blank.** -/
theorem not_isBlank_of_readWord {n : Nat} {cs : List Char} (h : readWord cs = .ok n) :
    ∀ c ∈ cs, Text.isBlank c = false := by
  unfold readWord at h
  split at h
  · exact List.forall_mem_cons.mpr ⟨by decide,
      List.forall_mem_cons.mpr ⟨by decide, not_isBlank_of_read h⟩⟩
  · exact not_isBlank_of_read h

end Numeral

/-! ## Decimal fractions -/

theorem not_isBlank_of_magnitude? {e : Int} {cs : List Char}
    (h : readExponent?.magnitude? cs = some e) : ∀ c ∈ cs, Text.isBlank c = false := by
  unfold readExponent?.magnitude? at h
  split at h
  · next hdigits =>
    intro c hc
    exact not_isBlank_of_isDigit (List.all_eq_true.mp hdigits.2 c hc)
  · cases h

theorem not_isBlank_of_readExponent? {e : Int} {cs : List Char} (h : readExponent? cs = some e) :
    ∀ c ∈ cs, Text.isBlank c = false := by
  unfold readExponent? at h
  split at h
  · exact List.forall_mem_cons.mpr ⟨by decide, not_isBlank_of_magnitude? h⟩
  · obtain ⟨e, he, -⟩ := Option.map_eq_some_iff.mp h
    exact List.forall_mem_cons.mpr ⟨by decide, not_isBlank_of_magnitude? he⟩
  · exact not_isBlank_of_magnitude? h

/-- Digits are not blank, so only what is left behind them has to be looked at. -/
theorem not_isBlank_of_dropWhile {cs : List Char}
    (h : ∀ c ∈ cs.dropWhile isDigit, Text.isBlank c = false) : ∀ c ∈ cs, Text.isBlank c = false := by
  intro c hc
  rw [← cs.takeWhile_append_dropWhile (p := isDigit)] at hc
  rcases List.mem_append.mp hc with hc | hc
  · exact not_isBlank_of_isDigit (List.mem_takeWhile_imp hc)
  · exact h c hc

/-- What stands behind the digits: nothing, or a letter and an exponent. -/
theorem not_isBlank_of_rest {whole d : Decimal} {scaled : Int → Decimal} {rest : List Char}
    (h : (match rest with
      | [] => some whole
      | c :: tail => if c = 'e' ∨ c = 'E' then (readExponent? tail).map scaled else none) =
        some d) : ∀ c ∈ rest, Text.isBlank c = false := by
  cases rest with
  | nil => exact nofun
  | cons c tail =>
    simp only at h
    split at h
    · next hletter =>
      obtain ⟨e, he, -⟩ := Option.map_eq_some_iff.mp h
      refine List.forall_mem_cons.mpr ⟨?_, not_isBlank_of_readExponent? he⟩
      rcases hletter with rfl | rfl <;> decide
    · cases h

theorem not_isBlank_of_readDecimal? {d : Decimal} {cs : List Char} (h : readDecimal? cs = some d) :
    ∀ c ∈ cs, Text.isBlank c = false := by
  unfold readDecimal? at h
  simp only at h
  apply not_isBlank_of_dropWhile
  split at h
  · next tail hpoint =>
    rw [hpoint]
    refine List.forall_mem_cons.mpr ⟨by decide, not_isBlank_of_dropWhile ?_⟩
    split at h
    · cases h
    · exact not_isBlank_of_rest h
  · split at h
    · cases h
    · exact not_isBlank_of_rest h

end Number

/-! ## Doubles -/

namespace Double

open Number

/-- A capital is not blank, and any other character is its own small letter. -/
theorem not_isBlank_of_toLower {c : Char} (h : Text.isBlank c.toLower = false) :
    Text.isBlank c = false := by
  unfold Char.toLower at h
  split at h
  · next hcapital =>
    have hlow : 65 ≤ c.toNat := UInt32.le_iff_toNat_le.mp hcapital.1
    have hhigh : c.toNat ≤ 90 := UInt32.le_iff_toNat_le.mp hcapital.2
    exact Text.not_isBlank_of_range (by omega) (by omega)
  · exact h

theorem not_isBlank_of_readUnsigned? {negative : Bool} {x : Double} {cs : List Char}
    (h : readUnsigned? negative cs = some x) : ∀ c ∈ cs, Text.isBlank c = false := by
  have hword : ∀ {word : List Char}, word.all (fun c => !Text.isBlank c) = true →
      cs.map Char.toLower = word → ∀ c ∈ cs, Text.isBlank c = false := by
    rintro word hall rfl c hc
    have hlower := List.all_eq_true.mp hall _ (List.mem_map_of_mem hc)
    exact not_isBlank_of_toLower (by simpa using hlower)
  unfold readUnsigned? at h
  simp only at h
  split at h
  · next hinfinite =>
    rcases hinfinite with heq | heq
    · exact hword (by decide) heq
    · exact hword (by decide) heq
  · split at h
    · next hnan => exact hword (by decide) hnan
    · obtain ⟨d, hd, -⟩ := Option.map_eq_some_iff.mp h
      exact not_isBlank_of_readDecimal? hd

/-- **A cell that reads as a time has no blank.** -/
theorem not_isBlank_of_read {x : Double} {cs : List Char} (h : read cs = .ok x) :
    ∀ c ∈ cs, Text.isBlank c = false := by
  have hfound : ∀ {negative : Bool} {ds : List Char},
      read.found (readUnsigned? negative ds) = .ok x → ∀ c ∈ ds, Text.isBlank c = false := by
    intro negative ds hds
    cases hread : readUnsigned? negative ds with
    | none =>
      rw [hread] at hds
      cases hds
    | some y => exact not_isBlank_of_readUnsigned? hread
  unfold read at h
  split at h
  · cases h
  · exact List.forall_mem_cons.mpr ⟨by decide, hfound h⟩
  · exact List.forall_mem_cons.mpr ⟨by decide, hfound h⟩
  · exact hfound h

end Double
end PlannerTrials
