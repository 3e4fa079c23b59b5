import PlannerTrials.Proofs.Number.Numeral
import Mathlib.Data.List.Forall2
import Mathlib.Data.Nat.Digits.Defs

/-!
# The texts of numbers in a table

Which texts the cell of a number may hold is said here without a reader: digits of ten with an optional
plus sign, or digits of sixteen, again with an optional plus sign, behind `0x`.  `IsNumeral` and `IsWord`
say so, with the place value of the digits as the number, and the reader of cells accepts exactly these texts
and gives this number (`readWord_eq_ok_iff`).

The reader gives up at the first digit that leads beyond the bound.  This is no loss, since the value
of digits never becomes less when another digit follows.
-/

namespace PlannerTrials
namespace Number
namespace Numeral

/-! ## Digits with their values -/

/-- Characters that are digits of a radix, with their values. -/
def AreDigits (radix : Nat) (cs : List Char) (ds : List Nat) : Prop :=
  List.Forall₂ (fun c d => digitValue? radix c = some d) cs ds

/-- The number that digits make after a value, the highest first. -/
def valueFrom (radix value : Nat) (ds : List Nat) : Nat :=
  ds.foldl (fun value d => value * radix + d) value

/-- The place value of digits. -/
theorem ofDigits_reverse (radix : Nat) (ds : List Nat) :
    Nat.ofDigits radix ds.reverse = valueFrom radix 0 ds := by
  rw [Nat.ofDigits_eq_foldr, List.foldr_reverse, valueFrom]
  simp only [Nat.cast_id, Nat.add_comm, Nat.mul_comm]

/-- More digits do not make less. -/
theorem le_valueFrom {radix : Nat} (hradix : 0 < radix) (value : Nat) (ds : List Nat) :
    value ≤ valueFrom radix value ds := by
  induction ds generalizing value with
  | nil => exact Nat.le_refl value
  | cons d ds ih =>
    calc value ≤ value * radix := Nat.le_mul_of_pos_right value hradix
      _ ≤ value * radix + d := Nat.le_add_right _ _
      _ ≤ valueFrom radix (value * radix + d) ds := ih _

/-- **Digits are read as the number that they make**, if it stays below the bound. -/
theorem readDigits_eq_ok_iff {radix bound value n : Nat} (hradix : 0 < radix) (hvalue : value < bound)
    {cs : List Char} : readDigits radix bound value cs = .ok n ↔
      ∃ ds, AreDigits radix cs ds ∧ n = valueFrom radix value ds ∧ n < bound := by
  induction cs generalizing value with
  | nil =>
    rw [readDigits, Except.ok.injEq]
    constructor
    · rintro rfl
      exact ⟨[], .nil, rfl, hvalue⟩
    · rintro ⟨ds, hds, rfl, -⟩
      cases hds
      rfl
  | cons c cs ih =>
    rw [readDigits]
    constructor
    · intro h
      split at h
      · cases h
      · next d hd =>
        simp only at h
        split at h
        · next hnext =>
          obtain ⟨ds, hds, hn, hbound⟩ := (ih hnext).mp h
          exact ⟨d :: ds, .cons hd hds, hn, hbound⟩
        · cases h
    · rintro ⟨ds, hds, hn, hbound⟩
      cases hds with
      | @cons _ d _ ds hd hds =>
        have hnext : value * radix + d < bound :=
          Nat.lt_of_le_of_lt (le_valueFrom hradix _ ds) (hn ▸ hbound)
        rw [hd]
        simp only [if_pos hnext]
        exact (ih hnext).mpr ⟨ds, hds, hn, hbound⟩

/-! ## Numerals -/

/-- A text of digits of a radix, at least one, with a number below a bound; a plus sign may stand before
them. -/
def IsNumeral (radix bound : Nat) (cs : List Char) (n : Nat) : Prop :=
  ∃ text ds, (cs = text ∨ cs = '+' :: text) ∧ AreDigits radix text ds ∧ ds ≠ [] ∧
    n = Nat.ofDigits radix ds.reverse ∧ n < bound

/-- A plus sign is no digit. -/
theorem digitValue?_plus (radix : Nat) : digitValue? radix '+' = none := by
  unfold digitValue?
  simp

/-- **A numeral is read as its number**, and nothing else is read. -/
theorem read_eq_ok_iff {radix bound n : Nat} (hradix : 0 < radix) (hbound : 0 < bound)
    {cs : List Char} : read radix bound cs = .ok n ↔ IsNumeral radix bound cs n := by
  have hdigits : ∀ text, readDigits radix bound 0 text = .ok n ↔ _ := fun text =>
    readDigits_eq_ok_iff hradix hbound
  unfold IsNumeral
  simp only [ofDigits_reverse]
  constructor
  · intro h
    unfold read at h
    split at h
    · cases h
    · cases h
    · next rest hne =>
      obtain ⟨ds, hds, hn⟩ := (hdigits rest).mp h
      refine ⟨rest, ds, .inr rfl, hds, ?_, hn⟩
      rintro rfl
      cases hds
      exact hne rfl
    · next hne _ _ =>
      obtain ⟨ds, hds, hn⟩ := (hdigits _).mp h
      refine ⟨_, ds, .inl rfl, hds, ?_, hn⟩
      rintro rfl
      cases hds
      exact hne rfl
  · rintro ⟨text, ds, hcs, hds, hne, hn⟩
    have hread := (hdigits text).mpr ⟨ds, hds, hn⟩
    cases hds with
    | nil => exact absurd rfl hne
    | @cons c d cs ds hc hcs' =>
      obtain rfl | rfl := hcs
      · have hplus : c ≠ '+' := by
          rintro rfl
          rw [digitValue?_plus] at hc
          cases hc
        rw [read]
        · exact hread
        · simp
        · simp [hplus]
        · simp [hplus]
      · rw [read]
        · exact hread
        · simp

/-! ## Words -/

/-- The text of a number in a table. -/
def IsWord (cs : List Char) (n : Nat) : Prop :=
  IsNumeral 10 wordLimit cs n ∨ ∃ rest, cs = '0' :: 'x' :: rest ∧ IsNumeral 16 wordLimit rest n

/-- Digits of ten do not begin as a number in sixteen does. -/
theorem not_isNumeral_hexadecimal {rest : List Char} {n : Nat} :
    ¬IsNumeral 10 wordLimit ('0' :: 'x' :: rest) n := by
  rintro ⟨text, ds, hcs | hcs, hds, -⟩
  · subst hcs
    cases hds with
    | cons _ hds =>
      cases hds with
      | cons hx _ =>
        have hnone : digitValue? 10 'x' = none := by decide
        rw [hnone] at hx
        cases hx
  · exact absurd (List.cons.inj hcs).1 (by decide)

/-- **The cell of a number is read** if and only if it is the text of one, and as this number. -/
theorem readWord_eq_ok_iff {cs : List Char} {n : Nat} : readWord cs = .ok n ↔ IsWord cs n := by
  have hlimit : 0 < wordLimit := by decide
  unfold readWord IsWord
  split
  · next rest =>
    rw [read_eq_ok_iff (by decide) hlimit]
    constructor
    · exact fun h => .inr ⟨rest, rfl, h⟩
    · rintro (h | ⟨rest, heq, h⟩)
      · exact absurd h not_isNumeral_hexadecimal
      · obtain rfl := (List.cons.inj (List.cons.inj heq).2).2
        exact h
  · next hne =>
    rw [read_eq_ok_iff (by decide) hlimit]
    constructor
    · exact .inl
    · rintro (h | ⟨rest, rfl, -⟩)
      · exact h
      · exact absurd rfl (hne rest)

end Numeral
end Number
end PlannerTrials
