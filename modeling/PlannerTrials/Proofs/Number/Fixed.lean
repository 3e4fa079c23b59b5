import PlannerTrials.Proofs.Number.Notation
import Mathlib.Data.List.Induction

/-!
# Texts with a fixed number of places

`Double.IsFixed` says without any writing which texts a double has with a number of places behind the point: a
whole number, a point and exactly so many digits, which together make the number of units of the last place
that is nearest to the double.  What `Double.fixed` writes is such a text, and it is the only one (`isFixed_iff`).

Two facts make it the only one.  No two numbers are nearest, since of two that are equally near one is
odd (`IsNearest.eq`), and so many digits with the same value are the same digits (`eq_of_digitsValue_eq`).

Nothing is assumed of the size of the double.  A text may be as long as it has to be, and those of infinities and
of the result of an operation that has none are words without a point.
-/

namespace PlannerTrials
namespace Number

/-! ## The nearest whole number -/

/-- `n` is the whole number nearest to `num / den`, the even one of two that are equally near. -/
structure IsNearest (num den n : Nat) : Prop where
  /-- It is at most half a unit too large. -/
  le_above : 2 * (n * den) ≤ 2 * num + den
  /-- It is at most half a unit too small. -/
  le_below : 2 * num ≤ 2 * (n * den) + den
  even_of_half : 2 * (n * den) = 2 * num + den ∨ 2 * num = 2 * (n * den) + den → n % 2 = 0

theorem isNearest_roundDiv (num : Nat) {den : Nat} (hden : 0 < den) :
    IsNearest num den (roundDiv .toEven num den) := by
  have hsplit : num / den * den + num % den = num := Nat.div_add_mod' num den
  have hrest : num % den < den := Nat.mod_lt num hden
  have hnext : (num / den + 1) * den = num / den * den + den := Nat.succ_mul ..
  unfold roundDiv
  simp only
  split
  · next hlow => exact ⟨by omega, by omega, by omega⟩
  split
  · next hhigh => exact ⟨by omega, by omega, by omega⟩
  split
  · next heven => exact ⟨by omega, by omega, fun _ => heven⟩
  · next hodd => exact ⟨by omega, by omega, by omega⟩

/-- No number is nearest together with a smaller one. -/
theorem IsNearest.not_lt {num den n n' : Nat} (hden : 0 < den) (h : IsNearest num den n)
    (h' : IsNearest num den n') : ¬n < n' := by
  intro hlt
  have hbelow := h.le_below
  have habove := h'.le_above
  have hnext : (n + 1) * den = n * den + den := Nat.succ_mul ..
  by_cases hsucc : n' = n + 1
  · -- both are half a unit away, and one of them is odd
    subst hsucc
    have heven := h.even_of_half (by omega)
    have heven' := h'.even_of_half (by omega)
    omega
  · have hfar : (n + 2) * den ≤ n' * den := Nat.mul_le_mul_right den (by omega)
    have htwo : (n + 2) * den = n * den + 2 * den := Nat.add_mul ..
    omega

/-- **There is one nearest number.** -/
theorem IsNearest.eq {num den n n' : Nat} (hden : 0 < den) (h : IsNearest num den n)
    (h' : IsNearest num den n') : n = n' :=
  Nat.le_antisymm (Nat.not_lt.mp (h'.not_lt hden h)) (Nat.not_lt.mp (h.not_lt hden h'))

/-! ## As many digits -/

theorem eq_of_digitValue? {c c' : Char} {d : Nat} (h : digitValue? 10 c = some d)
    (h' : digitValue? 10 c' = some d) : c = c' := by
  have hvalue : ∀ {c : Char}, digitValue? 10 c = some d → c.toNat = 48 + d := by
    intro c h
    have hrange := toNat_of_isDigit (c := c) (by rw [isDigit, h]; rfl)
    have hdigit : c.toNat - 48 < 10 := by omega
    unfold digitValue? at h
    simp only [if_pos hrange, if_pos hdigit, Option.some.injEq] at h
    omega
  rw [← Char.toNat_inj, hvalue h, hvalue h']

/-- The last digit is a remainder. -/
theorem exists_digitsValue_concat {c : Char} (hc : isDigit c = true) :
    ∃ d < 10, digitValue? 10 c = some d ∧
      ∀ cs, digitsValue 0 (cs ++ [c]) = 10 * digitsValue 0 cs + d := by
  obtain ⟨d, hd, hvalue⟩ := exists_digitValue? hc
  refine ⟨d, hd, hvalue, fun cs => ?_⟩
  rw [digitsValue_append, digitsValue_cons, digitsValue_nil, hvalue]
  rfl

theorem digitsValue_lt {cs : List Char} (hcs : ∀ c ∈ cs, isDigit c = true) :
    digitsValue 0 cs < 10 ^ cs.length := by
  induction cs using List.reverseRecOn with
  | nil => exact Nat.one_pos
  | append_singleton cs c ih =>
    obtain ⟨d, hd, -, hvalue⟩ := exists_digitsValue_concat (hcs c (by simp))
    have hlt := ih fun c hc => hcs c (List.mem_append_left _ hc)
    rw [hvalue, List.length_append, List.length_singleton, pow_succ]
    omega

/-- **As many digits with the same value are the same digits.** -/
theorem eq_of_digitsValue_eq {cs cs' : List Char} (hcs : ∀ c ∈ cs, isDigit c = true)
    (hcs' : ∀ c ∈ cs', isDigit c = true) (hlength : cs.length = cs'.length)
    (hvalue : digitsValue 0 cs = digitsValue 0 cs') : cs = cs' := by
  induction cs using List.reverseRecOn generalizing cs' with
  | nil => exact (List.length_eq_zero_iff.mp hlength.symm).symm
  | append_singleton cs c ih =>
    rcases List.eq_nil_or_concat' cs' with rfl | ⟨cs', c', rfl⟩
    · simp at hlength
    obtain ⟨d, hd, hc, hconcat⟩ := exists_digitsValue_concat (hcs c (by simp))
    obtain ⟨d', hd', hc', hconcat'⟩ := exists_digitsValue_concat (hcs' c' (by simp))
    rw [hconcat, hconcat'] at hvalue
    have hlast : d = d' := by omega
    have hrest : cs = cs' := by
      refine ih (fun c hc => hcs c (List.mem_append_left _ hc))
        (fun c hc => hcs' c (List.mem_append_left _ hc)) ?_ (by omega)
      simpa using hlength
    subst hlast
    rw [hrest, eq_of_digitValue? hc hc']

theorem length_digits_le {places n : Nat} (hplaces : 0 < places) (h : n < 10 ^ places) :
    (digits n).length ≤ places := by
  by_cases h0 : n = 0
  · subst h0
    rw [digits]
    exact hplaces
  · exact (length_digits_le_iff h0).mpr h

theorem quanta_pos : 0 < one := by
  obtain ⟨b, hb⟩ : ∃ b, 1074 = b := ⟨_, rfl⟩
  rw [one_eq hb]
  exact Nat.two_pow_pos b

end Number

open Number

namespace Double

/-! ## Texts with places -/

/-- A text of a double with places behind the point. -/
def IsFixed (places : Nat) : Double → List Char → Prop
  | .nan, cs => cs = "NaN".toList
  | .infinite negative, cs => cs = signed negative "inf".toList
  | .finite negative q _, cs =>
    ∃ whole fraction, cs = signed negative (digits whole ++ '.' :: fraction) ∧
      fraction.length = places ∧ (∀ c ∈ fraction, isDigit c = true) ∧
      IsNearest (q * 10 ^ places) one (whole * 10 ^ places + digitsValue 0 fraction)

theorem isFixed_fixed {places : Nat} (hplaces : 0 < places) (x : Double) :
    x.IsFixed places (x.fixed places) := by
  cases x with
  | nan => rfl
  | infinite negative => rfl
  | finite negative q hq =>
    have hnearest := isNearest_roundDiv (q * 10 ^ places) quanta_pos
    unfold fixed
    rw [Nat.pow_eq]
    simp only [if_neg (Nat.ne_of_gt hplaces)]
    generalize roundDiv .toEven (q * 10 ^ places) one = n at hnearest
    have hlength : (digits (n % 10 ^ places)).length ≤ places :=
      length_digits_le hplaces (Nat.mod_lt _ (Nat.pow_pos (by omega)))
    refine ⟨n / 10 ^ places, _, rfl, ?_, ?_, ?_⟩
    · rw [List.length_append, List.length_replicate]
      omega
    · intro c hc
      rcases List.mem_append.mp hc with hc | hc
      · rw [(List.mem_replicate.mp hc).2]
        exact isDigit_zero
      · exact isDigit_of_mem_digits hc
    · rw [digitsValue_append, digitsValue_replicate_zero, zero_mul, digitsValue_digits,
        Nat.div_add_mod']
      exact hnearest

theorem IsFixed.eq {places : Nat} {x : Double} {cs cs' : List Char} (h : x.IsFixed places cs)
    (h' : x.IsFixed places cs') : cs = cs' := by
  cases x with
  | nan => exact h.trans h'.symm
  | infinite negative => exact h.trans h'.symm
  | finite negative q hq =>
    obtain ⟨whole, fraction, rfl, hlength, hdigits, hnearest⟩ := h
    obtain ⟨whole', fraction', rfl, hlength', hdigits', hnearest'⟩ := h'
    have hvalue := hnearest.eq quanta_pos hnearest'
    have hlt := digitsValue_lt hdigits
    have hlt' := digitsValue_lt hdigits'
    rw [hlength] at hlt
    rw [hlength'] at hlt'
    -- the digits behind the point make less than one, so that the whole number is a quotient
    have hquotient : ∀ {value : Nat} (whole : Nat), value < 10 ^ places →
        (whole * 10 ^ places + value) / 10 ^ places = whole := by
      intro value whole hlt
      rw [Nat.mul_comm, Nat.mul_add_div (Nat.pow_pos (by omega)), Nat.div_eq_of_lt hlt, Nat.add_zero]
    have hwhole : whole = whole' := by
      rw [← hquotient whole hlt, hvalue, hquotient whole' hlt']
    subst hwhole
    rw [eq_of_digitsValue_eq hdigits hdigits' (hlength.trans hlength'.symm)
      (Nat.add_left_cancel hvalue)]

/-- **What is written is the only text with so many places.** -/
theorem isFixed_iff {places : Nat} (hplaces : 0 < places) {x : Double} {cs : List Char} :
    x.IsFixed places cs ↔ cs = x.fixed places :=
  ⟨fun h => h.eq (isFixed_fixed hplaces x), fun h => h ▸ isFixed_fixed hplaces x⟩

end Double
end PlannerTrials
