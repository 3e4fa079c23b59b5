import PlannerTrials.Number.Shortest
import PlannerTrials.Proofs.Number.Numeral
import Mathlib.Tactic.NormNum

/-!
# Decimals and the doubles they denote

A double has many decimals that denote it, and the digits on a page are only one way to write one of
them: zeros can move between the significand and the exponent.  `Decimal.shift` is that move, and
`toDouble_shift` says that it does not matter.

`toDouble_shortest` is the other half of writing and reading: the decimal that is chosen for a double
denotes it.  No property of the search is used for this.  What the search returns has been read back,
and where it finds nothing the exact value closes it, which denotes its double because it lies on a
double already (`toDouble_exactDecimal`).

A whole number becomes a double in two ways, directly and through a decimal without places.  Both are the same
(`toDouble_whole`), also beyond the last double, where a decimal is judged by its number of digits.
-/

namespace PlannerTrials
namespace Number

/-! ## Rounding a quotient that is written with other numbers -/

theorem roundDiv_mul_mul (tie : Tie) (num den : Nat) {k : Nat} (hk : 0 < k) :
    roundDiv tie (num * k) (den * k) = roundDiv tie num den := by
  have hdouble : 2 * (num % den * k) = 2 * (num % den) * k := (Nat.mul_assoc ..).symm
  unfold roundDiv
  simp only [Nat.mul_div_mul_right _ _ hk, Nat.mul_mod_mul_right, hdouble,
    Nat.mul_lt_mul_right hk]

theorem nearest_mul_mul (num den : Nat) {k : Nat} (hk : 0 < k) :
    nearest (num * k) (den * k) = nearest num den := by
  have hden (s : Nat) : den * k * s = den * s * k := by ring
  unfold nearest
  simp only [Nat.mul_div_mul_right _ _ hk, hden, roundDiv_mul_mul _ _ _ hk]

theorem ofQuanta_mul_mul (negative : Bool) (num den : Nat) {k : Nat} (hk : 0 < k) :
    Double.ofQuanta negative (num * k) (den * k) = Double.ofQuanta negative num den := by
  unfold Double.ofQuanta
  simp only [nearest_mul_mul num den hk]

/-- Equal quotients are rounded to the same double. -/
theorem ofQuanta_congr (negative : Bool) {num den num' den' : Nat} (hden : 0 < den)
    (hden' : 0 < den') (h : num * den' = num' * den) :
    Double.ofQuanta negative num den = Double.ofQuanta negative num' den' := by
  rw [← ofQuanta_mul_mul negative num den hden', ← ofQuanta_mul_mul negative num' den' hden, h,
    Nat.mul_comm den den']

/-- A double is the nearest one to itself. -/
theorem ofQuanta_of_representable (negative : Bool) {q den : Nat}
    (hq : Representable q ∧ q < limit) (hden : 0 < den) :
    Double.ofQuanta negative (q * den) den = .finite negative q hq := by
  unfold Double.ofQuanta
  simp only [nearest_of_representable hq.1 hden]
  rw [dif_pos hq.2]

/-- The sign of a quotient does not change its size. -/
theorem ofQuanta_sign {num den q : Nat} {hq : Representable q ∧ q < limit} (negative : Bool)
    (h : Double.ofQuanta false num den = .finite false q hq) :
    Double.ofQuanta negative num den = .finite negative q hq := by
  unfold Double.ofQuanta at h ⊢
  simp only at h ⊢
  split at h
  · next hlt =>
    have hnearest : nearest num den = q := (Double.finite.inj h).2
    subst hnearest
    rw [dif_pos hlt]
  · simp at h

namespace Decimal

/-! ## Moving zeros -/

/-- The same value with `k` more digits. -/
def shift (d : Decimal) (k : Nat) : Decimal := ⟨d.significand * 10 ^ k, d.exponent - k⟩

@[simp] theorem shift_zero (d : Decimal) : d.shift 0 = d := by
  rw [shift, pow_zero, mul_one, Nat.cast_zero, sub_zero]

theorem magnitude_shift (d : Decimal) (k : Nat) (h : d.significand ≠ 0) :
    (d.shift k).magnitude = d.magnitude := by
  unfold magnitude shift
  simp only
  rw [digits_mul_pow h, List.length_append, List.length_replicate]
  push_cast
  omega

/-- The quotient that a decimal of moderate size stands for. -/
theorem toDouble_eq_ofQuanta (negative : Bool) {d : Decimal} (h0 : d.significand ≠ 0)
    (hbig : ¬400 < d.magnitude) (hsmall : ¬d.magnitude < -400) :
    d.toDouble negative = .ofQuanta negative (d.significand * 10 ^ d.exponent.toNat * one)
      (10 ^ (-d.exponent).toNat) := by
  unfold toDouble
  rw [if_neg h0, if_neg hbig, if_neg hsmall, Nat.pow_eq, Nat.pow_eq]
  split
  · next he =>
    have hneg : (-d.exponent).toNat = 0 := by omega
    rw [hneg, pow_zero]
  · next he =>
    have hpos : d.exponent.toNat = 0 := by omega
    rw [hpos, pow_zero, mul_one]

/-- **Moving zeros between the significand and the exponent does not change the double.** -/
theorem toDouble_shift (negative : Bool) (d : Decimal) (k : Nat) :
    (d.shift k).toDouble negative = d.toDouble negative := by
  have hpow (n : Nat) : 0 < 10 ^ n := Nat.pow_pos (by omega)
  by_cases h0 : d.significand = 0
  · have h0' : (d.shift k).significand = 0 := by rw [shift, h0, zero_mul]
    unfold toDouble
    rw [if_pos h0', if_pos h0]
  have h0' : (d.shift k).significand ≠ 0 := Nat.mul_ne_zero h0 (hpow k).ne'
  have hmagnitude := magnitude_shift d k h0
  by_cases hbig : 400 < d.magnitude
  · unfold toDouble
    rw [if_neg h0', if_pos (by omega), if_neg h0, if_pos hbig]
  by_cases hsmall : d.magnitude < -400
  · unfold toDouble
    rw [if_neg h0', if_neg (by omega), if_pos (by omega), if_neg h0, if_neg hbig, if_pos hsmall]
  rw [toDouble_eq_ofQuanta negative h0' (by omega) (by omega),
    toDouble_eq_ofQuanta negative h0 hbig hsmall]
  refine ofQuanta_congr negative (hpow _) (hpow _) ?_
  -- both quotients have the same power of ten, on whichever side of the point it stands
  have hexp : k + (d.exponent - k).toNat + (-d.exponent).toNat =
      d.exponent.toNat + (-(d.exponent - k)).toNat := by omega
  calc
    d.significand * 10 ^ k * 10 ^ (d.exponent - k).toNat * one * 10 ^ (-d.exponent).toNat =
        d.significand * one * 10 ^ (k + (d.exponent - k).toNat + (-d.exponent).toNat) := by
      rw [pow_add, pow_add]
      ring
    _ = d.significand * one * 10 ^ (d.exponent.toNat + (-(d.exponent - k)).toNat) := by rw [hexp]
    _ = d.significand * 10 ^ d.exponent.toNat * one * 10 ^ (-(d.exponent - k)).toNat := by
      rw [pow_add]
      ring

/-! ## The sign -/

/-- The sign of a decimal does not change its size. -/
theorem toDouble_sign {d : Decimal} {q : Nat} {hq : Representable q ∧ q < limit}
    (negative : Bool) (h : d.toDouble false = .finite false q hq) :
    d.toDouble negative = .finite negative q hq := by
  unfold toDouble at h ⊢
  split
  · next h0 =>
    rw [if_pos h0] at h
    exact ofQuanta_sign negative h
  next h0 =>
  rw [if_neg h0] at h
  split
  · next hbig =>
    rw [if_pos hbig] at h
    simp at h
  next hbig =>
  rw [if_neg hbig] at h
  split
  · next hsmall =>
    rw [if_pos hsmall] at h
    exact ofQuanta_sign negative h
  next hsmall =>
  rw [if_neg hsmall] at h
  split
  · next he =>
    rw [if_pos he] at h
    exact ofQuanta_sign negative h
  · next he =>
    rw [if_neg he] at h
    exact ofQuanta_sign negative h

end Decimal

/-! ## The decimal chosen for a double -/

theorem mul_five_pow_mul_two_pow (q k : Nat) : q * 5 ^ k * 2 ^ k = q * 10 ^ k := by
  rw [mul_assoc, ← Nat.mul_pow]

theorem mul_five_pow_lt {q a b c : Nat} (h : q < 2 ^ a * 2 ^ b) (hbound : 2 ^ a < 10 ^ c) :
    q * 5 ^ b < 10 ^ (c + b) :=
  calc
    q * 5 ^ b < 2 ^ a * 2 ^ b * 5 ^ b := Nat.mul_lt_mul_of_pos_right h (Nat.pow_pos (by omega))
    _ = 2 ^ a * 5 ^ b * 2 ^ b := Nat.mul_right_comm ..
    _ = 2 ^ a * 10 ^ b := mul_five_pow_mul_two_pow _ _
    _ < 10 ^ c * 10 ^ b := Nat.mul_lt_mul_of_pos_right hbound (Nat.pow_pos (by omega))
    _ = 10 ^ (c + b) := (pow_add ..).symm

/-!
The two large exponents enter the equations below as variables, since a power with such an exponent
must not be computed on the way.
-/

theorem limit_eq {a b : Nat} (h : 2098 = a + b) : limit = 2 ^ a * 2 ^ b := by
  unfold limit
  simp only [h, Nat.pow_eq, pow_add]

theorem one_eq {b : Nat} (h : 1074 = b) : one = 2 ^ b := by
  unfold one
  simp only [h, Nat.pow_eq]

theorem significand_exactDecimal (q : Nat) {b : Nat} (h : 1074 = b) :
    (exactDecimal q).significand = q * 5 ^ b := by
  unfold exactDecimal
  simp only [h, Nat.pow_eq]

/-- The exact decimals of finite doubles lie below `10 ^ 400`. -/
theorem exactDecimal_lt {q b : Nat} (hb : 1074 = b) (h : q < limit) :
    q * 5 ^ b < 10 ^ (400 + b) := by
  rw [limit_eq (a := 1024) (b := b) (by omega)] at h
  exact mul_five_pow_lt h (by decide +kernel)

/-- The exact decimals of finite doubles other than zero are at least `10 ^ (-401)`. -/
theorem le_exactDecimal {q b : Nat} (hb : 1074 = b) (h : q ≠ 0) : 10 ^ 673 ≤ q * 5 ^ b := by
  have hbound : 10 ^ 673 ≤ 5 ^ b := by
    subst hb
    decide +kernel
  exact Nat.le_trans hbound (Nat.le_mul_of_pos_left _ (Nat.pos_of_ne_zero h))

/-- The exact decimal of a double denotes it. -/
theorem toDouble_exactDecimal {q : Nat} (h0 : q ≠ 0) (hq : Representable q ∧ q < limit) :
    (exactDecimal q).toDouble false = .finite false q hq := by
  obtain ⟨b, hb⟩ : ∃ b, 1074 = b := ⟨_, rfl⟩
  have hsignificand := significand_exactDecimal q hb
  have hne : (exactDecimal q).significand ≠ 0 := by
    rw [hsignificand]
    exact Nat.mul_ne_zero h0 (Nat.pow_pos (by omega)).ne'
  have hmagnitude : (exactDecimal q).magnitude =
      ((digits (exactDecimal q).significand).length : Int) - 1074 := rfl
  have hupper : (digits (exactDecimal q).significand).length ≤ 400 + b :=
    (length_digits_le_iff hne).mpr (hsignificand ▸ exactDecimal_lt hb hq.2)
  have hlower : ¬(digits (exactDecimal q).significand).length ≤ 673 := by
    rw [length_digits_le_iff hne, hsignificand]
    exact Nat.not_lt.mpr (le_exactDecimal hb h0)
  have hexponent : (exactDecimal q).exponent = -1074 := rfl
  have hpos : (exactDecimal q).exponent.toNat = 0 := by omega
  have hneg : (-(exactDecimal q).exponent).toNat = b := by omega
  rw [Decimal.toDouble_eq_ofQuanta false hne (by omega) (by omega), hsignificand, hpos, hneg,
    pow_zero, mul_one, one_eq hb, mul_five_pow_mul_two_pow]
  exact ofQuanta_of_representable false hq (Nat.pow_pos (by omega))

theorem toDouble_of_readsBack {q : Nat} {d : Decimal} (hq : Representable q ∧ q < limit)
    (h : readsBack q d = true) : d.toDouble false = .finite false q hq := by
  unfold readsBack at h
  split at h
  · next p hp heq =>
    have hpq : p = q := by simpa using h
    subst hpq
    exact heq
  · simp at h

/-- Whatever the search for a short decimal ends with denotes the double. -/
theorem toDouble_shortestFrom {q : Nat} (h0 : q ≠ 0) (hq : Representable q ∧ q < limit)
    (leading : Int) (tried left : Nat) :
    (shortestFrom q leading tried left).toDouble false = .finite false q hq := by
  induction left generalizing tried with
  | zero => exact toDouble_exactDecimal h0 hq
  | succ left ih =>
    rw [shortestFrom]
    obtain ⟨near, far⟩ := neighbours q (leading - tried)
    simp only
    split
    · next h => exact toDouble_of_readsBack hq h
    split
    · next h => exact toDouble_of_readsBack hq h
    · exact ih (tried + 1)

theorem toDouble_zero (negative : Bool) {d : Decimal} (h : d.significand = 0)
    (hq : Representable 0 ∧ 0 < limit) : d.toDouble negative = .finite negative 0 hq := by
  have hzero := ofQuanta_of_representable negative hq Nat.one_pos
  rw [Nat.zero_mul] at hzero
  rw [Decimal.toDouble, if_pos h, hzero]

/-- **The decimal chosen for a double denotes it.** -/
theorem toDouble_shortest (negative : Bool) {q : Nat} (hq : Representable q ∧ q < limit) :
    (shortest q).toDouble negative = .finite negative q hq := by
  unfold shortest
  split
  · next h0 =>
    subst h0
    exact toDouble_zero negative rfl hq
  · next h0 => exact Decimal.toDouble_sign negative (toDouble_shortestFrom h0 hq _ _ _)

/-! ## Whole numbers -/

/-- What is not less than a power of two stays so when it is rounded. -/
theorem two_pow_le_nearest {num a : Nat} (ha : 52 ≤ a) (h : 2 ^ a ≤ num) :
    2 ^ a ≤ nearest num 1 := by
  have hnum : num ≠ 0 := by
    have hpos : 0 < 2 ^ a := Nat.two_pow_pos a
    omega
  have hlog : a ≤ num.log2 := (Nat.le_log2 hnum).mpr h
  have hspacing : spacing num = 2 ^ (num.log2 - 52) := rfl
  have hsplit : 2 ^ num.log2 = 2 ^ 52 * spacing num := by
    rw [hspacing, ← pow_add]
    congr 1
    omega
  have hfloor : 2 ^ 52 ≤ num / spacing num := by
    rw [Nat.le_div_iff_mul_le (spacing_pos num), ← hsplit]
    exact Nat.log2_self_le hnum
  have hround : 2 ^ 52 ≤ roundDiv .toEven num (spacing num) :=
    Nat.le_trans hfloor (div_le_roundDiv .toEven num (spacing num))
  calc
    2 ^ a ≤ 2 ^ num.log2 := Nat.pow_le_pow_right (by omega) hlog
    _ = 2 ^ 52 * spacing num := hsplit
    _ ≤ roundDiv .toEven num (spacing num) * spacing num := Nat.mul_le_mul_right _ hround
    _ = nearest num 1 := by rw [nearest, Nat.div_one, Nat.one_mul]

/-- Beyond the last double a number becomes infinity. -/
theorem ofNat_of_le {n : Nat} (h : 2 ^ 1024 ≤ n) : Double.ofNat n = .infinite false := by
  obtain ⟨b, hb⟩ : ∃ b, 1074 = b := ⟨_, rfl⟩
  have hlimit : limit = 2 ^ (1024 + b) := by
    rw [limit_eq (a := 1024) (b := b) (by omega), pow_add]
  have hnearest : limit ≤ nearest (n * one) 1 := by
    rw [hlimit]
    refine two_pow_le_nearest (by omega) ?_
    rw [pow_add, one_eq hb]
    exact Nat.mul_le_mul_right _ h
  rw [Double.ofNat, Double.ofQuanta]
  exact dif_neg (Nat.not_lt.mpr hnearest)

/-- **A decimal without places denotes its number**, also where the number is too large for a double. -/
theorem toDouble_whole (n : Nat) : (Decimal.mk n 0).toDouble false = Double.ofNat n := by
  by_cases h0 : n = 0
  · subst h0
    rw [Decimal.toDouble, if_pos rfl, Double.ofNat, Nat.zero_mul]
  have hmagnitude : (Decimal.mk n 0).magnitude = (digits n).length := by
    simp [Decimal.magnitude]
  have hsmall : ¬(Decimal.mk n 0).magnitude < -400 := by omega
  by_cases hbig : 400 < (Decimal.mk n 0).magnitude
  · have hle : 10 ^ 400 ≤ n := by
      rw [← Nat.not_lt, ← length_digits_le_iff h0]
      omega
    have hpower : 2 ^ 1024 ≤ 10 ^ 400 := by decide +kernel
    rw [Decimal.toDouble, if_neg h0, if_pos hbig, ofNat_of_le (Nat.le_trans hpower hle)]
  · rw [Decimal.toDouble_eq_ofQuanta false h0 hbig hsmall]
    simp [Double.ofNat]

end Number
end PlannerTrials
