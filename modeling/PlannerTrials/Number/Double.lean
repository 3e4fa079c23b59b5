import PlannerTrials.Number.Rounding

/-!
# Doubles

Times are kept in the 64-bit binary format, so that their texts agree to the last digit with those
of any other program that keeps them so.  A finite double is a whole number of *quanta* of
`2 ^ -1074`, the smallest positive value of the format, and the type says which whole numbers
those are: at most 53 binary digits from the first to the last one that is not zero, and below
`2 ^ 2098`.

Every operation computes its exact result as a quotient of natural numbers and rounds once, to the
nearest double, an exact half to the one with an even last digit.  `nearest` is that rounding;
`representable_nearest` says that it lands on a double, and `nearest_of_representable` that a double is its
own rounding.
-/

namespace PlannerTrials.Number

/-- How many quanta make one. -/
def one : Nat := Nat.pow 2 1074

/-- The distance between neighbouring doubles around `q` quanta. -/
def spacing (q : Nat) : Nat := Nat.pow 2 (q.log2 - 52)

/-- Where the finite doubles end. -/
def limit : Nat := Nat.pow 2 2098

/-- `q` quanta have at most 53 significant binary digits. -/
def Representable (q : Nat) : Prop := q % spacing q = 0

instance (q : Nat) : Decidable (Representable q) := inferInstanceAs (Decidable (_ = _))

/-- `num / den` quanta, rounded to 53 significant binary digits. -/
def nearest (num den : Nat) : Nat :=
  let step := spacing (num / den)
  roundDiv .toEven num (den * step) * step

theorem spacing_pos (q : Nat) : 0 < spacing q := Nat.two_pow_pos _

/-- Up to `2 ^ 53` steps of a power of two are representable. -/
theorem representable_mul_two_pow {k : Nat} (hk : k ≤ Nat.pow 2 53) (e : Nat) :
    Representable (k * Nat.pow 2 e) := by
  unfold Representable spacing
  rw [Nat.pow_eq] at hk ⊢
  rw [Nat.pow_eq]
  by_cases h0 : k = 0
  · subst h0; simp
  have hpos : k * 2 ^ e ≠ 0 := Nat.mul_ne_zero h0 (Nat.ne_of_gt (Nat.two_pow_pos e))
  by_cases hlt : k < 2 ^ 53
  · have hlog : (k * 2 ^ e).log2 < 53 + e := by
      rw [Nat.log2_lt hpos, Nat.pow_add]
      exact Nat.mul_lt_mul_of_pos_right hlt (Nat.two_pow_pos e)
    have hle : (k * 2 ^ e).log2 - 52 ≤ e := by omega
    exact Nat.mod_eq_zero_of_dvd
      (Nat.dvd_trans (Nat.pow_dvd_pow 2 hle) (Nat.dvd_mul_left _ _))
  · have hk' : k = 2 ^ 53 := by omega
    subst hk'
    rw [← Nat.pow_add, Nat.log2_two_pow]
    exact Nat.mod_eq_zero_of_dvd (Nat.pow_dvd_pow 2 (by omega))

/-- The floor of a quotient fills at most 53 digits of its own spacing. -/
theorem div_spacing_lt (q : Nat) : q / spacing q < Nat.pow 2 53 := by
  rw [Nat.pow_eq]
  rw [Nat.div_lt_iff_lt_mul (spacing_pos q)]
  by_cases h0 : q = 0
  · subst h0; exact Nat.mul_pos (by decide) (spacing_pos 0)
  · unfold spacing
    rw [Nat.pow_eq, ← Nat.pow_add]
    have h := (Nat.log2_lt h0 (k := q.log2 + 1)).1 (Nat.lt_succ_self _)
    exact Nat.lt_of_lt_of_le h (Nat.pow_le_pow_right (by decide) (by omega))

/-- Rounding lands on a number with 53 significant binary digits. -/
theorem representable_nearest (num den : Nat) : Representable (nearest num den) := by
  unfold nearest
  refine representable_mul_two_pow ?_ _
  have h := roundDiv_le_div_add_one .toEven num (den * spacing (num / den))
  rw [← Nat.div_div_eq_div_mul] at h
  have hlt := div_spacing_lt (num / den)
  omega

/-- A representable number of quanta is its own rounding. -/
theorem nearest_of_representable {q den : Nat} (hq : Representable q) (hden : 0 < den) :
    nearest (q * den) den = q := by
  unfold nearest
  rw [Nat.mul_div_cancel _ hden]
  obtain ⟨k, hk⟩ := Nat.dvd_of_mod_eq_zero hq
  have hs := spacing_pos q
  generalize hspacing : spacing q = s at *
  subst hk
  have h : s * k * den = k * (den * s) := by
    rw [Nat.mul_comm s k, Nat.mul_assoc, Nat.mul_comm s den]
  simp only [h, roundDiv_mul_self .toEven k (Nat.mul_pos hden hs)]
  exact Nat.mul_comm k s

end PlannerTrials.Number

namespace PlannerTrials

open Number

/-- A number of the 64-bit binary format. -/
inductive Double where
  /-- The result of an operation that has none. -/
  | nan
  /-- Larger in size than every finite double. -/
  | infinite (negative : Bool)
  /-- A whole number of quanta, with a sign also for zero. -/
  | finite (negative : Bool) (quanta : Nat) (canonical : Representable quanta ∧ quanta < limit)
  deriving DecidableEq

namespace Double

/-- The double nearest to `num / den` quanta; beyond the last double there is infinity. -/
def ofQuanta (negative : Bool) (num den : Nat) : Double :=
  let q := nearest num den
  if h : q < limit then .finite negative q ⟨representable_nearest num den, h⟩
  else .infinite negative

/-- Zero, without a minus. -/
def zero : Double := ofQuanta false 0 1

instance : Inhabited Double := ⟨zero⟩

/-- The double nearest to a natural number. -/
def ofNat (n : Nat) : Double := ofQuanta false (n * one) 1

/-- The same size with the other sign. -/
def neg : Double → Double
  | .nan => .nan
  | .infinite s => .infinite !s
  | .finite s q h => .finite (!s) q h

/-- The sum.  Opposite infinities have none, and a sum of zeros is negative only if both are. -/
def add : Double → Double → Double
  | .nan, _ => .nan
  | _, .nan => .nan
  | .infinite s, .infinite t => if s = t then .infinite s else .nan
  | .infinite s, .finite .. => .infinite s
  | .finite .., .infinite t => .infinite t
  | .finite s p _, .finite t q _ =>
    if s = t then ofQuanta s (p + q) 1
    else if q < p then ofQuanta s (p - q) 1
    else if p < q then ofQuanta t (q - p) 1
    else zero

instance : Add Double := ⟨add⟩

/-- The product with a positive natural number. -/
def scale (x : Double) (k : Nat) : Double :=
  match x with
  | .finite s q _ => ofQuanta s (q * k) 1
  | x => x

/-- The quotient by a positive natural number. -/
def dividedBy (x : Double) (k : Nat) : Double :=
  match x with
  | .finite s q _ => ofQuanta s q k
  | x => x

/-- The nearest whole number, an exact half away from zero. -/
def round : Double → Double
  | .finite s q _ => ofQuanta s (roundDiv .away q one * one) 1
  | x => x

/-- Rounded to whole thousandths. -/
def roundMillis (x : Double) : Double := (x.scale 1000).round.dividedBy 1000

/-! ## Bit patterns -/

/-- How many fractions there are in 52 bits. -/
def fractionCount : Nat := 0x10000000000000

/-- The bit for the sign. -/
def signBit (negative : Bool) : Nat := if negative then 0x8000000000000000 else 0

/-- The 64 bits: sign, eleven bits of exponent, 52 of fraction. -/
def toBits : Double → Nat
  | .nan => 0x7ff8000000000000
  | .infinite s => signBit s + 0x7ff0000000000000
  | .finite s q _ =>
    let e := q.log2 - 52
    signBit s + (e * fractionCount + q / Nat.pow 2 e)

/-- The double with the given 64 bits. -/
def ofBits (bits : Nat) : Double :=
  let negative := bits / signBit true % 2 = 1
  let exponent := bits / fractionCount % 2048
  let fraction := bits % fractionCount
  if exponent = 2047 then
    if fraction = 0 then .infinite negative else .nan
  else if exponent = 0 then ofQuanta negative fraction 1
  else ofQuanta negative ((fractionCount + fraction) * Nat.pow 2 (exponent - 1)) 1

end Double

end PlannerTrials
