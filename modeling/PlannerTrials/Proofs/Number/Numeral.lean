import PlannerTrials.Number.Numeral
import Mathlib.Algebra.Order.Ring.Nat
import Mathlib.Tactic.IntervalCases
import Mathlib.Tactic.Ring

/-!
# Numerals are read back

The numeral of a number is the only text of digits without a leading zero that denotes it.  What is
needed of it elsewhere are four facts.

* `isDigit_of_mem_digits`: it consists of digits.
* `digitsValue_digits`: it denotes the number.
* `length_digits_le_iff`: its length tells between which powers of ten the number lies.
* `digits_mul_pow`: zeros are appended to it when the number is multiplied by a power of ten.

With the first two a cell of a table that holds the numeral of a number below the limit is read back
(`readWord_digits`).
-/

namespace PlannerTrials
namespace Number

/-! ## Digits -/

theorem digitValue?_digitChar {d : Nat} (h : d < 10) : digitValue? 10 (digitChar d) = some d := by
  interval_cases d <;> decide

theorem isDigit_digitChar {d : Nat} (h : d < 10) : isDigit (digitChar d) = true := by
  unfold isDigit
  rw [digitValue?_digitChar h]
  rfl

theorem exists_digitValue? {c : Char} (h : isDigit c = true) :
    ∃ d < 10, digitValue? 10 c = some d := by
  unfold isDigit at h
  obtain ⟨d, hd⟩ := Option.isSome_iff_exists.mp h
  refine ⟨d, ?_, hd⟩
  unfold digitValue? at hd
  simp only [Option.ite_none_right_eq_some, Option.some.injEq] at hd
  rw [← hd.2]
  exact hd.1

theorem digits_of_le {n : Nat} (h : 10 ≤ n) :
    digits n = digits (n / 10) ++ [digitChar (n % 10)] := by
  rw [digits, if_neg (by omega)]

theorem digits_ne_nil (n : Nat) : digits n ≠ [] := by
  rw [digits]
  split <;> simp

theorem isDigit_of_mem_digits {n : Nat} {c : Char} (h : c ∈ digits n) : isDigit c = true := by
  fun_induction digits n with
  | case1 n hn =>
    rw [List.mem_singleton.mp h]
    exact isDigit_digitChar hn
  | case2 n hn ih =>
    rcases List.mem_append.mp h with h | h
    · exact ih h
    · rw [List.mem_singleton.mp h]
      exact isDigit_digitChar (Nat.mod_lt _ (by omega))

/-! ## The value of digits -/

theorem digitsValue_nil (v : Nat) : digitsValue v [] = v := rfl

theorem digitsValue_cons (v : Nat) (c : Char) (cs : List Char) :
    digitsValue v (c :: cs) = digitsValue (10 * v + (digitValue? 10 c).getD 0) cs := rfl

theorem digitsValue_append (v : Nat) (as bs : List Char) :
    digitsValue v (as ++ bs) = digitsValue (digitsValue v as) bs :=
  List.foldl_append

theorem digitsValue_concat_digit (v : Nat) (cs : List Char) {d : Nat} (h : d < 10) :
    digitsValue v (cs ++ [digitChar d]) = 10 * digitsValue v cs + d := by
  rw [digitsValue_append, digitsValue_cons, digitsValue_nil, digitValue?_digitChar h]
  rfl

theorem digitsValue_replicate_zero (v k : Nat) :
    digitsValue v (List.replicate k '0') = v * 10 ^ k := by
  induction k generalizing v with
  | zero => rw [List.replicate_zero, digitsValue_nil, pow_zero, mul_one]
  | succ k ih =>
    have hzero : (digitValue? 10 '0').getD 0 = 0 := by decide
    rw [List.replicate_succ, digitsValue_cons, hzero, ih, pow_succ]
    ring

/-- The numeral of a number denotes it. -/
theorem digitsValue_digits (n : Nat) : digitsValue 0 (digits n) = n := by
  fun_induction digits n with
  | case1 n hn => exact digitsValue_concat_digit 0 [] hn |>.trans (by rw [digitsValue_nil]; omega)
  | case2 n hn ih =>
    rw [digitsValue_concat_digit _ _ (Nat.mod_lt _ (by omega)), ih]
    omega

theorem le_digitsValue (v : Nat) (cs : List Char) : v ≤ digitsValue v cs := by
  induction cs generalizing v with
  | nil => exact Nat.le_refl v
  | cons c cs ih =>
    rw [digitsValue_cons]
    exact Nat.le_trans (by omega) (ih _)

/-! ## The length of a numeral -/

theorem lt_pow_length_digits (n : Nat) : n < 10 ^ (digits n).length := by
  fun_induction digits n with
  | case1 n hn => rw [List.length_singleton, pow_one]; exact hn
  | case2 n hn ih =>
    rw [List.length_append, List.length_singleton, pow_succ]
    omega

theorem pow_length_digits_le {n : Nat} (h : n ≠ 0) : 10 ^ ((digits n).length - 1) ≤ n := by
  fun_induction digits n with
  | case1 n hn =>
    rw [List.length_singleton]
    exact Nat.one_le_iff_ne_zero.mpr h
  | case2 n hn ih =>
    have hlength : (digits (n / 10)).length ≠ 0 := by
      rw [Ne, List.length_eq_zero_iff]
      exact digits_ne_nil _
    have hpow := ih (by omega)
    rw [List.length_append, List.length_singleton]
    calc
      10 ^ ((digits (n / 10)).length + 1 - 1) = 10 ^ ((digits (n / 10)).length - 1) * 10 := by
        rw [← pow_succ]
        congr 1
        omega
      _ ≤ n / 10 * 10 := Nat.mul_le_mul_right 10 hpow
      _ ≤ n := Nat.div_mul_le_self n 10

/-- **The length of a numeral** tells below which powers of ten the number lies. -/
theorem length_digits_le_iff {n k : Nat} (h : n ≠ 0) : (digits n).length ≤ k ↔ n < 10 ^ k := by
  constructor
  · intro hk
    exact Nat.lt_of_lt_of_le (lt_pow_length_digits n) (Nat.pow_le_pow_right (by omega) hk)
  · intro hlt
    by_contra hk
    have hle : 10 ^ k ≤ 10 ^ ((digits n).length - 1) := Nat.pow_le_pow_right (by omega) (by omega)
    have := pow_length_digits_le h
    omega

theorem digits_mul_ten {n : Nat} (h : n ≠ 0) : digits (n * 10) = digits n ++ ['0'] := by
  rw [digits_of_le (by omega), Nat.mul_div_cancel n (by omega), Nat.mul_mod_left]
  rfl

/-- A power of ten appends zeros. -/
theorem digits_mul_pow {n : Nat} (h : n ≠ 0) (k : Nat) :
    digits (n * 10 ^ k) = digits n ++ List.replicate k '0' := by
  induction k with
  | zero => rw [pow_zero, mul_one, List.replicate_zero, List.append_nil]
  | succ k ih =>
    have hne : n * 10 ^ k ≠ 0 := Nat.mul_ne_zero h (Nat.pos_iff_ne_zero.mp (by positivity))
    rw [pow_succ, ← mul_assoc, digits_mul_ten hne, ih, List.append_assoc, List.replicate_succ']

/-! ## Reading -/

namespace Numeral

/-- The value of digits is read as long as it stays below the bound. -/
theorem readDigits_of_lt {bound v : Nat} {cs : List Char} (hdigits : ∀ c ∈ cs, isDigit c = true)
    (hlt : digitsValue v cs < bound) : readDigits 10 bound v cs = .ok (digitsValue v cs) := by
  induction cs generalizing v with
  | nil => rfl
  | cons c cs ih =>
    obtain ⟨d, -, hd⟩ := exists_digitValue? (hdigits c List.mem_cons_self)
    have hvalue : digitsValue v (c :: cs) = digitsValue (v * 10 + d) cs := by
      rw [digitsValue_cons, hd, Option.getD_some, mul_comm]
    have hnext : v * 10 + d < bound := by
      rw [hvalue] at hlt
      exact Nat.lt_of_le_of_lt (le_digitsValue _ _) hlt
    rw [readDigits, hd]
    simp only [if_pos hnext]
    rw [hvalue] at hlt ⊢
    exact ih (fun c hc => hdigits c (List.mem_cons_of_mem _ hc)) hlt

theorem read_digits {n bound : Nat} (h : n < bound) : read 10 bound (digits n) = .ok n := by
  have hread : readDigits 10 bound 0 (digits n) = .ok n := by
    rw [readDigits_of_lt (fun c hc => isDigit_of_mem_digits hc) (by rwa [digitsValue_digits]),
      digitsValue_digits]
  cases hcs : digits n with
  | nil => exact absurd hcs (digits_ne_nil n)
  | cons c cs =>
    have hc : c ≠ '+' := by
      rintro rfl
      have := isDigit_of_mem_digits (n := n) (hcs ▸ List.mem_cons_self)
      exact absurd this (by decide)
    rw [← hcs, read]
    · exact hread
    · exact digits_ne_nil n
    · rw [hcs]; simp [hc]
    · rw [hcs]; simp [hc]

/-- **A cell with the numeral of a number is read back.** -/
theorem readWord_digits {n : Nat} (h : n < wordLimit) : readWord (digits n) = .ok n := by
  rw [readWord]
  · exact read_digits h
  · intro rest hcs
    have hx : isDigit 'x' = true :=
      isDigit_of_mem_digits (n := n) (hcs ▸ List.mem_cons_of_mem _ List.mem_cons_self)
    exact absurd hx (by decide)

end Numeral

end Number
end PlannerTrials
