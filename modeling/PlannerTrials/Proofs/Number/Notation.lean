import PlannerTrials.Number.Notation
import PlannerTrials.Proofs.Number.Decimal
import PlannerTrials.Proofs.Text.Blank

/-!
# The text of a double reads back

`Double.text` writes a double and `Double.read` reads one, and `read_text` says that the second undoes
the first, for infinities and for the result of an operation that has none as well as for finite
doubles, and in every `Layout.Readable`.

## Why the decimal that is read is another one

The text does not say which decimal it was written from.  Zeros at the end of the significand are
dropped before writing, and positional notation adds a point with a digit on both sides, so
`⟨200, -1⟩` is written `20.0` and read as `⟨200, -1⟩`, but `⟨2, 1⟩` is also written `20.0`.  Both
decimals are shifts of the one without zeros at its end (`exists_shift`, `exists_readDecimal?_text`),
and shifts denote the same double.
-/

namespace PlannerTrials
namespace Number

/-! ## Reading a decimal -/

section Reading

variable {whole fraction : List Char} (hwhole : ∀ c ∈ whole, isDigit c = true)
  (hfraction : ∀ c ∈ fraction, isDigit c = true) (hne : whole ≠ [])

include hwhole hfraction hne in
/-- Digits with a point among them. -/
theorem readDecimal?_point :
    readDecimal? (whole ++ '.' :: fraction) =
      some ⟨digitsValue 0 (whole ++ fraction), -fraction.length⟩ := by
  have hpoint : ∀ c ∈ ('.' :: fraction).head?, isDigit c = false := by simp; decide
  have htake : fraction.takeWhile isDigit = fraction :=
    List.takeWhile_eq_self_iff.mpr hfraction
  have hdrop : fraction.dropWhile isDigit = [] := List.dropWhile_eq_nil_iff.mpr hfraction
  unfold readDecimal?
  rw [Text.takeWhile_of_boundary hwhole hpoint, Text.dropWhile_of_boundary hwhole hpoint]
  simp only [htake, hdrop, hne, false_and, if_false]

include hwhole hfraction hne in
/-- Digits with a point among them and an exponent. -/
theorem readDecimal?_point_exponent {tail : List Char} {e : Int}
    (htail : readExponent? tail = some e) :
    readDecimal? (whole ++ '.' :: (fraction ++ 'e' :: tail)) =
      some ⟨digitsValue 0 (whole ++ fraction), e - fraction.length⟩ := by
  have hpoint : ∀ c ∈ ('.' :: (fraction ++ 'e' :: tail)).head?, isDigit c = false := by
    simp; decide
  have hletter : ∀ c ∈ ('e' :: tail).head?, isDigit c = false := by simp; decide
  unfold readDecimal?
  rw [Text.takeWhile_of_boundary hwhole hpoint, Text.dropWhile_of_boundary hwhole hpoint]
  simp only [Text.takeWhile_of_boundary hfraction hletter, Text.dropWhile_of_boundary hfraction hletter, hne,
    false_and, if_false, true_or, if_true, htail, Option.map_some]

include hwhole hne in
/-- Digits without a point, and an exponent. -/
theorem readDecimal?_exponent {tail : List Char} {e : Int} (htail : readExponent? tail = some e) :
    readDecimal? (whole ++ 'e' :: tail) = some ⟨digitsValue 0 whole, e⟩ := by
  have hletter : ∀ c ∈ ('e' :: tail).head?, isDigit c = false := by simp; decide
  unfold readDecimal?
  rw [Text.takeWhile_of_boundary hwhole hletter, Text.dropWhile_of_boundary hwhole hletter]
  simp [hne, htail]

end Reading

/-- The numeral of a number is a decimal without places. -/
theorem readDecimal?_digits (n : Nat) : readDecimal? (digits n) = some ⟨n, 0⟩ := by
  have hdigits : ∀ c ∈ digits n, isDigit c = true := fun c hc => isDigit_of_mem_digits hc
  have htake : (digits n).takeWhile isDigit = digits n := List.takeWhile_eq_self_iff.mpr hdigits
  have hdrop : (digits n).dropWhile isDigit = [] := List.dropWhile_eq_nil_iff.mpr hdigits
  unfold readDecimal?
  simp [htake, hdrop, digits_ne_nil, digitsValue_digits]

theorem magnitude?_digits (n : Nat) : readExponent?.magnitude? (digits n) = some (n : Int) := by
  unfold readExponent?.magnitude?
  rw [if_pos, digitsValue_digits]
  exact ⟨digits_ne_nil n, List.all_eq_true.mpr fun c hc => isDigit_of_mem_digits hc⟩

/-- A layout whose exponents the reader understands: they carry no mark or a plus. -/
def Layout.Readable (layout : Layout) : Prop :=
  layout.exponentMark = [] ∨ layout.exponentMark = ['+']

/-- An exponent as the layouts write it. -/
theorem readExponent?_digits {layout : Layout} (hlayout : layout.Readable) (e : Int) :
    readExponent? ((if e < 0 then ['-'] else layout.exponentMark) ++ digits e.natAbs) =
      some e := by
  split
  · next he =>
    rw [List.singleton_append, readExponent?, magnitude?_digits, Option.map_some]
    congr 1
    omega
  · next he =>
    have hvalue : ((e.natAbs : Nat) : Int) = e := by omega
    rcases hlayout with hmark | hmark
    · rw [hmark, List.nil_append, readExponent?, magnitude?_digits, hvalue]
      · intro ds hds
        have := isDigit_of_mem_digits (n := e.natAbs) (hds ▸ List.mem_cons_self)
        exact absurd this (by decide)
      · intro ds hds
        have := isDigit_of_mem_digits (n := e.natAbs) (hds ▸ List.mem_cons_self)
        exact absurd this (by decide)
    · rw [hmark, List.singleton_append, readExponent?, magnitude?_digits, hvalue]

/-! ## The digits that are written -/

theorem isDigit_zero : isDigit '0' = true := by decide

theorem exists_dropTrailingZeros (ds : List Char) :
    ∃ k, ds = dropTrailingZeros ds ++ List.replicate k '0' := by
  refine ⟨(ds.rtakeWhile (· == '0')).length, ?_⟩
  have hzeros : ds.rtakeWhile (· == '0') =
      List.replicate (ds.rtakeWhile (· == '0')).length '0' :=
    List.eq_replicate_length.mpr fun c hc => by simpa using List.mem_rtakeWhile_imp hc
  rw [← hzeros]
  exact List.rdropWhile_append_rtakeWhile.symm

theorem isDigit_of_mem_dropTrailingZeros {n : Nat} {c : Char}
    (h : c ∈ dropTrailingZeros (digits n)) : isDigit c = true := by
  obtain ⟨k, hk⟩ := exists_dropTrailingZeros (digits n)
  exact isDigit_of_mem_digits (n := n) (hk ▸ List.mem_append_left _ h)

theorem dropTrailingZeros_digits_ne_nil {n : Nat} (h : n ≠ 0) :
    dropTrailingZeros (digits n) ≠ [] := by
  intro hnil
  obtain ⟨k, hk⟩ := exists_dropTrailingZeros (digits n)
  apply h
  rw [← digitsValue_digits n, hk, hnil, List.nil_append, digitsValue_replicate_zero, zero_mul]

/-- The digits that are written determine a decimal of which the given one is a shift. -/
theorem exists_shift (d : Decimal) :
    ∃ k : Nat, d = Decimal.shift ⟨digitsValue 0 (dropTrailingZeros (digits d.significand)),
        d.exponent + k⟩ k ∧
      (digits d.significand).length =
        (dropTrailingZeros (digits d.significand)).length + k := by
  obtain ⟨k, hk⟩ := exists_dropTrailingZeros (digits d.significand)
  refine ⟨k, ?_, ?_⟩
  · have hvalue : d.significand =
        digitsValue 0 (dropTrailingZeros (digits d.significand)) * 10 ^ k := by
      rw [← digitsValue_replicate_zero, ← digitsValue_append, ← hk, digitsValue_digits]
    unfold Decimal.shift
    simp only
    rw [← hvalue, add_sub_cancel_right]
  · conv_lhs => rw [hk]
    rw [List.length_append, List.length_replicate]

/-! ## The two notations -/

theorem isDigit_of_mem_zeros {n : Int} {c : Char} (h : c ∈ zeros n) : isDigit c = true := by
  rw [zeros, List.mem_replicate] at h
  rw [h.2]
  exact isDigit_zero

theorem digitsValue_zeros (v : Nat) (n : Int) : digitsValue v (zeros n) = v * 10 ^ n.toNat :=
  digitsValue_replicate_zero v n.toNat

section Notation

variable {ds : List Char} (hds : ∀ c ∈ ds, isDigit c = true) (hne : ds ≠ []) {e leading : Int}
  (hleading : leading = ds.length + e - 1)

include hds hne hleading in
theorem readDecimal?_positional_of_neg (h : leading < 0) :
    readDecimal? (positional ds leading) = some ⟨digitsValue 0 ds, e⟩ := by
  have hlength : 0 < ds.length := List.length_pos_iff.mpr hne
  have hzero : ∀ c ∈ ['0'], isDigit c = true := by simpa using isDigit_zero
  have hfraction : ∀ c ∈ zeros (-leading - 1) ++ ds, isDigit c = true := fun c hc =>
    (List.mem_append.mp hc).elim isDigit_of_mem_zeros (hds c)
  have hvalue : digitsValue 0 (['0'] ++ (zeros (-leading - 1) ++ ds)) = digitsValue 0 ds := by
    have hskip : digitsValue 0 ['0'] = 0 := by decide
    rw [digitsValue_append, hskip, digitsValue_append, digitsValue_zeros, zero_mul]
  have hexponent : -(((zeros (-leading - 1) ++ ds).length : Nat) : Int) = e := by
    rw [List.length_append, zeros, List.length_replicate]
    omega
  have hread := readDecimal?_point hzero hfraction (by simp)
  rw [hvalue, hexponent] at hread
  rw [positional, if_pos h]
  exact hread

include hds hne hleading in
theorem readDecimal?_positional_of_le (h : ¬leading < 0)
    (hwhole : ds.length ≤ (leading + 1).toNat) :
    readDecimal? (positional ds leading) =
      some (Decimal.shift ⟨digitsValue 0 ds, e⟩ ((leading + 1).toNat - ds.length + 1)) := by
  have hzero : ∀ c ∈ ['0'], isDigit c = true := by simpa using isDigit_zero
  have hdigits : ∀ c ∈ ds ++ zeros ((leading + 1).toNat - ds.length), isDigit c = true :=
    fun c hc => (List.mem_append.mp hc).elim (hds c) isDigit_of_mem_zeros
  have hcount : (((leading + 1).toNat : Int) - ds.length).toNat =
      (leading + 1).toNat - ds.length := by omega
  have hvalue : digitsValue 0 (ds ++ zeros ((leading + 1).toNat - ds.length) ++ ['0']) =
      digitsValue 0 ds * 10 ^ ((leading + 1).toNat - ds.length + 1) := by
    rw [digitsValue_append, digitsValue_append, digitsValue_zeros, hcount, pow_succ, ← mul_assoc]
    exact digitsValue_replicate_zero _ 1
  have hexponent : (-((['0'].length : Nat) : Int)) =
      e - (((leading + 1).toNat - ds.length + 1 : Nat) : Int) := by
    rw [List.length_singleton]
    omega
  have hread := readDecimal?_point hdigits hzero (by simp [hne])
  rw [hvalue, hexponent] at hread
  rw [positional, if_neg h]
  simp only [if_pos hwhole]
  exact hread

include hds hleading in
theorem readDecimal?_positional_of_lt (h : ¬leading < 0)
    (hwhole : ¬ds.length ≤ (leading + 1).toNat) :
    readDecimal? (positional ds leading) = some ⟨digitsValue 0 ds, e⟩ := by
  have htake : ds.take (leading + 1).toNat ≠ [] := by
    rw [Ne, List.take_eq_nil_iff, not_or]
    exact ⟨by omega, fun hnil => hwhole (by simp [hnil])⟩
  have hexponent : -(((ds.drop (leading + 1).toNat).length : Nat) : Int) = e := by
    rw [List.length_drop]
    omega
  have hfraction : ∀ c ∈ ds.drop (leading + 1).toNat, isDigit c = true :=
    fun c hc => hds c (List.mem_of_mem_drop hc)
  have hread := readDecimal?_point (fun c hc => hds c (List.mem_of_mem_take hc)) hfraction htake
  rw [List.take_append_drop, hexponent] at hread
  rw [positional, if_neg h]
  simp only [if_neg hwhole]
  exact hread

include hds hne hleading in
/-- Positional notation is read as a shift of what it was written from. -/
theorem exists_readDecimal?_positional :
    ∃ j, readDecimal? (positional ds leading) =
      some (Decimal.shift ⟨digitsValue 0 ds, e⟩ j) := by
  by_cases hneg : leading < 0
  · exact ⟨0, by rw [readDecimal?_positional_of_neg hds hne hleading hneg, Decimal.shift_zero]⟩
  by_cases hwhole : ds.length ≤ (leading + 1).toNat
  · exact ⟨_, readDecimal?_positional_of_le hds hne hleading hneg hwhole⟩
  · exact ⟨0, by rw [readDecimal?_positional_of_lt hds hleading hneg hwhole, Decimal.shift_zero]⟩

include hds hne hleading in
/-- Exponent notation is read as what it was written from. -/
theorem readDecimal?_scientific {layout : Layout} (hlayout : layout.Readable) :
    readDecimal? (scientific layout ds leading) = some ⟨digitsValue 0 ds, e⟩ := by
  have htail := readExponent?_digits hlayout leading
  unfold scientific
  obtain ⟨d, ds, rfl⟩ := List.exists_cons_of_ne_nil hne
  cases ds with
  | nil =>
    have hexponent : leading = e := by simpa using hleading
    have hread := readDecimal?_exponent hds hne htail
    rw [hexponent] at hread ⊢
    simpa using hread
  | cons d' rest =>
    have hfraction : ∀ c ∈ d' :: rest, isDigit c = true :=
      fun c hc => hds c (List.mem_cons_of_mem _ hc)
    have hwhole : ∀ c ∈ [d], isDigit c = true := by simpa using hds d List.mem_cons_self
    have hexponent : leading - (d' :: rest).length = e := by
      rw [List.length_cons] at hleading
      omega
    have hread := readDecimal?_point_exponent hwhole hfraction (by simp) htail
    rw [hexponent] at hread
    simpa using hread

end Notation

/-- **The decimal that is read** from a text is another shift of the one without zeros at its end. -/
theorem exists_readDecimal?_text {layout : Layout} (hlayout : layout.Readable) {d : Decimal}
    (h : d.significand ≠ 0) :
    ∃ (c : Decimal) (j k : Nat), d = c.shift k ∧ readDecimal? (d.text layout) = some (c.shift j) := by
  obtain ⟨k, hd, hlength⟩ := exists_shift d
  have hds : ∀ c ∈ dropTrailingZeros (digits d.significand), isDigit c = true :=
    fun c hc => isDigit_of_mem_dropTrailingZeros hc
  have hne := dropTrailingZeros_digits_ne_nil h
  have hleading : d.magnitude - 1 =
      (dropTrailingZeros (digits d.significand)).length + (d.exponent + k) - 1 := by
    rw [Decimal.magnitude, hlength]
    push_cast
    ring
  unfold Decimal.text
  rw [if_neg h]
  simp only
  split
  · obtain ⟨j, hj⟩ := exists_readDecimal?_positional hds hne hleading
    exact ⟨_, j, k, hd, hj⟩
  · refine ⟨_, 0, k, hd, ?_⟩
    rw [readDecimal?_scientific hds hne hleading hlayout, Decimal.shift_zero]

/-- **What a decimal's text is read as denotes the same double.** -/
theorem exists_toDouble_text {layout : Layout} (hlayout : layout.Readable) (d : Decimal) :
    ∃ d', readDecimal? (d.text layout) = some d' ∧
      ∀ negative, d'.toDouble negative = d.toDouble negative := by
  by_cases h : d.significand = 0
  · refine ⟨⟨0, -1⟩, ?_, fun negative => ?_⟩
    · rw [Decimal.text, if_pos h]
      rfl
    · rw [Decimal.toDouble, Decimal.toDouble, if_pos rfl, if_pos h]
  · obtain ⟨c, j, k, hd, hread⟩ := exists_readDecimal?_text hlayout h
    refine ⟨_, hread, fun negative => ?_⟩
    rw [hd, Decimal.toDouble_shift, Decimal.toDouble_shift]

/-! ## The characters of a text -/

theorem toNat_of_isDigit {c : Char} (h : isDigit c = true) : 48 ≤ c.toNat ∧ c.toNat ≤ 57 := by
  unfold isDigit digitValue? at h
  simp only at h
  split at h
  · assumption
  · have hletter : ¬(if 97 ≤ c.toNat ∧ c.toNat ≤ 122 then c.toNat - 87
        else if 65 ≤ c.toNat ∧ c.toNat ≤ 90 then c.toNat - 55 else 10) < 10 := by
      split
      · omega
      · split <;> omega
    rw [if_neg hletter] at h
    exact absurd h Bool.false_ne_true

theorem not_isBlank_of_isDigit {c : Char} (h : isDigit c = true) : Text.isBlank c = false := by
  have hrange := toNat_of_isDigit h
  exact Text.not_isBlank_of_range (by omega) (by omega)

/-- The characters beside digits that stand in a text of a decimal. -/
def isPunctuation (c : Char) : Bool := c = '.' || c = 'e' || c = '-' || c = '+'

theorem not_isBlank_of_isPunctuation {c : Char} (h : isPunctuation c = true) :
    Text.isBlank c = false := by
  simp only [isPunctuation, Bool.or_eq_true, decide_eq_true_eq] at h
  rcases h with ((rfl | rfl) | rfl) | rfl <;> decide

theorem not_isBlank_of_mem_signed {negative : Bool} {cs : List Char}
    (h : ∀ c ∈ cs, Text.isBlank c = false) {c : Char} (hc : c ∈ signed negative cs) :
    Text.isBlank c = false := by
  cases negative with
  | false => exact h c hc
  | true =>
    rcases List.mem_cons.mp hc with rfl | hc
    · decide
    · exact h c hc

section Characters

variable {ds : List Char} (hds : ∀ c ∈ ds, isDigit c = true) (hne : ds ≠ []) (leading : Int)

include hds in
theorem mem_positional {c : Char} (h : c ∈ positional ds leading) :
    isDigit c = true ∨ isPunctuation c = true := by
  unfold positional at h
  split at h
  · rcases List.mem_cons.mp h with rfl | h
    · exact .inl isDigit_zero
    · rcases List.mem_cons.mp h with rfl | h
      · exact .inr rfl
      · exact .inl ((List.mem_append.mp h).elim isDigit_of_mem_zeros (hds c))
  · simp only at h
    split at h
    · rcases List.mem_append.mp h with h | h
      · exact .inl ((List.mem_append.mp h).elim (hds c) isDigit_of_mem_zeros)
      · rcases List.mem_pair.mp h with rfl | rfl
        · exact .inr rfl
        · exact .inl isDigit_zero
    · rcases List.mem_append.mp h with h | h
      · exact .inl (hds c (List.mem_of_mem_take h))
      · rcases List.mem_cons.mp h with rfl | h
        · exact .inr rfl
        · exact .inl (hds c (List.mem_of_mem_drop h))

include hds in
theorem mem_scientific {layout : Layout} (hlayout : layout.Readable) {c : Char}
    (h : c ∈ scientific layout ds leading) :
    isDigit c = true ∨ isPunctuation c = true := by
  unfold scientific at h
  rcases List.mem_append.mp h with h | h
  · rcases List.mem_append.mp h with h | h
    · split at h
      · next d d' rest =>
        rcases List.mem_cons.mp h with rfl | h
        · exact .inl (hds _ List.mem_cons_self)
        · rcases List.mem_cons.mp h with rfl | h
          · exact .inr rfl
          · exact .inl (hds c (List.mem_cons_of_mem _ h))
      · exact .inl (hds c h)
    · rcases List.mem_cons.mp h with rfl | h
      · exact .inr rfl
      · split at h
        · rw [List.mem_singleton.mp h]
          exact .inr rfl
        · rcases hlayout with hmark | hmark
          · rw [hmark] at h
            exact absurd h List.not_mem_nil
          · rw [hmark] at h
            rw [List.mem_singleton.mp h]
            exact .inr rfl
  · exact .inl (isDigit_of_mem_digits h)

include hds hne in
theorem head_positional : ∃ c cs, positional ds leading = c :: cs ∧ isDigit c = true := by
  obtain ⟨d, rest, rfl⟩ := List.exists_cons_of_ne_nil hne
  have hd := hds d List.mem_cons_self
  unfold positional
  split
  · exact ⟨'0', _, rfl, isDigit_zero⟩
  · next h =>
    obtain ⟨n, hn⟩ : ∃ n, (leading + 1).toNat = n + 1 := ⟨leading.toNat, by omega⟩
    simp only [hn]
    split
    · exact ⟨d, _, rfl, hd⟩
    · exact ⟨d, _, rfl, hd⟩

include hds hne in
theorem head_scientific (layout : Layout) :
    ∃ c cs, scientific layout ds leading = c :: cs ∧ isDigit c = true := by
  unfold scientific
  obtain ⟨d, ds, rfl⟩ := List.exists_cons_of_ne_nil hne
  have hd := hds d List.mem_cons_self
  cases ds with
  | nil => exact ⟨d, _, rfl, hd⟩
  | cons d' rest => exact ⟨d, _, rfl, hd⟩

end Characters

/-- A text of a decimal consists of digits and punctuation. -/
theorem mem_text {layout : Layout} (hlayout : layout.Readable) {d : Decimal} {c : Char}
    (h : c ∈ d.text layout) :
    isDigit c = true ∨ isPunctuation c = true := by
  unfold Decimal.text at h
  split at h
  · have hzero : "0.0".toList.all (fun c => isDigit c || isPunctuation c) = true := by rfl
    have hc := List.all_eq_true.mp hzero c h
    rwa [Bool.or_eq_true] at hc
  · have hds : ∀ c ∈ dropTrailingZeros (digits d.significand), isDigit c = true :=
      fun c hc => isDigit_of_mem_dropTrailingZeros hc
    simp only at h
    split at h
    · exact mem_positional hds _ h
    · exact mem_scientific hds _ hlayout h

/-- A text of a decimal starts with a digit. -/
theorem head_text (layout : Layout) (d : Decimal) :
    ∃ c cs, d.text layout = c :: cs ∧ isDigit c = true := by
  unfold Decimal.text
  split
  · exact ⟨'0', _, rfl, isDigit_zero⟩
  · next h =>
    have hds : ∀ c ∈ dropTrailingZeros (digits d.significand), isDigit c = true :=
      fun c hc => isDigit_of_mem_dropTrailingZeros hc
    have hne := dropTrailingZeros_digits_ne_nil h
    simp only
    split
    · exact head_positional hds hne _
    · exact head_scientific hds hne _ layout

end Number

namespace Double

open Number

/-! ## Texts of doubles -/

theorem toLower_of_isDigit {c : Char} (h : isDigit c = true) : c.toLower = c := by
  have hrange := toNat_of_isDigit h
  unfold Char.toLower
  rw [dif_neg]
  rintro ⟨hle, -⟩
  have : 65 ≤ c.toNat := UInt32.le_iff_toNat_le.mp hle
  omega

/-- A text that starts with a digit is no word and is read as a decimal. -/
theorem readUnsigned?_of_isDigit (negative : Bool) {c : Char} (cs : List Char)
    (h : isDigit c = true) :
    readUnsigned? negative (c :: cs) =
      (readDecimal? (c :: cs)).map (Decimal.toDouble negative) := by
  have hletter : ∀ w ws, isDigit w = false → (c :: cs).map Char.toLower ≠ w :: ws := by
    intro w ws hw heq
    rw [List.map_cons, toLower_of_isDigit h] at heq
    rw [(List.cons.inj heq).1, hw] at h
    exact absurd h Bool.false_ne_true
  have hinf : (c :: cs).map Char.toLower ≠ "inf".toList := hletter 'i' _ (by rfl)
  have hinfinity : (c :: cs).map Char.toLower ≠ "infinity".toList := hletter 'i' _ (by rfl)
  have hnan : (c :: cs).map Char.toLower ≠ "nan".toList := hletter 'n' _ (by rfl)
  unfold readUnsigned?
  simp only
  rw [if_neg (not_or.mpr ⟨hinf, hinfinity⟩), if_neg hnan]

/-- An unsigned text is read with the sign that stands before it. -/
theorem read_signed {negative : Bool} {c : Char} {cs : List Char} {x : Double}
    (hminus : c ≠ '-') (hplus : c ≠ '+')
    (h : readUnsigned? negative (c :: cs) = some x) :
    read (signed negative (c :: cs)) = .ok x := by
  cases negative with
  | true => rw [signed, if_pos rfl, read, h, read.found]
  | false =>
    rw [signed, if_neg Bool.false_ne_true, read.eq_def]
    split
    · next heq => exact absurd heq (List.cons_ne_nil c cs)
    · next heq => exact absurd (List.cons.inj heq).1 hplus
    · next heq => exact absurd (List.cons.inj heq).1 hminus
    · rw [h, read.found]

/-- A text that starts with a digit is read as a decimal with the sign that stands before it. -/
theorem read_signed_of_isDigit (negative : Bool) {c : Char} {cs : List Char} {d : Decimal}
    (hc : isDigit c = true) (h : readDecimal? (c :: cs) = some d) :
    read (signed negative (c :: cs)) = .ok (d.toDouble negative) := by
  have hminus : c ≠ '-' := by
    rintro rfl
    exact absurd hc (by decide)
  have hplus : c ≠ '+' := by
    rintro rfl
    exact absurd hc (by decide)
  refine read_signed hminus hplus ?_
  rw [readUnsigned?_of_isDigit negative cs hc, h, Option.map_some]

/-- **A numeral is read as the double of its number.** -/
theorem read_numeral (n : Nat) : read (digits n) = .ok (ofNat n) := by
  obtain ⟨c, cs, hcs⟩ := List.exists_cons_of_ne_nil (digits_ne_nil n)
  have hc : isDigit c = true := isDigit_of_mem_digits (hcs ▸ List.mem_cons_self)
  have hread := read_signed_of_isDigit false hc (hcs ▸ readDecimal?_digits n)
  rwa [toDouble_whole, ← hcs] at hread

section Layouts

variable {layout : Layout} (hlayout : layout.Readable)

include hlayout in
/-- **The text of a double reads back.** -/
theorem read_text (x : Double) : read (x.text layout) = .ok x := by
  cases x with
  | nan => rfl
  | infinite negative => exact read_signed (by decide) (by decide) (by cases negative <;> rfl)
  | finite negative q hq =>
    obtain ⟨c, cs, htext, hc⟩ := head_text layout (shortest q)
    obtain ⟨d, hread, hd⟩ := exists_toDouble_text hlayout (shortest q)
    rw [text, htext, read_signed_of_isDigit negative hc (htext ▸ hread), hd, toDouble_shortest]

include hlayout in
/-- No blank stands in the text of a double. -/
theorem not_isBlank_of_mem_text (x : Double) {c : Char} (h : c ∈ x.text layout) :
    Text.isBlank c = false := by
  have hword : ∀ cs : List Char, cs.all (fun c => !Text.isBlank c) = true →
      ∀ c ∈ cs, Text.isBlank c = false := by
    intro cs hcs c hc
    simpa using List.all_eq_true.mp hcs c hc
  cases x with
  | nan => exact hword "NaN".toList (by rfl) c h
  | infinite negative => exact not_isBlank_of_mem_signed (hword "inf".toList (by rfl)) h
  | finite negative q hq =>
    refine not_isBlank_of_mem_signed (fun c hc => ?_) h
    exact (mem_text hlayout hc).elim not_isBlank_of_isDigit not_isBlank_of_isPunctuation

end Layouts

end Double
end PlannerTrials
