import PlannerTrials.Proofs.Text.Utf8
import Mathlib.Data.String.Basic

/-!
# The order of texts is the order of their bytes

Texts are compared by the numbers of their characters, and byte sequences by their bytes.  The bytes of a
text are made so that it does not matter which of the two is taken (`encodeString_lt_iff`).  The first
byte of a character grows with its number (`firstByte_mono`).  Characters with the same first byte have as
many bytes as each other, and what follows the first one is the rest of the number in base 64, with the highest
digit first.  So the first byte that differs decides, and it belongs to the first characters that
differ.
-/

namespace PlannerTrials
namespace Utf8

/-! ## Characters -/

/-- The first byte of the character with a number. -/
def firstByte (v : Nat) : Nat :=
  if v < 0x80 then v
  else if v < 0x800 then v / 64 + 0xc0
  else if v < 0x10000 then v / 4096 + 0xe0
  else v / 262144 + 0xf0

/-- The bytes after the first one. -/
def moreBytes (v : Nat) : Bytes :=
  if v < 0x80 then []
  else if v < 0x800 then [UInt8.ofNat (v % 64 + 0x80)]
  else if v < 0x10000 then [UInt8.ofNat (v / 64 % 64 + 0x80), UInt8.ofNat (v % 64 + 0x80)]
  else
    [UInt8.ofNat (v / 4096 % 64 + 0x80), UInt8.ofNat (v / 64 % 64 + 0x80),
      UInt8.ofNat (v % 64 + 0x80)]

theorem encodeChar_eq (c : Char) :
    String.utf8EncodeChar c = UInt8.ofNat (firstByte c.toNat) :: moreBytes c.toNat := by
  have hvalid : c.toNat < 0xd800 ∨ 0xdfff < c.toNat ∧ c.toNat < 0x110000 := c.valid
  have hc : String.utf8EncodeChar c = String.utf8EncodeChar (Char.ofNat c.toNat) := by
    rw [Char.ofNat_toNat]
  rw [hc]
  generalize c.toNat = v at hvalid
  unfold firstByte moreBytes
  split_ifs with h1 h2 h3
  · exact encodeChar_one h1
  · exact encodeChar_two (Nat.le_of_not_lt h1) h2
  · exact encodeChar_three (Nat.le_of_not_lt h2) h3 (by omega)
  · exact encodeChar_four (Nat.le_of_not_lt h3) (by omega)

theorem firstByte_lt {v : Nat} (hv : v < 0x110000) : firstByte v < 256 := by
  unfold firstByte
  split_ifs <;> omega

theorem firstByte_mono {v w : Nat} (h : v ≤ w) : firstByte v ≤ firstByte w := by
  unfold firstByte
  split_ifs <;> omega

/-- Bytes with a smaller first one come before others, and if it is the same the rest decides. -/
theorem ofNat_cons_lt {m n : Nat} {xs ys : Bytes} (hn : n < 256) (hle : m ≤ n)
    (hrest : m = n → xs < ys) : UInt8.ofNat m :: xs < UInt8.ofNat n :: ys := by
  rw [List.cons_lt_cons_iff]
  rcases Nat.lt_or_eq_of_le hle with hlt | rfl
  · refine .inl (UInt8.lt_iff_toNat_lt.mpr ?_)
    rwa [toNat_ofNat_lt (Nat.lt_trans hlt hn), toNat_ofNat_lt hn]
  · exact .inr ⟨rfl, hrest rfl⟩

/-- After the same first byte the larger number has the larger bytes. -/
theorem moreBytes_append_lt {v w : Nat} (h : v < w) (hfirst : firstByte v = firstByte w)
    (xs ys : Bytes) : moreBytes v ++ xs < moreBytes w ++ ys := by
  unfold firstByte at hfirst
  unfold moreBytes
  -- The same first byte means as many bytes, so the size of the one decides both.
  by_cases hw2 : w < 0x800
  · have hv : 0x80 ≤ v := by split_ifs at hfirst <;> omega
    have hdigit : v / 64 = w / 64 := by split_ifs at hfirst <;> omega
    rw [if_neg (by omega), if_pos (by omega), if_neg (by omega), if_pos hw2]
    exact ofNat_cons_lt (by omega) (by omega) fun hlast => absurd hlast (by omega)
  by_cases hw3 : w < 0x10000
  · have hv : 0x800 ≤ v := by split_ifs at hfirst <;> omega
    have hdigit : v / 4096 = w / 4096 := by split_ifs at hfirst <;> omega
    rw [if_neg (by omega), if_neg (by omega), if_pos (by omega), if_neg (by omega), if_neg hw2,
      if_pos hw3]
    refine ofNat_cons_lt (by omega) (by omega) fun hsecond => ?_
    exact ofNat_cons_lt (by omega) (by omega) fun hlast => absurd hlast (by omega)
  · have hv : 0x10000 ≤ v := by split_ifs at hfirst <;> omega
    have hdigit : v / 262144 = w / 262144 := by split_ifs at hfirst <;> omega
    rw [if_neg (by omega), if_neg (by omega), if_neg (by omega), if_neg (by omega), if_neg hw2,
      if_neg hw3]
    refine ofNat_cons_lt (by omega) (by omega) fun hsecond => ?_
    refine ofNat_cons_lt (by omega) (by omega) fun hthird => ?_
    exact ofNat_cons_lt (by omega) (by omega) fun hlast => absurd hlast (by omega)

/-- **Of two characters the one with the smaller number has the smaller bytes**, whatever follows them. -/
theorem encodeChar_append_lt {c d : Char} (h : c < d) (xs ys : Bytes) :
    String.utf8EncodeChar c ++ xs < String.utf8EncodeChar d ++ ys := by
  have hlt : c.toNat < d.toNat := h
  have hvalid : d.toNat < 0xd800 ∨ 0xdfff < d.toNat ∧ d.toNat < 0x110000 := d.valid
  rw [encodeChar_eq, encodeChar_eq, List.cons_append, List.cons_append]
  refine ofNat_cons_lt (firstByte_lt (by omega)) (firstByte_mono (Nat.le_of_lt hlt)) fun hfirst => ?_
  exact moreBytes_append_lt hlt hfirst xs ys

/-! ## Texts -/

theorem encode_lt_encode {as bs : List Char} (h : as < bs) : encode as < encode bs := by
  induction as generalizing bs with
  | nil =>
    cases bs with
    | nil => exact absurd h (List.lt_irrefl [])
    | cons b bs =>
      rw [encode_cons, encodeChar_eq]
      exact List.nil_lt_cons _ _
  | cons a as ih =>
    cases bs with
    | nil => exact absurd h (List.not_lt_nil _)
    | cons b bs =>
      rw [encode_cons, encode_cons]
      rcases List.cons_lt_cons_iff.mp h with hab | ⟨rfl, hrest⟩
      · exact encodeChar_append_lt hab _ _
      · exact List.append_left_lt (ih hrest)

/-- **The order of texts is the order of their bytes.** -/
theorem encodeString_lt_iff {s t : String} : encodeString s < encodeString t ↔ s < t := by
  have hmono : ∀ {s t : String}, s < t → encodeString s < encodeString t := fun h =>
    encode_lt_encode (String.lt_iff_toList_lt.mp h)
  refine ⟨fun h => ?_, hmono⟩
  rcases lt_trichotomy s t with hlt | rfl | hgt
  · exact hlt
  · exact absurd h (List.lt_irrefl _)
  · exact absurd (hmono hgt) (List.lt_asymm h)

end Utf8
end PlannerTrials
