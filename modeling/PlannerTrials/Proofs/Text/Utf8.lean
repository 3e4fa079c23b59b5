import PlannerTrials.Text.Utf8
import Mathlib.Data.List.Basic

/-!
# Writing and reading bytes agree

`Utf8.encode` writes a text and `Utf8.decode` reads it, and neither is written in terms of the
other: writing goes by the size of a character, reading by the first byte of a sequence.  This file
joins the two.

* `decode_encode`: what was written is read back.
* `encode_of_decode`: what can be read is exactly what writing gives, so a text has one form in
  bytes.  Here it matters that the reader refuses overlong forms and surrogates.
* `mem_encode_ascii`: the bytes below `0x80` of a written text are its characters below `0x80`.
  This lets a reader of bytes look for commas and slashes without decoding anything.

## The four sizes

Each size has its equation for writing (`encodeChar_two` and so on) and its equation for reading
(`start_two`), both stated for the number of the character and in the same quotients.  The sequences
that the reader accepts are those of the first kind again, which is what the three `encodeChar_of_…`
lemmas say.
-/

namespace PlannerTrials
namespace Utf8

theorem toNat_ofNat_lt {n : Nat} (h : n < 256) : (UInt8.ofNat n).toNat = n := by
  rw [UInt8.toNat_ofNat', Nat.mod_eq_of_lt h]

theorem ofNat_of_toNat {b : UInt8} {n : Nat} (h : b.toNat = n) : UInt8.ofNat n = b := by
  rw [← h, UInt8.ofNat_toNat]

theorem toNat_val_ofNat {v : Nat} (h : v.isValidChar) : (Char.ofNat v).val.toNat = v := by
  unfold Char.ofNat
  rw [dif_pos h]
  rfl

/-! ## Writing a character -/

theorem encodeChar_one {v : Nat} (h : v < 0x80) :
    String.utf8EncodeChar (Char.ofNat v) = [UInt8.ofNat v] := by
  have hvalid : v.isValidChar := Or.inl (by omega)
  unfold String.utf8EncodeChar
  simp only [toNat_val_ofNat hvalid]
  rw [if_pos (by omega)]

theorem encodeChar_two {v : Nat} (h : 0x80 ≤ v) (h' : v < 0x800) :
    String.utf8EncodeChar (Char.ofNat v) =
      [UInt8.ofNat (v / 64 + 0xc0), UInt8.ofNat (v % 64 + 0x80)] := by
  have hvalid : v.isValidChar := Or.inl (by omega)
  have hm : v / 64 % 0x20 = v / 64 := Nat.mod_eq_of_lt (by omega)
  unfold String.utf8EncodeChar
  simp only [toNat_val_ofNat hvalid]
  rw [if_neg (by omega), if_pos (by omega), hm]

theorem encodeChar_three {v : Nat} (h : 0x800 ≤ v) (h' : v < 0x10000)
    (hsurrogate : v < 0xd800 ∨ 0xdfff < v) :
    String.utf8EncodeChar (Char.ofNat v) =
      [UInt8.ofNat (v / 4096 + 0xe0), UInt8.ofNat (v / 64 % 64 + 0x80),
        UInt8.ofNat (v % 64 + 0x80)] := by
  have hvalid : v.isValidChar := by unfold Nat.isValidChar; omega
  have hm : v / 4096 % 0x10 = v / 4096 := Nat.mod_eq_of_lt (by omega)
  unfold String.utf8EncodeChar
  simp only [toNat_val_ofNat hvalid]
  rw [if_neg (by omega), if_neg (by omega), if_pos (by omega), hm]

theorem encodeChar_four {v : Nat} (h : 0x10000 ≤ v) (h' : v < 0x110000) :
    String.utf8EncodeChar (Char.ofNat v) =
      [UInt8.ofNat (v / 262144 + 0xf0), UInt8.ofNat (v / 4096 % 64 + 0x80),
        UInt8.ofNat (v / 64 % 64 + 0x80), UInt8.ofNat (v % 64 + 0x80)] := by
  have hvalid : v.isValidChar := by unfold Nat.isValidChar; omega
  have hm : v / 262144 % 0x08 = v / 262144 := Nat.mod_eq_of_lt (by omega)
  unfold String.utf8EncodeChar
  simp only [toNat_val_ofNat hvalid]
  rw [if_neg (by omega), if_neg (by omega), if_neg (by omega), hm]

/-! ## Reading a written character -/

theorem start_one {v : Nat} (h : v < 0x80) (rest : Bytes) :
    start (UInt8.ofNat v) rest = .char (Char.ofNat v) 0 := by
  have h0 : (UInt8.ofNat v).toNat = v := toNat_ofNat_lt (by omega)
  unfold start
  simp only [h0, if_pos h]

theorem start_two {v : Nat} (h : 0x80 ≤ v) (h' : v < 0x800) (rest : Bytes) :
    start (UInt8.ofNat (v / 64 + 0xc0)) (UInt8.ofNat (v % 64 + 0x80) :: rest) =
      .char (Char.ofNat v) 1 := by
  have h0 : (UInt8.ofNat (v / 64 + 0xc0)).toNat = v / 64 + 0xc0 := toNat_ofNat_lt (by omega)
  have h1 : (UInt8.ofNat (v % 64 + 0x80)).toNat = v % 64 + 0x80 := toNat_ofNat_lt (by omega)
  have hv : (v / 64 + 0xc0 - 0xc0) * 64 + (v % 64 + 0x80 - 0x80) = v := by omega
  have htail : isTail (v % 64 + 0x80) = true := by simp [isTail]; omega
  have hfirst : (0xc2 ≤ v / 64 + 0xc0 && v / 64 + 0xc0 < 0xe0) = true := by simp; omega
  unfold start
  simp only [List.map_cons, h0, h1]
  rw [if_neg (by omega), if_pos hfirst, if_pos htail, hv]

theorem start_three {v : Nat} (h : 0x800 ≤ v) (h' : v < 0x10000)
    (hsurrogate : v < 0xd800 ∨ 0xdfff < v) (rest : Bytes) :
    start (UInt8.ofNat (v / 4096 + 0xe0))
        (UInt8.ofNat (v / 64 % 64 + 0x80) :: UInt8.ofNat (v % 64 + 0x80) :: rest) =
      .char (Char.ofNat v) 2 := by
  have h0 : (UInt8.ofNat (v / 4096 + 0xe0)).toNat = v / 4096 + 0xe0 := toNat_ofNat_lt (by omega)
  have h1 : (UInt8.ofNat (v / 64 % 64 + 0x80)).toNat = v / 64 % 64 + 0x80 :=
    toNat_ofNat_lt (by omega)
  have h2 : (UInt8.ofNat (v % 64 + 0x80)).toNat = v % 64 + 0x80 := toNat_ofNat_lt (by omega)
  have hv : (v / 4096 + 0xe0 - 0xe0) * 4096 + (v / 64 % 64 + 0x80 - 0x80) * 64 +
      (v % 64 + 0x80 - 0x80) = v := by omega
  have htail : isTail (v % 64 + 0x80) = true := by simp [isTail]; omega
  have hfirst : ¬(0xc2 ≤ v / 4096 + 0xe0 && v / 4096 + 0xe0 < 0xe0) = true := by simp
  have hfirst' : (0xe0 ≤ v / 4096 + 0xe0 && v / 4096 + 0xe0 < 0xf0) = true := by simp; omega
  -- after `0xe0` and `0xed` the second byte has narrower bounds
  have hsecond : (decide ((if v / 4096 + 0xe0 = 0xe0 then 0xa0 else 0x80) ≤ v / 64 % 64 + 0x80) &&
      decide (v / 64 % 64 + 0x80 < if v / 4096 + 0xe0 = 0xed then 0xa0 else 0xc0)) = true := by
    simp only [Bool.and_eq_true, decide_eq_true_eq]
    constructor <;> split <;> omega
  unfold start
  simp only [List.map_cons, h0, h1, h2]
  rw [if_neg (by omega), if_neg hfirst, if_pos hfirst', if_pos hsecond, if_pos htail, hv]

theorem start_four {v : Nat} (h : 0x10000 ≤ v) (h' : v < 0x110000) (rest : Bytes) :
    start (UInt8.ofNat (v / 262144 + 0xf0))
        (UInt8.ofNat (v / 4096 % 64 + 0x80) :: UInt8.ofNat (v / 64 % 64 + 0x80) ::
          UInt8.ofNat (v % 64 + 0x80) :: rest) =
      .char (Char.ofNat v) 3 := by
  have h0 : (UInt8.ofNat (v / 262144 + 0xf0)).toNat = v / 262144 + 0xf0 :=
    toNat_ofNat_lt (by omega)
  have h1 : (UInt8.ofNat (v / 4096 % 64 + 0x80)).toNat = v / 4096 % 64 + 0x80 :=
    toNat_ofNat_lt (by omega)
  have h2 : (UInt8.ofNat (v / 64 % 64 + 0x80)).toNat = v / 64 % 64 + 0x80 :=
    toNat_ofNat_lt (by omega)
  have h3 : (UInt8.ofNat (v % 64 + 0x80)).toNat = v % 64 + 0x80 := toNat_ofNat_lt (by omega)
  have hv : (v / 262144 + 0xf0 - 0xf0) * 262144 + (v / 4096 % 64 + 0x80 - 0x80) * 4096 +
      (v / 64 % 64 + 0x80 - 0x80) * 64 + (v % 64 + 0x80 - 0x80) = v := by omega
  have htail : isTail (v / 64 % 64 + 0x80) = true := by simp [isTail]; omega
  have htail' : isTail (v % 64 + 0x80) = true := by simp [isTail]; omega
  have hfirst : ¬(0xc2 ≤ v / 262144 + 0xf0 && v / 262144 + 0xf0 < 0xe0) = true := by simp
  have hfirst' : ¬(0xe0 ≤ v / 262144 + 0xf0 && v / 262144 + 0xf0 < 0xf0) = true := by simp
  have hfirst'' : (0xf0 ≤ v / 262144 + 0xf0 && v / 262144 + 0xf0 < 0xf5) = true := by
    simp; omega
  have hsecond : (decide ((if v / 262144 + 0xf0 = 0xf0 then 0x90 else 0x80) ≤
        v / 4096 % 64 + 0x80) &&
      decide (v / 4096 % 64 + 0x80 < if v / 262144 + 0xf0 = 0xf4 then 0x90 else 0xc0)) =
        true := by
    simp only [Bool.and_eq_true, decide_eq_true_eq]
    constructor <;> split <;> omega
  unfold start
  simp only [List.map_cons, h0, h1, h2, h3]
  rw [if_neg (by omega), if_neg hfirst, if_neg hfirst', if_pos hfirst'', if_pos hsecond,
    if_pos htail, if_pos htail', hv]

/-- **A written character is read as itself**, whatever follows it. -/
theorem exists_start_encodeChar (c : Char) :
    ∃ first tail, String.utf8EncodeChar c = first :: tail ∧ tail.length ≤ 3 ∧
      ∀ rest, start first (tail ++ rest) = .char c tail.length := by
  have hvalid : c.toNat < 0xd800 ∨ 0xdfff < c.toNat ∧ c.toNat < 0x110000 := c.valid
  have hc : Char.ofNat c.toNat = c := Char.ofNat_toNat c
  by_cases h1 : c.toNat < 0x80
  · refine ⟨_, _, hc ▸ encodeChar_one h1, by simp, fun rest => ?_⟩
    exact (start_one h1 rest).trans (by rw [hc]; rfl)
  by_cases h2 : c.toNat < 0x800
  · refine ⟨_, _, hc ▸ encodeChar_two (by omega) h2, by simp, fun rest => ?_⟩
    exact (start_two (by omega) h2 rest).trans (by rw [hc]; rfl)
  by_cases h3 : c.toNat < 0x10000
  · have hs : c.toNat < 0xd800 ∨ 0xdfff < c.toNat := by omega
    refine ⟨_, _, hc ▸ encodeChar_three (by omega) h3 hs, by simp, fun rest => ?_⟩
    exact (start_three (by omega) h3 hs rest).trans (by rw [hc]; rfl)
  · refine ⟨_, _, hc ▸ encodeChar_four (by omega) (by omega), by simp, fun rest => ?_⟩
    exact (start_four (by omega) (by omega) rest).trans (by rw [hc]; rfl)

/-! ## What the reader takes for a character -/

theorem encodeChar_of_two {a x : UInt8} (ha : 0xc2 ≤ a.toNat) (ha' : a.toNat < 0xe0)
    (hx : isTail x.toNat = true) :
    String.utf8EncodeChar (Char.ofNat ((a.toNat - 0xc0) * 64 + (x.toNat - 0x80))) = [a, x] := by
  simp only [isTail, Bool.and_eq_true, decide_eq_true_eq] at hx
  rw [encodeChar_two (by omega) (by omega), ofNat_of_toNat (b := a) (by omega),
    ofNat_of_toNat (b := x) (by omega)]

theorem encodeChar_of_three {a x y : UInt8} (ha : 0xe0 ≤ a.toNat) (ha' : a.toNat < 0xf0)
    (hx : (if a.toNat = 0xe0 then 0xa0 else 0x80) ≤ x.toNat)
    (hx' : x.toNat < if a.toNat = 0xed then 0xa0 else 0xc0) (hy : isTail y.toNat = true) :
    String.utf8EncodeChar (Char.ofNat
      ((a.toNat - 0xe0) * 4096 + (x.toNat - 0x80) * 64 + (y.toNat - 0x80))) = [a, x, y] := by
  simp only [isTail, Bool.and_eq_true, decide_eq_true_eq] at hy
  split at hx <;> split at hx' <;>
    rw [encodeChar_three (by omega) (by omega) (by omega), ofNat_of_toNat (b := a) (by omega),
      ofNat_of_toNat (b := x) (by omega), ofNat_of_toNat (b := y) (by omega)]

theorem encodeChar_of_four {a x y z : UInt8} (ha : 0xf0 ≤ a.toNat) (ha' : a.toNat < 0xf5)
    (hx : (if a.toNat = 0xf0 then 0x90 else 0x80) ≤ x.toNat)
    (hx' : x.toNat < if a.toNat = 0xf4 then 0x90 else 0xc0) (hy : isTail y.toNat = true)
    (hz : isTail z.toNat = true) :
    String.utf8EncodeChar (Char.ofNat ((a.toNat - 0xf0) * 262144 + (x.toNat - 0x80) * 4096 +
      (y.toNat - 0x80) * 64 + (z.toNat - 0x80))) = [a, x, y, z] := by
  simp only [isTail, Bool.and_eq_true, decide_eq_true_eq] at hy hz
  split at hx <;> split at hx' <;>
    rw [encodeChar_four (by omega) (by omega), ofNat_of_toNat (b := a) (by omega),
      ofNat_of_toNat (b := x) (by omega), ofNat_of_toNat (b := y) (by omega),
      ofNat_of_toNat (b := z) (by omega)]

section Reader

variable {first : UInt8} {rest : Bytes} {c : Char} {more : Nat}

theorem encodeChar_of_start_two (hlow : 0xc2 ≤ first.toNat) (hhigh : first.toNat < 0xe0)
    (h : start first rest = .char c more) :
    more ≤ rest.length ∧ String.utf8EncodeChar c = first :: rest.take more := by
  have hfirst : (0xc2 ≤ first.toNat && first.toNat < 0xe0) = true := by simp; omega
  unfold start at h
  simp only at h
  rw [if_neg (by omega), if_pos hfirst] at h
  cases rest with
  | nil => simp at h
  | cons x rest =>
    simp only [List.map_cons] at h
    split at h
    · next hx =>
      injection h with hc hmore
      subst hc hmore
      exact ⟨by simp, encodeChar_of_two hlow hhigh hx⟩
    · simp at h

theorem encodeChar_of_start_three (hlow : 0xe0 ≤ first.toNat) (hhigh : first.toNat < 0xf0)
    (h : start first rest = .char c more) :
    more ≤ rest.length ∧ String.utf8EncodeChar c = first :: rest.take more := by
  have hfirst : ¬(0xc2 ≤ first.toNat && first.toNat < 0xe0) = true := by simp; omega
  have hfirst' : (0xe0 ≤ first.toNat && first.toNat < 0xf0) = true := by simp; omega
  unfold start at h
  simp only at h
  rw [if_neg (by omega), if_neg hfirst, if_pos hfirst'] at h
  -- the bounds of the second byte are tests of their own, and must not be split first
  generalize hbelow : (if first.toNat = 0xe0 then 0xa0 else 0x80) = below at h
  generalize habove : (if first.toNat = 0xed then 0xa0 else 0xc0) = above at h
  match rest, h with
  | x :: y :: _, h =>
    simp only [List.map_cons] at h
    split at h
    · next hx =>
      simp only [Bool.and_eq_true, decide_eq_true_eq] at hx
      split at h
      · next hy =>
        injection h with hc hmore
        subst hc hmore
        subst hbelow habove
        exact ⟨by simp, encodeChar_of_three hlow hhigh hx.1 hx.2 hy⟩
      · simp at h
    · simp at h
  | [x], h =>
    simp only [List.map_cons, List.map_nil] at h
    split at h <;> simp at h
  | [], h => simp at h

theorem encodeChar_of_start_four (hlow : 0xf0 ≤ first.toNat) (hhigh : first.toNat < 0xf5)
    (h : start first rest = .char c more) :
    more ≤ rest.length ∧ String.utf8EncodeChar c = first :: rest.take more := by
  have hfirst : ¬(0xc2 ≤ first.toNat && first.toNat < 0xe0) = true := by simp; omega
  have hfirst' : ¬(0xe0 ≤ first.toNat && first.toNat < 0xf0) = true := by simp; omega
  have hfirst'' : (0xf0 ≤ first.toNat && first.toNat < 0xf5) = true := by simp; omega
  unfold start at h
  simp only at h
  rw [if_neg (by omega), if_neg hfirst, if_neg hfirst', if_pos hfirst''] at h
  generalize hbelow : (if first.toNat = 0xf0 then 0x90 else 0x80) = below at h
  generalize habove : (if first.toNat = 0xf4 then 0x90 else 0xc0) = above at h
  match rest, h with
  | x :: y :: z :: _, h =>
    simp only [List.map_cons] at h
    split at h
    · next hx =>
      simp only [Bool.and_eq_true, decide_eq_true_eq] at hx
      split at h
      · next hy =>
        split at h
        · next hz =>
          injection h with hc hmore
          subst hc hmore
          subst hbelow habove
          exact ⟨by simp, encodeChar_of_four hlow hhigh hx.1 hx.2 hy hz⟩
        · simp at h
      · simp at h
    · simp at h
  | [x, y], h =>
    simp only [List.map_cons, List.map_nil] at h
    split at h
    · split at h <;> simp at h
    · simp at h
  | [x], h =>
    simp only [List.map_cons, List.map_nil] at h
    split at h <;> simp at h
  | [], h => simp at h

/-- **What the reader takes for a character is that character as it is written.** -/
theorem encodeChar_of_start (h : start first rest = .char c more) :
    more ≤ rest.length ∧ String.utf8EncodeChar c = first :: rest.take more := by
  by_cases hone : first.toNat < 0x80
  · unfold start at h
    simp only [if_pos hone] at h
    injection h with hc hmore
    subst hc hmore
    rw [encodeChar_one hone, ofNat_of_toNat rfl]
    exact ⟨Nat.zero_le _, rfl⟩
  by_cases htwo : 0xc2 ≤ first.toNat ∧ first.toNat < 0xe0
  · exact encodeChar_of_start_two htwo.1 htwo.2 h
  by_cases hthree : 0xe0 ≤ first.toNat ∧ first.toNat < 0xf0
  · exact encodeChar_of_start_three hthree.1 hthree.2 h
  by_cases hfour : 0xf0 ≤ first.toNat ∧ first.toNat < 0xf5
  · exact encodeChar_of_start_four hfour.1 hfour.2 h
  · -- no character starts with another byte
    unfold start at h
    simp only [if_neg hone] at h
    rw [if_neg (by simpa using htwo), if_neg (by simpa using hthree),
      if_neg (by simpa using hfour)] at h
    exact absurd h (by simp)

end Reader

/-! ## Whole texts -/

@[simp] theorem encode_nil : encode [] = [] := rfl

theorem encode_cons (c : Char) (cs : List Char) :
    encode (c :: cs) = String.utf8EncodeChar c ++ encode cs := rfl

theorem encode_append (as bs : List Char) : encode (as ++ bs) = encode as ++ encode bs := by
  unfold encode
  exact List.flatMap_append

/-- The reader gets through a written text to what follows it. -/
theorem decodeFrom_encode_append (consumed : Nat) (cs : List Char) (rest : Bytes) :
    decodeFrom consumed (encode cs ++ rest) =
      (decodeFrom (consumed + (encode cs).length) rest).map (cs ++ ·) := by
  induction cs generalizing consumed with
  | nil =>
    rw [encode_nil, List.nil_append, List.length_nil, Nat.add_zero]
    cases decodeFrom consumed rest <;> rfl
  | cons c cs ih =>
    obtain ⟨first, tail, hc, htail, hstart⟩ := exists_start_encodeChar c
    have htake : (tail ++ (encode cs ++ rest)).take 3 =
        tail ++ (encode cs ++ rest).take (3 - tail.length) := by
      rw [List.take_append, List.take_of_length_le htail]
    have hdrop : (tail ++ (encode cs ++ rest)).drop tail.length = encode cs ++ rest :=
      List.drop_left
    have hlength : consumed + 1 + tail.length + (encode cs).length =
        consumed + (first :: tail ++ encode cs).length := by
      rw [List.cons_append, List.length_cons, List.length_append]
      omega
    rw [encode_cons, hc, List.append_assoc, List.cons_append, decodeFrom, htake, hstart]
    simp only
    rw [hdrop, ih, hlength]
    cases decodeFrom (consumed + (first :: tail ++ encode cs).length) rest <;> rfl

/-- **What was written is read back.** -/
@[simp] theorem decode_encode (cs : List Char) : decode (encode cs) = .ok cs := by
  have h := decodeFrom_encode_append 0 cs []
  rw [List.append_nil, decodeFrom] at h
  rw [decode, h]
  exact congrArg Except.ok (List.append_nil cs)

theorem encode_of_decodeFrom {consumed : Nat} {bs : Bytes} {cs : List Char}
    (h : decodeFrom consumed bs = .ok cs) : encode cs = bs := by
  fun_induction decodeFrom consumed bs generalizing cs with
  | case1 consumed =>
    injection h with h
    rw [← h, encode_nil]
  | case2 consumed first rest c more hstart ih =>
    cases hrest : decodeFrom (consumed + 1 + more) (rest.drop more) with
    | error valid =>
      rw [hrest] at h
      exact absurd h (by simp [Except.map])
    | ok tail =>
      rw [hrest] at h
      have hcs : c :: tail = cs := by injection h
      obtain ⟨hmore, hc⟩ := encodeChar_of_start hstart
      rw [List.length_take] at hmore
      -- the reader looks at three bytes only, but it takes no more than it has seen
      have htake : (rest.take 3).take more = rest.take more := by
        rw [List.take_take, Nat.min_eq_left (by omega)]
      rw [← hcs, encode_cons, hc, htake, ih hrest, List.cons_append, List.take_append_drop]
  | case3 consumed first rest more hstart => simp at h

/-- **What can be read is exactly what writing gives.** -/
theorem encode_of_decode {bs : Bytes} {cs : List Char} (h : decode bs = .ok cs) :
    encode cs = bs :=
  encode_of_decodeFrom h

/-- A string that was read is written as what it was read from. -/
theorem encodeString_of_decodeString? {bs : Bytes} {s : String} (h : decodeString? bs = some s) :
    encodeString s = bs := by
  unfold decodeString? at h
  split at h
  · next cs hcs =>
    rw [← Option.some.inj h, encodeString, String.toList_ofList]
    exact encode_of_decode hcs
  · exact absurd h (by simp)

/-- A string that was written is read back. -/
theorem decodeString?_encodeString (s : String) : decodeString? (encodeString s) = some s := by
  rw [decodeString?, encodeString, decode_encode]
  exact congrArg some String.ofList_toList

/-- Different texts are written differently. -/
theorem encode_injective : Function.Injective encode := fun as bs h => by
  have hdecode := congrArg decode h
  rw [decode_encode, decode_encode] at hdecode
  exact Except.ok.inj hdecode

/-! ## Bytes of ASCII -/

/-- The bytes of a character beyond ASCII are none of ASCII. -/
theorem le_of_mem_encodeChar {c : Char} (hc : 0x80 ≤ c.toNat) {b : UInt8}
    (hb : b ∈ String.utf8EncodeChar c) : 0x80 ≤ b.toNat := by
  have hvalid : c.toNat < 0xd800 ∨ 0xdfff < c.toNat ∧ c.toNat < 0x110000 := c.valid
  rw [← Char.ofNat_toNat c] at hb
  by_cases h2 : c.toNat < 0x800
  · rw [encodeChar_two hc h2] at hb
    simp only [List.mem_cons, List.not_mem_nil, or_false] at hb
    rcases hb with rfl | rfl <;> rw [toNat_ofNat_lt (by omega)] <;> omega
  by_cases h3 : c.toNat < 0x10000
  · rw [encodeChar_three (by omega) h3 (by omega)] at hb
    simp only [List.mem_cons, List.not_mem_nil, or_false] at hb
    rcases hb with rfl | rfl | rfl <;> rw [toNat_ofNat_lt (by omega)] <;> omega
  · rw [encodeChar_four (by omega) (by omega)] at hb
    simp only [List.mem_cons, List.not_mem_nil, or_false] at hb
    rcases hb with rfl | rfl | rfl | rfl <;> rw [toNat_ofNat_lt (by omega)] <;> omega

theorem mem_encodeChar_ascii {n : Nat} (hn : n < 0x80) (c : Char) :
    UInt8.ofNat n ∈ String.utf8EncodeChar c ↔ c = Char.ofNat n := by
  constructor
  · intro h
    by_cases hc : c.toNat < 0x80
    · rw [← Char.ofNat_toNat c, encodeChar_one hc, List.mem_singleton] at h
      have h' := congrArg UInt8.toNat h
      rw [toNat_ofNat_lt (by omega), toNat_ofNat_lt (by omega)] at h'
      rw [h', Char.ofNat_toNat]
    · have h' := le_of_mem_encodeChar (by omega) h
      rw [toNat_ofNat_lt (by omega)] at h'
      omega
  · intro h
    rw [h, encodeChar_one hn]
    exact List.mem_singleton_self _

/-- **A byte of ASCII in a written text is a character of the text.** -/
theorem mem_encode_ascii {n : Nat} (hn : n < 0x80) (cs : List Char) :
    UInt8.ofNat n ∈ encode cs ↔ Char.ofNat n ∈ cs := by
  unfold encode
  rw [List.mem_flatMap]
  constructor
  · rintro ⟨c, hc, hb⟩
    rw [← (mem_encodeChar_ascii hn c).mp hb]
    exact hc
  · intro h
    exact ⟨_, h, (mem_encodeChar_ascii hn _).mpr rfl⟩

end Utf8
end PlannerTrials
