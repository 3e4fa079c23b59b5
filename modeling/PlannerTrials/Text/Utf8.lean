/-!
# Texts as bytes

`Utf8.encode` writes a text as bytes.  Reading is built on one question: what stands at the start of
a sequence of bytes, a character or a broken part?  A broken part is as long as it could still have
become a character.  `Utf8.decode` refuses broken parts and says where the first one is, and
`Utf8.decodeLossy` puts the replacement character in the place of each.
-/

namespace PlannerTrials

/-- A sequence of bytes: the content of a file, or the name of one. -/
abbrev Bytes := List UInt8

namespace Utf8

/-- The bytes of a text. -/
def encode (cs : List Char) : Bytes := cs.flatMap String.utf8EncodeChar

/-- The bytes of a string. -/
def encodeString (s : String) : Bytes := encode s.toList

/-- What stands at the start of a sequence of bytes. -/
inductive Start where
  /-- A character, and how many bytes follow its first one. -/
  | char (c : Char) (more : Nat)
  /-- A broken part, and how many of its bytes follow the first one. -/
  | broken (more : Nat)
  deriving DecidableEq, Repr

/-- Whether a byte continues a character. -/
def isTail (n : Nat) : Bool := 0x80 ≤ n && n < 0xc0

/-- What a first byte and the bytes after it start with. -/
def start (first : UInt8) (rest : Bytes) : Start :=
  let b := first.toNat
  let rest := rest.map (·.toNat)
  if b < 0x80 then .char (Char.ofNat b) 0
  else if 0xc2 ≤ b && b < 0xe0 then
    match rest with
    | x :: _ => if isTail x then .char (Char.ofNat ((b - 0xc0) * 64 + (x - 0x80))) 1 else .broken 0
    | [] => .broken 0
  else if 0xe0 ≤ b && b < 0xf0 then
    let low := if b = 0xe0 then 0xa0 else 0x80
    let high := if b = 0xed then 0xa0 else 0xc0
    match rest with
    | x :: ys =>
      if low ≤ x && x < high then
        match ys with
        | y :: _ =>
          if isTail y then
            .char (Char.ofNat ((b - 0xe0) * 4096 + (x - 0x80) * 64 + (y - 0x80))) 2
          else .broken 1
        | [] => .broken 1
      else .broken 0
    | [] => .broken 0
  else if 0xf0 ≤ b && b < 0xf5 then
    let low := if b = 0xf0 then 0x90 else 0x80
    let high := if b = 0xf4 then 0x90 else 0xc0
    match rest with
    | x :: ys =>
      if low ≤ x && x < high then
        match ys with
        | y :: zs =>
          if isTail y then
            match zs with
            | z :: _ =>
              if isTail z then
                .char (Char.ofNat
                  ((b - 0xf0) * 262144 + (x - 0x80) * 4096 + (y - 0x80) * 64 + (z - 0x80))) 3
              else .broken 2
            | [] => .broken 2
          else .broken 1
        | [] => .broken 1
      else .broken 0
    | [] => .broken 0
  else .broken 0

/-- Reads bytes as text, or says how many bytes are text before the first broken part. -/
def decodeFrom (consumed : Nat) : Bytes → Except Nat (List Char)
  | [] => .ok []
  | b :: rest =>
    match start b (rest.take 3) with
    | .char c more => (decodeFrom (consumed + 1 + more) (rest.drop more)).map (c :: ·)
    | .broken _ => .error consumed
termination_by bs => bs.length
decreasing_by simp only [List.length_drop, List.length_cons]; omega

/-- Reads bytes as text, or says how many bytes are text before the first broken part. -/
def decode (bs : Bytes) : Except Nat (List Char) := decodeFrom 0 bs

/-- The string that bytes encode, if they encode one. -/
def decodeString? (bs : Bytes) : Option String :=
  match decode bs with
  | .ok cs => some (String.ofList cs)
  | .error _ => none

/-- Reads bytes as text, with the replacement character for every broken part. -/
def decodeLossy : Bytes → List Char
  | [] => []
  | b :: rest =>
    match start b (rest.take 3) with
    | .char c more => c :: decodeLossy (rest.drop more)
    | .broken more => '\ufffd' :: decodeLossy (rest.drop more)
termination_by bs => bs.length
decreasing_by all_goals simp only [List.length_drop, List.length_cons]; omega

end Utf8

end PlannerTrials
