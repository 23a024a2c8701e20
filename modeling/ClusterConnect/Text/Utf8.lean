/-!
# UTF-8

The bytes of a character, and the reading of bytes that need not be well formed: every maximal
ill-formed part is read as one replacement character.

* `encodeChar`, `encode`: the bytes of a character and of a text.
* `next`: the first character of a run of bytes, or `none` for an ill-formed part, with the bytes
  that follow it.
* `decodeLossy`: the text of a run of bytes.
-/

namespace ClusterConnect.Text.Utf8

/-- The byte whose value is `n`, for `n` below 256. -/
def byte (n : Nat) : UInt8 := UInt8.ofNat n

/-- The one to four bytes of a character. -/
def encodeChar (c : Char) : List UInt8 :=
  let n := c.toNat
  if n < 0x80 then [byte n]
  else if n < 0x800 then [byte (0xC0 + n / 64), byte (0x80 + n % 64)]
  else if n < 0x10000 then
    [byte (0xE0 + n / 4096), byte (0x80 + n / 64 % 64), byte (0x80 + n % 64)]
  else
    [byte (0xF0 + n / 262144), byte (0x80 + n / 4096 % 64), byte (0x80 + n / 64 % 64),
     byte (0x80 + n % 64)]

/-- The bytes of a text. -/
def encode (cs : List Char) : List UInt8 := cs.flatMap encodeChar

/-- What a first byte announces: the number of bytes that follow, the bounds of the first of them,
and the byte's own share of the code point. The bounds exclude overlong forms, surrogates and
numbers above U+10FFFF. -/
structure Lead where
  /-- How many bytes follow. -/
  following : Nat
  /-- The least value of the second byte. -/
  least : Nat
  /-- The greatest value of the second byte. -/
  greatest : Nat
  /-- The leading bits of the code point. -/
  bits : Nat
deriving Repr, DecidableEq

/-- The reading of a first byte, `none` if no character starts with it. -/
def lead? (b : Nat) : Option Lead :=
  if b < 0x80 then some ⟨0, 0, 0, b⟩
  else if b < 0xC2 then none
  else if b < 0xE0 then some ⟨1, 0x80, 0xBF, b - 0xC0⟩
  else if b < 0xF0 then
    some ⟨2, if b = 0xE0 then 0xA0 else 0x80, if b = 0xED then 0x9F else 0xBF, b - 0xE0⟩
  else if b < 0xF5 then
    some ⟨3, if b = 0xF0 then 0x90 else 0x80, if b = 0xF4 then 0x8F else 0xBF, b - 0xF0⟩
  else none

/-- Reads the bytes that follow a first byte. The bounds hold for the next byte only; later ones
are any continuation bytes. Stops before the first byte that cannot continue the character. -/
def continuation : (following least greatest bits : Nat) → List UInt8 → Option Char × List UInt8
  | 0, _, _, bits, bs => (some (Char.ofNat bits), bs)
  | _ + 1, _, _, _, [] => (none, [])
  | k + 1, least, greatest, bits, b :: bs =>
    if least ≤ b.toNat ∧ b.toNat ≤ greatest then
      continuation k 0x80 0xBF (64 * bits + (b.toNat - 0x80)) bs
    else (none, b :: bs)

theorem length_continuation_le (k least greatest bits : Nat) (bs : List UInt8) :
    (continuation k least greatest bits bs).2.length ≤ bs.length := by
  induction k generalizing least greatest bits bs with
  | zero => simp [continuation]
  | succ k ih =>
    cases bs with
    | nil => simp [continuation]
    | cons b bs =>
      rw [continuation]
      split
      · exact Nat.le_succ_of_le (ih ..)
      · exact Nat.le_refl _

/-- The character at the front of `b :: bs`, or `none` for a maximal ill-formed part, and the bytes
after it. -/
def next (b : UInt8) (bs : List UInt8) : Option Char × List UInt8 :=
  match lead? b.toNat with
  | none => (none, bs)
  | some l => continuation l.following l.least l.greatest l.bits bs

theorem length_next_le (b : UInt8) (bs : List UInt8) : (next b bs).2.length ≤ bs.length := by
  rw [next]
  split
  · exact Nat.le_refl _
  · exact length_continuation_le ..

/-- Stands for a part of the input that is no character. -/
def replacement : Char := '\uFFFD'

/-- The text of a run of bytes, each maximal ill-formed part read as `replacement`. -/
def decodeLossy : List UInt8 → List Char
  | [] => []
  | b :: bs => (next b bs).1.getD replacement :: decodeLossy (next b bs).2
termination_by bs => bs.length
decreasing_by exact Nat.lt_succ_of_le (length_next_le b bs)

@[simp] theorem decodeLossy_nil : decodeLossy [] = [] := by rw [decodeLossy]

/-- The text of well-formed bytes, `none` if any part is ill-formed. -/
def decode? : List UInt8 → Option (List Char)
  | [] => some []
  | b :: bs =>
    match (next b bs).1 with
    | none => none
    | some c => (decode? (next b bs).2).map (c :: ·)
termination_by bs => bs.length
decreasing_by exact Nat.lt_succ_of_le (length_next_le b bs)

@[simp] theorem encode_nil : encode [] = [] := rfl

@[simp] theorem encode_append (a b : List Char) : encode (a ++ b) = encode a ++ encode b :=
  List.flatMap_append

end ClusterConnect.Text.Utf8
