import ClusterConnect.Text.Utf8

/-!
# Form encoding of texts

Database names and property values stand in a URL in form encoding: a plus sign is a space and a
percent sign with two hexadecimal digits is a byte. The bytes between two characters beyond ASCII
are one run and are read as UTF-8.

* `encodeText`: letters and digits stand for themselves, every other byte is written `%XX`.
* `decodeText`: the reading of any text. A percent sign that no two hexadecimal digits follow
  stands for itself.
-/

namespace ClusterConnect.Text.Percent

/-- The value of an ASCII hexadecimal digit in either case. -/
def hexValue? (c : Char) : Option Nat :=
  if '0' ≤ c ∧ c ≤ '9' then some (c.toNat - '0'.toNat)
  else if 'a' ≤ c ∧ c ≤ 'f' then some (c.toNat - 'a'.toNat + 10)
  else if 'A' ≤ c ∧ c ≤ 'F' then some (c.toNat - 'A'.toNat + 10)
  else none

/-- The hexadecimal digit of a number below sixteen, as a capital. -/
def hexDigit (n : Nat) : Char := (Nat.digitChar n).toUpper

/-- What one place of an encoded text contributes: a byte of a run, or a character beyond ASCII
that ends the run before it. -/
inductive Piece where
  | byte (b : UInt8)
  | char (c : Char)
deriving Repr, DecidableEq

/-- A character that is no escape: a plus sign is a space. -/
def plain (c : Char) : Piece :=
  if c = '+' then .byte 0x20
  else if c.toNat < 0x80 then .byte (UInt8.ofNat c.toNat)
  else .char c

/-- The pieces of an encoded text. -/
def pieces : List Char → List Piece
  | '%' :: h :: l :: rest =>
    match hexValue? h, hexValue? l with
    | some a, some b => .byte (UInt8.ofNat (16 * a + b)) :: pieces rest
    | _, _ => plain '%' :: pieces (h :: l :: rest)
  | c :: rest => plain c :: pieces rest
  | [] => []

/-- The text of a list of pieces; `run` holds the bytes read so far of the current run, latest
first. -/
def assemble (run : List UInt8) : List Piece → List Char
  | [] => Utf8.decodeLossy run.reverse
  | .byte b :: ps => assemble (b :: run) ps
  | .char c :: ps => Utf8.decodeLossy run.reverse ++ c :: assemble [] ps

/-- The text that an encoded text stands for. -/
def decodeText (cs : List Char) : List Char := assemble [] (pieces cs)

@[simp] theorem decodeText_nil : decodeText [] = [] := by simp [decodeText, pieces, assemble]

/-- Whether a character stands for itself in what `encodeText` writes. -/
def isUnreserved (c : Char) : Bool := c.isAlphanum

/-- One byte as an escape. -/
def escape (b : UInt8) : List Char := ['%', hexDigit (b.toNat / 16), hexDigit (b.toNat % 16)]

/-- The encoding of one character. -/
def encodeChar (c : Char) : List Char :=
  if isUnreserved c then [c] else (Utf8.encodeChar c).flatMap escape

/-- The encoding of a text: ASCII letters and digits as they are, every other byte escaped. -/
def encodeText (cs : List Char) : List Char := cs.flatMap encodeChar

end ClusterConnect.Text.Percent
