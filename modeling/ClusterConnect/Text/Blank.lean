/-!
# Blank characters

The characters that count as white space in property values and in numerals, and the removal of
such characters from both ends of a text.

* `isBlank`: the full set, the characters whose bidirectional class is a separator or white space,
  together with the space separators.
* `isPadding`: the blanks allowed around a numeral, which are all of them but the four information
  separators.
* `strip p`: a text without the characters satisfying `p` at its two ends.
-/

namespace ClusterConnect.Text

/-- The white space characters of the Basic Multilingual Plane, as inclusive ranges in ascending
order. -/
def blankRanges : List (Nat × Nat) :=
  [(0x09, 0x0D), (0x1C, 0x20), (0x85, 0x85), (0xA0, 0xA0), (0x1680, 0x1680), (0x2000, 0x200A),
   (0x2028, 0x2029), (0x202F, 0x202F), (0x205F, 0x205F), (0x3000, 0x3000)]

/-- Whether `n` lies in one of the inclusive ranges. -/
def inRanges (n : Nat) (ranges : List (Nat × Nat)) : Bool :=
  ranges.any fun r => r.1 ≤ n && n ≤ r.2

/-- White space of any kind. -/
def isBlank (c : Char) : Bool := inRanges c.toNat blankRanges

/-- White space that may surround a numeral: any blank but the information separators
U+001C to U+001F. -/
def isPadding (c : Char) : Bool := isBlank c && !(0x1C ≤ c.toNat && c.toNat ≤ 0x1F)

/-- The text between the first and the last character that does not satisfy `p`. -/
def strip (p : Char → Bool) (cs : List Char) : List Char :=
  ((cs.dropWhile p).reverse.dropWhile p).reverse

@[simp] theorem strip_nil (p : Char → Bool) : strip p [] = [] := rfl

end ClusterConnect.Text
