import ClusterConnect.Text.Printable

/-!
# Quoted texts

The quoted form of a text inside a list or a table, and of a key in a message. A text is set in
apostrophes, or in quotation marks if it holds apostrophes and no quotation mark. The backslash,
the enclosing mark and every character without a visible form are written as escapes.
-/

namespace ClusterConnect.Text

/-- The last `width` hexadecimal digits of a number, in small letters. -/
def hexDigits : (width : Nat) → Nat → List Char
  | 0, _ => []
  | w + 1, n => hexDigits w (n / 16) ++ [Nat.digitChar (n % 16)]

/-- A character between quotes: a visible one stands for itself, the three common controls have
escapes of their own, and the others are written by number in two, four or eight digits. -/
def escaped (mark : Char) (c : Char) : List Char :=
  if c = mark ∨ c = '\\' then ['\\', c]
  else if c = '\n' then ['\\', 'n']
  else if c = '\r' then ['\\', 'r']
  else if c = '\t' then ['\\', 't']
  else if isPrintable c then [c]
  else if c.toNat < 0x100 then '\\' :: 'x' :: hexDigits 2 c.toNat
  else if c.toNat < 0x10000 then '\\' :: 'u' :: hexDigits 4 c.toNat
  else '\\' :: 'U' :: hexDigits 8 c.toNat

/-- The mark that encloses a text. -/
def enclosingMark (cs : List Char) : Char :=
  if cs.contains '\'' && !cs.contains '"' then '"' else '\''

/-- The quoted form of a text. -/
def quoted (text : String) : String :=
  let mark := enclosingMark text.toList
  String.ofList (mark :: (text.toList.flatMap (escaped mark) ++ [mark]))

@[simp] theorem length_hexDigits (w n : Nat) : (hexDigits w n).length = w := by
  induction w generalizing n with
  | zero => rfl
  | succ w ih => simp [hexDigits, ih]

end ClusterConnect.Text
