import ClusterConnect.Text.Split

/-!
# Lines

* `unifyLineEnds`: the two characters that end a line together become one.
* `isLineEnd`: the characters that end a line on their own.
* `lines`: the lines of a text, without their ends.
-/

namespace ClusterConnect.Text

/-- The text with every carriage return that a line feed follows removed. -/
def unifyLineEnds : List Char → List Char
  | '\r' :: '\n' :: rest => '\n' :: unifyLineEnds rest
  | c :: rest => c :: unifyLineEnds rest
  | [] => []

/-- Line feed, carriage return, vertical tab, form feed, the three separators among the control
characters, next line, and the two separators of lines and paragraphs. -/
def isLineEnd (c : Char) : Bool :=
  c ∈ ['\n', '\r', '\x0b', '\x0c', '\x1c', '\x1d', '\x1e', '\u0085', '\u2028', '\u2029']

/-- The lines of a text. An end at the end of the text does not start another line. -/
def lines (cs : List Char) : List (List Char) :=
  let parts := (unifyLineEnds cs).splitOnP isLineEnd
  if parts.getLast? = some [] then parts.dropLast else parts

theorem unifyLineEnds_of_not_mem {cs : List Char} (h : '\r' ∉ cs) : unifyLineEnds cs = cs := by
  induction cs with
  | nil => rfl
  | cons c cs ih =>
    rw [List.mem_cons, not_or] at h
    rw [unifyLineEnds, ih h.2]
    intro rest hc
    exact absurd hc.symm h.1

end ClusterConnect.Text
