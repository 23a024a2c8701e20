import ClusterConnect.Text.Percent
import ClusterConnect.Text.Split

/-!
# Texts and keys in a document

A text is written between quotation marks, where escapes are read, or between apostrophes, where
every character stands for itself. Three marks on each side allow line ends inside.

* `basic?`, `literal?`: texts on one line.
* `multilineBasic?`, `multilineLiteral?`: texts over several lines.
* `key?`: a key, whose parts are separated by dots.

Each reads from the front of its argument, behind the opening marks, and gives the rest.
-/

namespace ClusterConnect.Document

open Text

/-- The blanks that separate what stands on one line. -/
def isSpace (c : Char) : Bool := c = ' ' || c = '\t'

/-- The blanks and the line end. -/
def isVoid (c : Char) : Bool := isSpace c || c = '\n'

/-- The control characters that no line may hold; the tab is allowed. -/
def isForbidden (c : Char) : Bool := (c.toNat < 0x20 || c.toNat = 0x7F) && c != '\t'

/-- The text without the blanks at its front. -/
def skipSpaces (cs : List Char) : List Char := cs.dropWhile isSpace

/-! ## Escapes -/

/-- The character with a given code point, unless it is a surrogate or out of range. -/
def character? (n : Nat) : Option Char := if n.isValidChar then some (Char.ofNat n) else none

/-- The value of hexadecimal digits, most significant first. -/
def hexNumber? (cs : List Char) : Option Nat :=
  cs.foldlM (fun n c => (Percent.hexValue? c).map (16 * n + ·)) 0

/-- The character whose code point is written in `width` hexadecimal digits. -/
def codePoint? (width : Nat) (cs : List Char) : Option (Char × List Char) :=
  if (cs.take width).length = width then
    ((hexNumber? (cs.take width)).bind character?).map fun c => (c, cs.drop width)
  else none

/-- The escapes of one letter. -/
def simpleEscapes : List (Char × Char) :=
  [('b', '\x08'), ('t', '\t'), ('n', '\n'), ('f', '\x0c'), ('r', '\r'), ('"', '"'), ('\\', '\\')]

/-- The character that stands behind a backslash. -/
def escape? : List Char → Option (Char × List Char)
  | [] => none
  | c :: rest =>
    if c = 'u' then codePoint? 4 rest
    else if c = 'U' then codePoint? 8 rest
    else (simpleEscapes.lookup c).map fun e => (e, rest)

theorem codePoint?_length {width : Nat} {cs rest : List Char} {c : Char}
    (h : codePoint? width cs = some (c, rest)) : rest.length ≤ cs.length := by
  unfold codePoint? at h
  split at h
  · obtain ⟨_, _, he⟩ := Option.map_eq_some_iff.1 h
    rw [← (Prod.mk.inj he).2, List.length_drop]
    exact Nat.sub_le ..
  · simp at h

/-- An escape takes at least one character. -/
theorem escape?_length {cs rest : List Char} {c : Char} (h : escape? cs = some (c, rest)) :
    rest.length < cs.length := by
  cases cs with
  | nil => simp [escape?] at h
  | cons d tail =>
    rw [escape?] at h
    split at h
    · exact Nat.lt_succ_of_le (codePoint?_length h)
    · split at h
      · exact Nat.lt_succ_of_le (codePoint?_length h)
      · obtain ⟨_, _, he⟩ := Option.map_eq_some_iff.1 h
        rw [← (Prod.mk.inj he).2]
        exact Nat.lt_succ_self _

/-! ## Texts on one line -/

/-- The content of a text with escapes up to the closing quotation mark. -/
def basic? : List Char → Option (List Char × List Char)
  | [] => none
  | c :: rest =>
    if c = '"' then some ([], rest)
    else if c = '\\' then
      match _h : escape? rest with
      | none => none
      | some (e, rest') => (basic? rest').map fun r => (e :: r.1, r.2)
    else if isForbidden c then none
    else (basic? rest).map fun r => (c :: r.1, r.2)
termination_by cs => cs.length
decreasing_by
  · exact Nat.lt_succ_of_lt (escape?_length (by assumption))
  · exact Nat.lt_succ_self _

/-- The content of a text without escapes up to the closing apostrophe. -/
def literal? (cs : List Char) : Option (List Char × List Char) :=
  match cut '\'' cs with
  | (body, some rest) => if body.any isForbidden then none else some (body, rest)
  | (_, none) => none

/-! ## Texts over several lines -/

/-- Up to two marks in front of a text, which belong to the content when they follow three closing
ones. -/
def surplus (mark : Char) (cs : List Char) : List Char × List Char :=
  let marks := (cs.take 2).takeWhile (· == mark)
  (marks, cs.drop marks.length)

/-- The text behind a backslash that ends its line: the line end and all blanks and line ends behind
it are skipped. `none` if something else stands behind the backslash. -/
def folded? (cs : List Char) : Option (List Char) :=
  match skipSpaces cs with
  | '\n' :: rest => some (rest.dropWhile isVoid)
  | _ => none

theorem length_dropWhile_le (p : Char → Bool) (cs : List Char) :
    (cs.dropWhile p).length ≤ cs.length := (List.dropWhile_sublist p).length_le

theorem folded?_length {cs rest : List Char} (h : folded? cs = some rest) :
    rest.length ≤ cs.length := by
  unfold folded? at h
  split at h
  · next heq =>
    rw [← Option.some.inj h]
    have := length_dropWhile_le isSpace cs
    rw [← skipSpaces, heq] at this
    exact Nat.le_trans (length_dropWhile_le ..) (Nat.le_trans (Nat.le_succ _) this)
  · simp at h

/-- The content of a text with escapes up to the three closing quotation marks. -/
def multilineBasic? : List Char → Option (List Char × List Char)
  | '"' :: '"' :: '"' :: rest => some (surplus '"' rest)
  | '\\' :: rest =>
    match _h : folded? rest with
    | some rest' => multilineBasic? rest'
    | none =>
      match _h : escape? rest with
      | none => none
      | some (e, rest') => (multilineBasic? rest').map fun r => (e :: r.1, r.2)
  | c :: rest =>
    if isForbidden c && c != '\n' then none
    else (multilineBasic? rest).map fun r => (c :: r.1, r.2)
  | [] => none
termination_by cs => cs.length
decreasing_by
  · exact Nat.lt_succ_of_le (folded?_length (by assumption))
  · exact Nat.lt_succ_of_lt (escape?_length (by assumption))
  · exact Nat.lt_succ_self _

/-- The content of a text without escapes up to the three closing apostrophes. -/
def multilineLiteral? : List Char → Option (List Char × List Char)
  | '\'' :: '\'' :: '\'' :: rest => some (surplus '\'' rest)
  | c :: rest =>
    if isForbidden c && c != '\n' then none
    else (multilineLiteral? rest).map fun r => (c :: r.1, r.2)
  | [] => none

/-- The text without a line end at its very front. -/
def skipFirstLineEnd : List Char → List Char
  | '\n' :: rest => rest
  | cs => cs

/-- A text in any of the four forms, `none` if none of them starts here, `some none` if one starts
and does not end. -/
def text? : List Char → Option (Option (List Char × List Char))
  | '"' :: '"' :: '"' :: rest => some (multilineBasic? (skipFirstLineEnd rest))
  | '\'' :: '\'' :: '\'' :: rest => some (multilineLiteral? (skipFirstLineEnd rest))
  | '"' :: rest => some (basic? rest)
  | '\'' :: rest => some (literal? rest)
  | _ => none

/-! ## Keys -/

/-- The characters of a key without marks. -/
def isBare (c : Char) : Bool := c.isAlphanum || c = '-' || c = '_'

/-- Whether a key can start with a character. -/
def startsKey (c : Char) : Bool := isBare c || c = '"' || c = '\''

/-- One part of a key. -/
def keyPart? (cs : List Char) : Option (String × List Char) :=
  match cs with
  | '"' :: rest => (basic? rest).map fun r => (String.ofList r.1, r.2)
  | '\'' :: rest => (literal? rest).map fun r => (String.ofList r.1, r.2)
  | _ =>
    let part := cs.takeWhile isBare
    if part.isEmpty then none else some (String.ofList part, cs.dropWhile isBare)

/-- The parts of a key with at most `limit` dots, and the text behind it and the blanks that follow
it. -/
def keyParts? (limit : Nat) (cs : List Char) : Option (List String × List Char) :=
  match keyPart? cs with
  | none => none
  | some (part, rest) =>
    match limit, skipSpaces rest with
    | limit + 1, '.' :: rest =>
      (keyParts? limit (skipSpaces rest)).map fun r => (part :: r.1, r.2)
    | _, rest => some ([part], rest)

/-- A key: parts with dots between them. There are fewer dots than characters. -/
def key? (cs : List Char) : Option (List String × List Char) := keyParts? cs.length cs

end ClusterConnect.Document
