import ClusterConnect.Document.Scalar
import ClusterConnect.Document.Tree
import ClusterConnect.Text.Lines

/-!
# The reading of a document

A document is a sequence of lines, each empty, a header, or a key with its value; a comment may end
any of them.

* `value`: a value of any type.
* `statements`: the lines of a document.
* `read`: the top-level table of a document, or the first fault.

Values nest, and what nests too deeply is refused. The reading of values is also limited in the
number of its steps; that limit grows with the text and is never met.
-/

namespace ClusterConnect.Document

open Text

/-- The text without a comment at its front, `none` if the comment holds a forbidden character. -/
def skipComment? : List Char → Option (List Char)
  | '#' :: rest =>
    if (rest.takeWhile (· != '\n')).any isForbidden then none
    else some (rest.dropWhile (· != '\n'))
  | cs => some cs

/-- The text without the blanks, line ends and comments at its front. -/
def skipVoid? : (inComment : Bool) → List Char → Option (List Char)
  | _, [] => some []
  | true, c :: rest =>
    if c = '\n' then skipVoid? false rest
    else if isForbidden c then none
    else skipVoid? true rest
  | false, c :: rest =>
    if isVoid c then skipVoid? false rest
    else if c = '#' then skipVoid? true rest
    else some (c :: rest)

/-- What could be read, or the general fault. -/
def orMalformed {α : Type} : Option α → Except Fault α
  | some a => .ok a
  | none => .error .malformed

/-- A value of one of the types that do not nest. -/
def scalar (cs : List Char) : Except Fault (Value × List Char) :=
  match text? cs with
  | some r => (orMalformed r).map fun (body, rest) => (.text (String.ofList body), rest)
  | none =>
    match afterPrefix? "true".toList cs with
    | some rest => .ok (.bool true, rest)
    | none =>
      match afterPrefix? "false".toList cs with
      | some rest => .ok (.bool false, rest)
      | none =>
        match moment? cs with
        | some r => r.map fun (m, rest) => (.moment m, rest)
        | none => (number? cs).getD (.error .malformed)

/-- The room for nested values. -/
def nestingRoom : Nat := 985

/-- The room that a list takes. -/
def listRoom : Nat := 2

/-- The room that a table takes. -/
def tableRoom : Nat := 3

mutual

/-- A value of any type, with room for nested ones. -/
def value : (limit room : Nat) → List Char → Except Fault (Value × List Char)
  | 0, _, _ => .error .malformed
  | limit + 1, room, '[' :: rest =>
    if room < listRoom then .error .tooDeep
    else do
      let rest ← orMalformed (skipVoid? false rest)
      let (vs, rest) ← items limit (room - listRoom) rest
      .ok (.list vs, rest)
  | limit + 1, room, '\x7b' :: rest =>
    if room < tableRoom then .error .tooDeep
    else do
      match skipSpaces rest with
      | '\x7d' :: rest => .ok (.table [], rest)
      | rest =>
        let (t, rest) ← inlineEntries limit (room - tableRoom) [] rest
        .ok (.table (Table.entryValues t), rest)
  | _, _, cs => scalar cs

/-- The items of a list up to its closing bracket. A comma may follow the last item. -/
def items : (limit room : Nat) → List Char → Except Fault (List Value × List Char)
  | 0, _, _ => .error .malformed
  | _, _, ']' :: rest => .ok ([], rest)
  | limit + 1, room, cs => do
    let (v, rest) ← value limit room cs
    match ← orMalformed (skipVoid? false rest) with
    | ']' :: rest => .ok ([v], rest)
    | ',' :: rest =>
      let (vs, rest) ← items limit room (← orMalformed (skipVoid? false rest))
      .ok (v :: vs, rest)
    | _ => .error .malformed

/-- The entries of a table on one line up to its closing brace. No comma follows the last entry. -/
def inlineEntries : (limit room : Nat) → Table → List Char → Except Fault (Table × List Char)
  | 0, _, _, _ => .error .malformed
  | limit + 1, room, t, cs => do
    let (key, v, rest) ← pair limit room cs
    let t ← orMalformed (t.assign? 0 [] key v)
    match skipSpaces rest with
    | '\x7d' :: rest => .ok (t, rest)
    | ',' :: rest => inlineEntries limit room t (skipSpaces rest)
    | _ => .error .malformed

/-- A key, an equals sign and a value. -/
def pair : (limit room : Nat) → List Char → Except Fault (List String × Value × List Char)
  | 0, _, _ => .error .malformed
  | limit + 1, room, cs => do
    match ← orMalformed (key? cs) with
    | (key, '=' :: rest) =>
      let (v, rest) ← value limit room (skipSpaces rest)
      .ok (key, v, rest)
    | _ => .error .malformed

end

/-- More steps than the reading of a value in a text of this length takes. -/
def stepLimit (cs : List Char) : Nat := 3 * cs.length + 3

/-- What has been read so far: the table, and the latest header with its number. -/
structure Progress where
  table : Table := []
  header : List String := []
  number : Nat := 0

/-- One statement at the front of a text: a header, or a key with a value. -/
def statement (p : Progress) (cs : List Char) : Except Fault (Progress × List Char) :=
  match cs with
  | '[' :: '[' :: rest => do
    match ← orMalformed (key? (skipSpaces rest)) with
    | (key, ']' :: ']' :: rest) =>
      .ok (⟨← orMalformed (p.table.append? key), key, p.number + 1⟩, rest)
    | _ => .error .malformed
  | '[' :: rest => do
    match ← orMalformed (key? (skipSpaces rest)) with
    | (key, ']' :: rest) =>
      .ok (⟨← orMalformed (p.table.open? key), key, p.number + 1⟩, rest)
    | _ => .error .malformed
  | _ => do
    let (key, v, rest) ← pair (stepLimit cs) nestingRoom cs
    .ok ({ p with table := ← orMalformed (p.table.assign? p.number p.header key v) }, rest)

/-- The rest of a line behind a statement: blanks and a comment. -/
def endLine? (cs : List Char) : Option (List Char) :=
  match skipComment? (skipSpaces cs) with
  | some [] => some []
  | some ('\n' :: rest) => some rest
  | _ => none

/-- The lines of a document, at most `limit` of them. -/
def statements : (limit : Nat) → Progress → List Char → Except Fault Progress
  | 0, _, _ => .error .malformed
  | limit + 1, p, cs =>
    match skipSpaces cs with
    | [] => .ok p
    | c :: rest =>
      if c = '\n' then statements limit p rest
      else if c = '#' then do statements limit p (← orMalformed (endLine? (c :: rest)))
      else if c = '[' || startsKey c then do
        let (p, rest) ← statement p (c :: rest)
        statements limit p (← orMalformed (endLine? rest))
      else .error .malformed

/-- The top-level entries of a document. -/
def read (cs : List Char) : Except Fault (List (String × Value)) :=
  let cs := unifyLineEnds cs
  (statements (cs.length + 2) {} cs).map fun p => Table.entryValues p.table

end ClusterConnect.Document
