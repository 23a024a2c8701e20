import ClusterConnect.Text.Blank
import ClusterConnect.Text.Digit

/-!
# Numerals in property values

Ports and time limits are given as text. This module reads that text.

* `integer?`: an integer with an optional sign.
* `Numeral`, `numeral?`: a number with an optional fraction and power of ten, or one of the words
  for infinity and for an undefined number.

In both, the digits may be those of any script, blanks around the numeral are skipped, and single
underscores may stand between two digits.
-/

namespace ClusterConnect.Number

open Text

/-- The longest run of digits that is read as an integer. -/
def maxIntegerDigits : Nat := 4300

/-- A numeral without the blanks around it and with its digits in ASCII. -/
def normalized (cs : List Char) : List Char :=
  (strip isPadding cs).map fun c =>
    match digitValue? c with
    | some d => Nat.digitChar d
    | none => c

/-- The digits that continue a run, single underscores between them left out, and what follows the
run. `digit` says which characters are digits. -/
def moreDigits (digit : Char → Bool) : List Char → List Char × List Char
  | '_' :: d :: rest =>
    if digit d then
      let r := moreDigits digit rest
      (d :: r.1, r.2)
    else ([], '_' :: d :: rest)
  | c :: rest =>
    if digit c then
      let r := moreDigits digit rest
      (c :: r.1, r.2)
    else ([], c :: rest)
  | [] => ([], [])

/-- A run of digits at the front of a text and what follows it, `none` if there is no digit at the
front. -/
def digitRun? (digit : Char → Bool) : List Char → Option (List Char × List Char)
  | c :: rest =>
    if digit c then
      let r := moreDigits digit rest
      some (c :: r.1, r.2)
    else none
  | [] => none

/-- Whether a minus sign stands at the front, and the text after the sign. -/
def sign : List Char → Bool × List Char
  | '-' :: rest => (true, rest)
  | '+' :: rest => (false, rest)
  | cs => (false, cs)

/-- The integer that a text stands for. -/
def integer? (cs : List Char) : Option Int :=
  let (negative, body) := sign (normalized cs)
  match digitRun? Char.isDigit body with
  | some (digits, []) =>
    if digits.length ≤ maxIntegerDigits then
      some (if negative then -(digitsValue digits : Int) else digitsValue digits)
    else none
  | _ => none

/-- What a numeral says, before it is rounded to any number type. -/
inductive Numeral where
  /-- An undefined number. -/
  | undefined
  | infinite (negative : Bool)
  /-- The number `digits` times ten to the power `exponent`. -/
  | decimal (negative : Bool) (digits : Nat) (exponent : Int)
deriving Repr, DecidableEq

/-- A power of ten at the end of a numeral: nothing, or the letter `e`, a sign and digits. -/
def powerOfTen? : List Char → Option Int
  | [] => some 0
  | c :: rest =>
    if c = 'e' ∨ c = 'E' then
      let (negative, body) := sign rest
      match digitRun? Char.isDigit body with
      | some (digits, []) =>
        some (if negative then -(digitsValue digits : Int) else digitsValue digits)
      | _ => none
    else none

/-- The fraction and the power of ten that follow the digits `whole`. -/
def fraction? (negative : Bool) (whole : List Char) : List Char → Option Numeral
  | '.' :: rest =>
    match digitRun? Char.isDigit rest with
    | some (part, rest) =>
      (powerOfTen? rest).map fun e =>
        .decimal negative (digitsValue (whole ++ part)) (e - part.length)
    | none =>
      if whole.isEmpty then none
      else (powerOfTen? rest).map fun e => .decimal negative (digitsValue whole) e
  | rest =>
    if whole.isEmpty then none
    else (powerOfTen? rest).map fun e => .decimal negative (digitsValue whole) e

/-- The words for special numbers, in small letters. -/
def infinityWords : List (List Char) := ["inf".toList, "infinity".toList]

/-- The numeral that a text stands for. -/
def numeral? (cs : List Char) : Option Numeral :=
  let (negative, body) := sign (normalized cs)
  let word := body.map Char.toLower
  if infinityWords.contains word then some (.infinite negative)
  else if word = "nan".toList then some .undefined
  else
    match digitRun? Char.isDigit body with
    | some (whole, rest) => fraction? negative whole rest
    | none => fraction? negative [] body

end ClusterConnect.Number
