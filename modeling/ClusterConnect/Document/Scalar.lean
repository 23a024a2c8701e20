import ClusterConnect.Document.Quoted
import ClusterConnect.Number.Notation
import ClusterConnect.Value

/-!
# Numbers, dates and times in a document

* `moment?`: a date, a time of day, or both with a distance from universal time.
* `number?`: an integer in one of four bases, or a number with a fraction or a power of ten.

Both read from the front of their argument and give the rest.
-/

namespace ClusterConnect.Document

open Text Number

/-- Why a document cannot be read. -/
inductive Fault where
  /-- The text breaks the grammar, or defines a key twice. -/
  | malformed
  /-- A decimal integer has more digits than can be read. -/
  | numberTooLong
  /-- Lists and tables nest too deeply. -/
  | tooDeep
deriving Repr, DecidableEq

/-! ## Dates and times -/

/-- A number of exactly `width` digits between two bounds. -/
def fixed? (width least greatest : Nat) (cs : List Char) : Option (Nat × List Char) :=
  let ds := cs.take width
  if ds.length = width ∧ ds.all Char.isDigit ∧ least ≤ digitsValue ds ∧ digitsValue ds ≤ greatest
  then some (digitsValue ds, cs.drop width) else none

/-- The text behind one given character. -/
def expect? (c : Char) : List Char → Option (List Char)
  | d :: rest => if d = c then some rest else none
  | [] => none

/-- The microseconds behind a point; digits from the seventh on are ignored. -/
def microseconds (cs : List Char) : Nat × List Char :=
  match cs with
  | '.' :: rest =>
    let ds := rest.takeWhile Char.isDigit
    if ds.isEmpty then (0, cs)
    else (digitsValue ((ds ++ List.replicate 6 '0').take 6), rest.dropWhile Char.isDigit)
  | _ => (0, cs)

/-- A time of day. -/
def time? (cs : List Char) : Option (TimeOfDay × List Char) := do
  let (hour, cs) ← fixed? 2 0 23 cs
  let (minute, cs) ← fixed? 2 0 59 (← expect? ':' cs)
  let (second, cs) ← fixed? 2 0 59 (← expect? ':' cs)
  let (micro, cs) := microseconds cs
  some (⟨hour, minute, second, micro⟩, cs)

/-- A date whose day may exceed its month. -/
def date? (cs : List Char) : Option (Date × List Char) := do
  let (year, cs) ← fixed? 4 0 9999 cs
  let (month, cs) ← fixed? 2 1 12 (← expect? '-' cs)
  let (day, cs) ← fixed? 2 1 31 (← expect? '-' cs)
  some (⟨year, month, day⟩, cs)

/-- A distance from universal time in minutes. -/
def offset? : List Char → Option (Int × List Char)
  | [] => none
  | c :: cs =>
    if c = 'Z' ∨ c = 'z' then some (0, cs)
    else if c = '+' ∨ c = '-' then do
      let (hours, cs) ← fixed? 2 0 23 cs
      let (minutes, cs) ← fixed? 2 0 59 (← expect? ':' cs)
      let distance : Int := 60 * hours + minutes
      some (if c = '-' then -distance else distance, cs)
    else none

/-- Whether a year has a leap day. -/
def isLeap (year : Nat) : Bool := year % 4 = 0 && (year % 100 != 0 || year % 400 = 0)

/-- The number of days of a month. -/
def daysIn (year month : Nat) : Nat :=
  if month = 2 then (if isLeap year then 29 else 28)
  else if month = 4 ∨ month = 6 ∨ month = 9 ∨ month = 11 then 30
  else 31

/-- Whether a date is in the calendar, which has no year zero. -/
def isValidDate (d : Date) : Bool := 1 ≤ d.year && d.day ≤ daysIn d.year d.month

/-- The time of day that a separator introduces behind a date. -/
def timeBehindDate? : List Char → Option (TimeOfDay × List Char)
  | c :: cs => if c = 'T' ∨ c = 't' ∨ c = ' ' then time? cs else none
  | [] => none

/-- A date, alone or with a time of day. -/
def dateTime? (cs : List Char) : Option (Except Fault (Moment × List Char)) :=
  (date? cs).map fun (d, cs) =>
    if isValidDate d then
      match timeBehindDate? cs with
      | none => .ok (.date d, cs)
      | some (t, cs) =>
        match offset? cs with
        | none => .ok (.dateTime d t none, cs)
        | some (minutes, cs) => .ok (.dateTime d t (some minutes), cs)
    else .error .malformed

/-- A moment of any kind, `none` if none starts here. -/
def moment? (cs : List Char) : Option (Except Fault (Moment × List Char)) :=
  match dateTime? cs with
  | some r => some r
  | none => (time? cs).map fun (t, cs) => .ok (.time t, cs)

/-! ## Numbers -/

/-- The digits of a base that a prefix letter stands for, and the base. -/
def radix? (c : Char) : Option ((Char → Bool) × Nat) :=
  if c = 'x' then some (fun d => (Percent.hexValue? d).isSome, 16)
  else if c = 'o' then some (fun d => '0' ≤ d && d ≤ '7', 8)
  else if c = 'b' then some (fun d => d = '0' || d = '1', 2)
  else none

/-- The value of digits of any base up to sixteen. -/
def radixValue (base : Nat) (ds : List Char) : Nat :=
  ds.foldl (fun n d => base * n + (Percent.hexValue? d).getD 0) 0

/-- An integer whose base is written in front of it. -/
def radixInteger? : List Char → Option (Int × List Char)
  | '0' :: letter :: rest =>
    match radix? letter with
    | none => none
    | some (digit, base) =>
      (digitRun? digit rest).map fun (ds, rest) => ((radixValue base ds : Nat), rest)
  | _ => none

/-- The digits in front of a decimal point: a zero alone, or a run that starts with another
digit. -/
def wholePart? : List Char → Option (List Char × List Char)
  | '0' :: rest => some (['0'], rest)
  | cs => digitRun? Char.isDigit cs

/-- The digits behind a decimal point. -/
def fractionPart? : List Char → Option (List Char × List Char)
  | '.' :: rest => digitRun? Char.isDigit rest
  | _ => none

/-- A power of ten. -/
def powerPart? : List Char → Option (Int × List Char)
  | c :: rest =>
    if c = 'e' ∨ c = 'E' then
      let (negative, body) := sign rest
      (digitRun? Char.isDigit body).map fun (ds, rest) =>
        (if negative then -(digitsValue ds : Int) else digitsValue ds, rest)
    else none
  | [] => none

/-- A decimal number: an integer unless it has a fraction or a power of ten. -/
def decimal? (cs : List Char) : Option (Except Fault (Value × List Char)) :=
  let (negative, body) := sign cs
  (wholePart? body).map fun (whole, rest) =>
    let fraction := fractionPart? rest
    let rest := (fraction.map Prod.snd).getD rest
    let power := powerPart? rest
    let rest := (power.map Prod.snd).getD rest
    if fraction.isNone && power.isNone then
      if maxIntegerDigits < whole.length then .error .numberTooLong
      else .ok (.int (if negative then -(digitsValue whole : Int) else digitsValue whole), rest)
    else
      let part := (fraction.map Prod.fst).getD []
      let exponent := (power.map Prod.fst).getD 0
      .ok (.float (Numeral.decimal negative (digitsValue (whole ++ part))
        (exponent - part.length)).toFloat, rest)

/-- The words for special numbers. -/
def specialNumbers : List (List Char × Numeral) :=
  [("inf".toList, .infinite false), ("nan".toList, .undefined), ("+inf".toList, .infinite false),
   ("-inf".toList, .infinite true), ("+nan".toList, .undefined), ("-nan".toList, .undefined)]

/-- A special number. -/
def special? (cs : List Char) : Option (Value × List Char) :=
  specialNumbers.findSome? fun (word, n) =>
    (afterPrefix? word cs).map fun rest => (.float n.toFloat, rest)

/-- A number of any kind, `none` if none starts here. -/
def number? (cs : List Char) : Option (Except Fault (Value × List Char)) :=
  match radixInteger? cs with
  | some (i, rest) => some (.ok (.int i, rest))
  | none =>
    match decimal? cs with
    | some r => some r
    | none => (special? cs).map .ok

end ClusterConnect.Document
