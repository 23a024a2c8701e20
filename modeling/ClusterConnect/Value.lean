import ClusterConnect.Number.Notation
import ClusterConnect.Text.Quoted

/-!
# Dynamic values

Configuration files, caller supplied properties, statement arguments and query answers hold values
whose type is known only when the program runs.

* `Value`: such a value; `Moment` is a date, a time of day or both.
* `Value.asText`: the value as the text of a property.
* `Value.literal`: the value inside a list or a table.
-/

namespace ClusterConnect

open Text Number

/-- A day of the calendar. -/
structure Date where
  year : Nat
  month : Nat
  day : Nat
deriving Repr, DecidableEq

/-- A time of day. -/
structure TimeOfDay where
  hour : Nat
  minute : Nat
  second : Nat
  microsecond : Nat
deriving Repr, DecidableEq

/-- A point of the calendar or the clock. -/
inductive Moment where
  | date (d : Date)
  | time (t : TimeOfDay)
  /-- A day and a time of it; `offset` is the distance from universal time in minutes, if the moment
  states it. -/
  | dateTime (d : Date) (t : TimeOfDay) (offset : Option Int)
deriving Repr, DecidableEq

/-- A value of a type known only when the program runs. -/
inductive Value where
  | null
  | bool (b : Bool)
  | int (i : Int)
  | float (x : Float)
  | text (s : String)
  | moment (m : Moment)
  | list (items : List Value)
  | table (entries : List (String × Value))

instance : Inhabited Value := ⟨.null⟩

namespace Value

/-- The name of a value's type. -/
def typeName : Value → String
  | .null => "NoneType"
  | .bool _ => "bool"
  | .int _ => "int"
  | .float _ => "float"
  | .text _ => "str"
  | .moment (.date _) => "date"
  | .moment (.time _) => "time"
  | .moment (.dateTime ..) => "datetime"
  | .list _ => "list"
  | .table _ => "dict"

end Value

/-! ## Dates and times -/

/-- A number with zeros in front of it up to the given width. -/
def padded (width : Nat) (n : Nat) : List Char :=
  let ds := decimalDigits n
  List.replicate (width - ds.length) '0' ++ ds

/-- Year, month and day with hyphens between them. -/
def Date.text (d : Date) : List Char :=
  padded 4 d.year ++ '-' :: (padded 2 d.month ++ '-' :: padded 2 d.day)

/-- Hours, minutes and seconds, and the microseconds unless there are none. -/
def TimeOfDay.text (t : TimeOfDay) : List Char :=
  padded 2 t.hour ++ ':' :: (padded 2 t.minute ++ ':' :: padded 2 t.second) ++
    if t.microsecond = 0 then [] else '.' :: padded 6 t.microsecond

/-- A distance from universal time as a sign, hours and minutes. -/
def offsetText (minutes : Int) : List Char :=
  (if minutes < 0 then '-' else '+') ::
    (padded 2 (minutes.natAbs / 60) ++ ':' :: padded 2 (minutes.natAbs % 60))

/-- A moment as a text of its own. -/
def Moment.text : Moment → List Char
  | .date d => d.text
  | .time t => t.text
  | .dateTime d t offset =>
    d.text ++ ' ' :: t.text ++ (match offset with | some m => offsetText m | none => [])

/-- Texts with a comma and a space between them. -/
def commaSeparated : List String → String := String.intercalate ", "

/-- A number as the argument of a constructor. -/
def argument (n : Nat) : String := String.ofList (decimalDigits n)

/-- The arguments for a time of day: hour and minute, then seconds and microseconds as far as they
are needed. -/
def TimeOfDay.arguments (t : TimeOfDay) : List String :=
  [argument t.hour, argument t.minute] ++
    if t.microsecond ≠ 0 then [argument t.second, argument t.microsecond]
    else if t.second ≠ 0 then [argument t.second]
    else []

/-- The arguments for a date. -/
def Date.arguments (d : Date) : List String := [argument d.year, argument d.month, argument d.day]

/-- A distance from universal time as an expression. A negative one is written as whole days back
and seconds forward. -/
def offsetLiteral (minutes : Int) : String :=
  if minutes = 0 then "datetime.timezone.utc"
  else
    let seconds := integerText (60 * minutes % 86400)
    if minutes < 0 then
      "datetime.timezone(datetime.timedelta(days=-1, seconds=" ++ seconds ++ "))"
    else "datetime.timezone(datetime.timedelta(seconds=" ++ seconds ++ "))"

/-- A moment inside a list or a table. -/
def Moment.literal : Moment → String
  | .date d => "datetime.date(" ++ commaSeparated d.arguments ++ ")"
  | .time t => "datetime.time(" ++ commaSeparated t.arguments ++ ")"
  | .dateTime d t offset =>
    let zone :=
      match offset with
      | some m => ["tzinfo=" ++ offsetLiteral m]
      | none => []
    "datetime.datetime(" ++ commaSeparated (d.arguments ++ t.arguments ++ zone) ++ ")"

/-! ## Texts of values -/

namespace Value

mutual

/-- The form of a value inside a list or a table. -/
def literal : Value → String
  | .null => "None"
  | .bool true => "True"
  | .bool false => "False"
  | .int i => integerText i
  | .float x => floatText x
  | .text s => quoted s
  | .moment m => m.literal
  | .list items => "[" ++ commaSeparated (literals items) ++ "]"
  | .table entries => "\x7b" ++ commaSeparated (entryLiterals entries) ++ "\x7d"

/-- The forms of the items of a list. -/
def literals : List Value → List String
  | [] => []
  | v :: rest => literal v :: literals rest

/-- The forms of the entries of a table: key, colon and value. -/
def entryLiterals : List (String × Value) → List String
  | [] => []
  | (key, v) :: rest => (quoted key ++ ": " ++ literal v) :: entryLiterals rest

end

/-- A value as a text of its own. -/
def asText : Value → String
  | .text s => s
  | .moment m => String.ofList m.text
  | v => v.literal

/-- The longest integer that can be written, in digits. -/
def maxWrittenDigits : Nat := 4300

/-- How deeply lists and tables may nest in a value that is written. -/
def maxWrittenDepth : Nat := 985

mutual

/-- How deeply lists and tables nest in a value. -/
def depth : Value → Nat
  | .list items => itemsDepth items + 1
  | .table entries => entriesDepth entries + 1
  | _ => 0

/-- The greatest depth among the values of a list. -/
def itemsDepth : List Value → Nat
  | [] => 0
  | v :: rest => max (depth v) (itemsDepth rest)

/-- The greatest depth among the values of a table. -/
def entriesDepth : List (String × Value) → Nat
  | [] => 0
  | (_, v) :: rest => max (depth v) (entriesDepth rest)

end

mutual

/-- Whether every integer in a value is short enough to be written. -/
def isWritable : Value → Bool
  | .int i => (decimalDigits i.natAbs).length ≤ maxWrittenDigits
  | .list items => areWritable items
  | .table entries => entriesAreWritable entries
  | _ => true

/-- Whether every value of a list can be written. -/
def areWritable : List Value → Bool
  | [] => true
  | v :: rest => isWritable v && areWritable rest

/-- Whether every value of a table can be written. -/
def entriesAreWritable : List (String × Value) → Bool
  | [] => true
  | (_, v) :: rest => isWritable v && entriesAreWritable rest

end

end Value

end ClusterConnect
