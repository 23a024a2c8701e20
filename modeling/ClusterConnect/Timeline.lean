import ClusterConnect.Number.Notation

/-!
# Points and spans of time

Deadlines, delays and time limits are numbers of one type. What the library does with such numbers
is fixed by the class `Timeline`: reading a numeral, adding and subtracting, comparing, and changing
between seconds and milliseconds. Everything that waits is written over any `Timeline`; programs run
with doubles.
-/

namespace ClusterConnect

/-- The operations on times, in seconds unless stated otherwise. -/
class Timeline (τ : Type) where
  /-- The start of the clock. -/
  zero : τ
  /-- One second. -/
  second : τ
  add : τ → τ → τ
  sub : τ → τ → τ
  /-- Whether `a` is no later than `b`; false if either is undefined. -/
  atMost : τ → τ → Bool
  /-- Whether `a` is earlier than `b`; false if either is undefined. -/
  before : τ → τ → Bool
  /-- Not a number. -/
  isUndefined : τ → Bool
  /-- The seconds in a number of milliseconds. -/
  ofMilliseconds : τ → τ
  /-- The milliseconds in a number of seconds. -/
  toMilliseconds : τ → τ
  /-- The time nearest to what a numeral says. -/
  ofNumeral : Number.Numeral → τ
  /-- Waits shorter than this can be given a time limit. -/
  longestWait : τ

namespace Timeline

variable {τ : Type} [Timeline τ]

/-- The time that a text says, `none` if the text is no numeral. -/
def read? (s : String) : Option τ := (Number.numeral? s.toList).map ofNumeral

/-- A time after zero; an undefined time is not. -/
def isPositive (t : τ) : Bool := before zero t

end Timeline

/-- Times as doubles. A wait can be limited to less than 2^63 nanoseconds. -/
instance : Timeline Float where
  zero := 0
  second := 1
  add := (· + ·)
  sub := (· - ·)
  atMost a b := a ≤ b
  before a b := a < b
  isUndefined := Float.isNaN
  ofMilliseconds t := t / 1000
  toMilliseconds t := t * 1000
  ofNumeral := Number.Numeral.toFloat
  longestWait := 9223372036

/-- The whole milliseconds in a number of seconds, the rest cut off. An undefined number counts as
none, an infinite one as more than a wait can be limited to. -/
def Number.Numeral.toWholeMilliseconds : Number.Numeral → Int
  | .undefined => 0
  | .infinite negative => if negative then -9223372036000 else 9223372036000
  | .decimal negative digits exponent =>
    let size : Int :=
      if 0 ≤ exponent + 3 then digits * Number.power 10 (exponent + 3).toNat
      else digits / Number.power 10 (-(exponent + 3)).toNat
    if negative then -size else size

/-- Times as whole milliseconds. With them a run can be followed step by step in a proof. -/
instance : Timeline Int where
  zero := 0
  second := 1000
  add := (· + ·)
  sub := (· - ·)
  atMost a b := a ≤ b
  before a b := a < b
  isUndefined _ := false
  ofMilliseconds := id
  toMilliseconds := id
  ofNumeral := Number.Numeral.toWholeMilliseconds
  longestWait := 9223372036000

end ClusterConnect
