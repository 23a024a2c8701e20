import ClusterConnect.Proofs.Timeline.Comparison
import Mathlib.Algebra.Order.Field.Rat

/-!
# Exact times

Doubles round. To say what becomes of deadlines and pauses apart from that, times are taken here as
rational numbers of seconds, together with the three values of doubles that are no such number.

* `ExactTime`: the times, with the operations of doubles on the special ones.
* `total_exactTime`: how they are compared.
-/

namespace ClusterConnect

/-- A number of seconds without rounding, or one of the special values of a double. -/
inductive ExactTime where
  | undefined
  | infinite (negative : Bool)
  | finite (seconds : ℚ)
deriving DecidableEq

namespace ExactTime

/-- The sum. Infinite times of different signs have none. -/
def add : ExactTime → ExactTime → ExactTime
  | .finite p, .finite q => .finite (p + q)
  | .finite _, .infinite n => .infinite n
  | .infinite n, .finite _ => .infinite n
  | .infinite n, .infinite n' => if n = n' then .infinite n else .undefined
  | _, _ => .undefined

def neg : ExactTime → ExactTime
  | .undefined => .undefined
  | .infinite n => .infinite !n
  | .finite q => .finite (-q)

def atMost : ExactTime → ExactTime → Bool
  | .finite p, .finite q => decide (p ≤ q)
  | .finite _, .infinite n => !n
  | .infinite n, .finite _ => n
  | .infinite n, .infinite n' => n || !n'
  | _, _ => false

def before : ExactTime → ExactTime → Bool
  | .finite p, .finite q => decide (p < q)
  | .finite _, .infinite n => !n
  | .infinite n, .finite _ => n
  | .infinite n, .infinite n' => n && !n'
  | _, _ => false

/-- Changes the unit. -/
def scale (factor : ℚ) : ExactTime → ExactTime
  | .finite q => .finite (q * factor)
  | t => t

/-- The least number that is infinite as a double: half a step beyond the largest double. -/
def infiniteFrom : ℚ := 2 ^ 1024 - 2 ^ 970

/-- What a numeral says, where it is infinite for being too large. -/
def ofNumeral : Number.Numeral → ExactTime
  | .undefined => .undefined
  | .infinite negative => .infinite negative
  | .decimal negative digits exponent =>
    let size : ℚ := digits * 10 ^ exponent
    if infiniteFrom ≤ size then .infinite negative
    else .finite (if negative then -size else size)

instance : Timeline ExactTime where
  zero := .finite 0
  second := .finite 1
  add := add
  sub a b := add a (neg b)
  atMost := atMost
  before := before
  isUndefined t := t matches .undefined
  ofMilliseconds := scale (1 / 1000)
  toMilliseconds := scale 1000
  ofNumeral := ofNumeral
  longestWait := .finite 9223372036

theorem total_exactTime : Timeline.Total ExactTime := by
  intro a b ha hb h
  cases a with
  | undefined => exact absurd ha (by decide)
  | infinite n =>
    cases b with
    | undefined => exact absurd hb (by decide)
    | infinite n' => cases n <;> cases n' <;> first | rfl | exact absurd h nofun
    | finite q => cases n <;> first | rfl | exact absurd h nofun
  | finite p =>
    cases b with
    | undefined => exact absurd hb (by decide)
    | infinite n => cases n <;> first | rfl | exact absurd h nofun
    | finite q => exact decide_eq_true (not_le.mp (of_decide_eq_false h))

end ExactTime

end ClusterConnect
