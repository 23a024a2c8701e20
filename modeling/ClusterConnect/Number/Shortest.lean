/-!
# The shortest decimal of a binary number

A finite double stands for an interval of reals: those nearer to it than to any other double, with
the ends of the interval included when its significand is even. This module finds the decimal with
the fewest digits in that interval and, among those, the one nearest to the double.

* `Binary`: a double as `m` times a power of two.
* `Binary.contains`: whether a decimal lies in the interval.
* `Binary.shortest`: the decimal chosen.

All comparisons are exact, in natural numbers.
-/

namespace ClusterConnect.Number

/-- A power of a natural number. -/
def power (base exponent : Nat) : Nat := Nat.pow base exponent

/-- The value `m * 2 ^ q` of a finite double without its sign. -/
structure Binary where
  /-- The significand. -/
  m : Nat
  /-- The power of two. -/
  q : Int
  /-- The gap to the double below is half the gap to the double above. -/
  narrow : Bool
deriving Repr, DecidableEq

/-- The value that the low 63 bits of a finite double encode. -/
def Binary.ofBits (bits : UInt64) : Binary :=
  let biased : Nat := bits.toNat / power 2 52 % power 2 11
  let fraction : Nat := bits.toNat % power 2 52
  if biased = 0 then ⟨fraction, -1074, false⟩
  else ⟨power 2 52 + fraction, (biased : Int) - 1075, fraction = 0 ∧ 1 < biased⟩

/-- The value `digits * 10 ^ exponent`. -/
structure Decimal where
  digits : Nat
  exponent : Int
deriving Repr, DecidableEq

/-- The numbers `a * 10 ^ i` and `n * 2 ^ j` brought to a common denominator: the two numerators. -/
def common (a : Nat) (i : Int) (n : Nat) (j : Int) : Nat × Nat :=
  (a * power 10 i.toNat * power 2 (-j).toNat, n * power 2 j.toNat * power 10 (-i).toNat)

/-- Whether a decimal lies in the interval of reals that `x` stands for. The ends are computed in
quarters of the unit of `x`. -/
def Binary.contains (x : Binary) (d : Decimal) : Bool :=
  let low := common d.digits d.exponent (4 * x.m - (if x.narrow then 1 else 2)) (x.q - 2)
  let high := common d.digits d.exponent (4 * x.m + 2) (x.q - 2)
  if x.m % 2 = 0 then low.2 ≤ low.1 && high.1 ≤ high.2 else low.2 < low.1 && high.1 < high.2

/-- The multiple of `10 ^ g` just below `x`, counted in units of `10 ^ g`. -/
def Binary.floorOn (x : Binary) (g : Int) : Nat :=
  let c := common 1 g x.m x.q
  c.2 / c.1

/-- Of two consecutive multiples of `10 ^ g` the one nearer to `x`, the even one on a tie. -/
def Binary.nearer (x : Binary) (g : Int) (n : Nat) : Nat :=
  let c := common (2 * n + 1) g (2 * x.m) x.q
  if c.2 < c.1 then n else if c.1 < c.2 then n + 1 else if n % 2 = 0 then n else n + 1

/-- The decimal on the grid of multiples of `10 ^ g` that lies in the interval of `x`, if any. -/
def Binary.onGrid? (x : Binary) (g : Int) : Option Decimal :=
  let n := x.floorOn g
  match x.contains ⟨n, g⟩, x.contains ⟨n + 1, g⟩ with
  | true, true => some ⟨x.nearer g n, g⟩
  | true, false => some ⟨n, g⟩
  | false, true => some ⟨n + 1, g⟩
  | false, false => none

/-- A power of ten above `x` and at most a thousand times as large, as its exponent. -/
def Binary.magnitude (x : Binary) : Int := ((x.m.log2 : Int) + x.q + 1) * 30103 / 100000 + 2

/-- The exact decimal value of `x`. -/
def Binary.exact (x : Binary) : Decimal :=
  if 0 ≤ x.q then ⟨x.m * power 2 x.q.toNat, 0⟩ else ⟨x.m * power 5 (-x.q).toNat, x.q⟩

/-- The first grid, from coarse to fine, that has a point in the interval of `x` supplies the
decimal. Nineteen digits below the leading one are never all needed; the exact value stands in for
a search without result. -/
def Binary.shortest (x : Binary) : Decimal :=
  ((List.range 22).findSome? fun n : Nat => x.onGrid? (x.magnitude - n)).getD x.exact

end ClusterConnect.Number
