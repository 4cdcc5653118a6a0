import DocShape.Text.Basic
import DocShape.Number.Binary64

/-!
# The shortest decimal of a double

Of all decimals that read back as a given double, the one with the fewest digits is chosen, the
nearest of those when there are several, and the one with an even last digit when two are equally
near. The search goes through the decimal grids from coarse to fine: on each grid only the two
neighbours of the double can qualify, and seventeen digits always do. All comparisons are exact, on
natural numbers.
-/

set_option autoImplicit false

namespace DocShape.Binary64

/-- The reals that read back as one double, as natural numbers over a common denominator: the
double itself, the two ends, and whether the ends belong to it. -/
structure Interval where
  low : Nat
  mid : Nat
  high : Nat
  den : Nat
  closed : Bool

/-- The interval of the double `mantissa · 2 ^ exponent`: half way to its neighbours, the lower of
which is nearer below a power of two. -/
def interval (mantissa : Nat) (exponent : Int) : Interval :=
  let below := if mantissa = Nat.pow 2 (mantissaBits - 1) && leastExponent < exponent then 1 else 2
  let (scale, den) :=
    match exponent - 2 with
    | .ofNat k => (Nat.pow 2 k, 1)
    | .negSucc k => (1, Nat.pow 2 (k + 1))
  { low := (4 * mantissa - below) * scale
    mid := 4 * mantissa * scale
    high := (4 * mantissa + 2) * scale
    den := den
    closed := mantissa % 2 = 0 }

/-- How many zeros follow the point in `num / den`, which is less than one. -/
def leadingZeros : (fuel num den : Nat) → Nat
  | 0, _, _ => 0
  | fuel + 1, num, den => if den ≤ 10 * num then 0 else leadingZeros fuel (10 * num) den + 1

/-- The place of the point: `num / den` lies between `10 ^ (point - 1)` and `10 ^ point`. -/
def pointOf (num den : Nat) : Int :=
  if den ≤ num then ((Nat.toDigits 10 (num / den)).length : Int)
  else -(leadingZeros 400 num den : Int)

/-- The member of the interval on the grid of multiples of `10 ^ unit` that lies nearest to the
double, as the number of grid steps. -/
def onGrid? (i : Interval) (unit : Int) : Option Nat :=
  let (step, scale) :=
    match unit with
    | .ofNat k => (Nat.pow 10 k * i.den, 1)
    | .negSucc k => (i.den, Nat.pow 10 (k + 1))
  let inside (n : Nat) : Bool :=
    if i.closed then i.low * scale ≤ n * step && n * step ≤ i.high * scale
    else i.low * scale < n * step && n * step < i.high * scale
  let lower := i.mid * scale / step
  let twice := 2 * (i.mid * scale)
  let sum := lower * step + (lower + 1) * step
  match inside lower, inside (lower + 1) with
  | true, true =>
      if twice < sum then some lower
      else if sum < twice then some (lower + 1)
      else some (lower + lower % 2)
  | true, false => some lower
  | false, true => some (lower + 1)
  | false, false => none

/-- Grid after grid from `digits` digits on, at most `fuel` of them. -/
def searchGrids (i : Interval) (point : Int) : (fuel digits : Nat) → Nat × Int
  | 0, digits => (i.mid / i.den, point - digits)
  | fuel + 1, digits =>
      match onGrid? i (point - digits) with
      | some n => (n, point - digits)
      | none => searchGrids i point fuel (digits + 1)

/-- A number without its trailing zeros, and how many there were. -/
def stripZeros : (fuel n : Nat) → Nat × Nat
  | 0, n => (n, 0)
  | fuel + 1, n =>
      if n % 10 = 0 && n ≠ 0 then
        let (m, k) := stripZeros fuel (n / 10)
        (m, k + 1)
      else (n, 0)

/-- The shortest decimal `digits · 10 ^ exponent` of the double `mantissa · 2 ^ exponent`. -/
def shortest (mantissa : Nat) (exponent : Int) : Nat × Int :=
  let i := interval mantissa exponent
  let (n, unit) := searchGrids i (pointOf i.mid i.den) 17 1
  let (n, zeros) := stripZeros 20 n
  (n, unit + zeros)

end DocShape.Binary64
