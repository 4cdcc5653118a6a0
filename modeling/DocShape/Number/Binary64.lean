/-!
# Binary64 numbers

A double is a signed whole number times a power of two, an infinity, or no number at all. Finite
doubles are kept normalised: the factor has 53 bits unless the exponent is the least one. Every
conversion into doubles is exact arithmetic on natural numbers followed by one rounding, to the
nearest double, a half going to the even neighbour.

Scope: there is no arithmetic on doubles here; the project only reads and writes them.
-/

set_option autoImplicit false

namespace DocShape

/-- A double: `±mantissa · 2 ^ exponent`, an infinity, or not a number. -/
inductive Binary64 where
  | finite (negative : Bool) (mantissa : Nat) (exponent : Int)
  | infinite (negative : Bool)
  | notANumber
deriving DecidableEq

namespace Binary64

/-- The least exponent of a double. -/
def leastExponent : Int := -1074

/-- The greatest exponent of a double. -/
def greatestExponent : Int := 971

/-- The number of bits of a mantissa. -/
def mantissaBits : Nat := 53

/-- A zero with a sign. -/
def zero (negative : Bool) : Binary64 := .finite negative 0 leastExponent

/-- Whether a double is neither an infinity nor no number. -/
def isFinite : Binary64 → Bool
  | .finite .. => true
  | _ => false

/-- The quotient rounded to the nearest natural number, a half going to the even one. -/
def roundedQuotient (num den : Nat) : Nat :=
  let quotient := num / den
  let twice := 2 * (num % den)
  if twice < den then quotient
  else if den < twice then quotient + 1
  else quotient + quotient % 2

/-- The fraction `num / (den · 2 ^ exponent)`, with the power on the side where it is whole. -/
def scaled (num den : Nat) : (exponent : Int) → Nat × Nat
  | .ofNat k => (num, den * Nat.pow 2 k)
  | .negSucc k => (num * Nat.pow 2 (k + 1), den)

/-- The exponent of the greatest power of two that is at most `num / den`. -/
def floorLog2 (num den : Nat) : Int :=
  let guess : Int := (num.log2 : Int) - (den.log2 : Int)
  let (n, d) := scaled num den guess
  if d ≤ n then guess else guess - 1

/-- The double nearest to `±num / den`. -/
def ofRatio (negative : Bool) (num den : Nat) : Binary64 :=
  if num = 0 then zero negative
  else
    let exponent := max (floorLog2 num den - (mantissaBits - 1)) leastExponent
    let (n, d) := scaled num den exponent
    let mantissa := roundedQuotient n d
    let (mantissa, exponent) :=
      if mantissa = Nat.pow 2 mantissaBits then (Nat.pow 2 (mantissaBits - 1), exponent + 1)
      else (mantissa, exponent)
    if greatestExponent < exponent then .infinite negative
    else .finite negative mantissa exponent

/-- The double nearest to a whole number. -/
def ofInt (i : Int) : Binary64 := ofRatio (decide (i < 0)) i.natAbs 1

/-- The double nearest to `±0.d₁d₂…dₙ · 10 ^ point`, where `digits` is the number with the `count`
digits `d₁…dₙ`. Far beyond the greatest double the answer is an infinity, far below the least one
it is zero, and no power of ten is formed then. -/
def ofDecimal (negative : Bool) (digits count : Nat) (point : Int) : Binary64 :=
  if digits = 0 || point < -400 then zero negative
  else if 400 + (count : Int) < point then .infinite negative
  else
    match point - (count : Int) with
    | .ofNat k => ofRatio negative (digits * Nat.pow 10 k) 1
    | .negSucc k => ofRatio negative digits (Nat.pow 10 (k + 1))

end Binary64

end DocShape
