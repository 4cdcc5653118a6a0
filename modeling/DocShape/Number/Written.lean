import DocShape.Number.Shortest

/-!
# Doubles in text

One format writes all doubles of the project; its decisions are fields of `Format`. Doubles are
written with their shortest digits, positionally while the exponent is moderate and with an
exponent otherwise; a positional double always shows a digit after the point, so no double is
mistaken for a whole number.
-/

set_option autoImplicit false

namespace DocShape.Binary64

/-- The decisions of a text format for doubles. -/
structure Format where
  /-- The least exponent that is written positionally. -/
  leastPositional : Int
  /-- The first exponent above that is not written positionally. -/
  greatestPositional : Int
  /-- The least number of digits of a written exponent. -/
  exponentWidth : Nat
  /-- The text of an infinity without its sign. -/
  infinity : Text
  /-- The text of no number. -/
  notANumber : Text

/-- The shortest digits of a double with the decimal exponent of the first digit. -/
def scientific (mantissa : Nat) (exponent : Int) : Text × Int :=
  let (n, unit) := shortest mantissa exponent
  let digits := Text.ofNat n
  (digits, unit + (digits.length : Int) - 1)

/-- Digits with the point where the exponent puts it. -/
def positional (digits : Text) (exponent : Int) : Text :=
  match exponent with
  | .ofNat e =>
      let whole := digits.take (e + 1)
      let fraction := digits.drop (e + 1)
      whole ++ List.replicate (e + 1 - whole.length) '0' ++
        '.' :: (if fraction.isEmpty then ['0'] else fraction)
  | .negSucc e => '0' :: '.' :: List.replicate e '0' ++ digits

/-- Digits with the point after the first one and the exponent behind them. -/
def withExponent (width : Nat) (digits : Text) (exponent : Int) : Text :=
  let size := Text.ofNat exponent.natAbs
  let fraction := digits.drop 1
  digits.take 1 ++ (if fraction.isEmpty then [] else '.' :: fraction) ++
    'e' :: (if exponent < 0 then '-' else '+') ::
    List.replicate (width - size.length) '0' ++ size

/-- A sign before a text. -/
def signed (negative : Bool) (text : Text) : Text := if negative then '-' :: text else text

/-- The text of a double. -/
def write (format : Format) : Binary64 → Text
  | .notANumber => format.notANumber
  | .infinite negative => signed negative format.infinity
  | .finite negative 0 _ => signed negative ['0', '.', '0']
  | .finite negative mantissa exponent =>
      let (digits, e) := scientific mantissa exponent
      signed negative <|
        if format.leastPositional ≤ e && e < format.greatestPositional then positional digits e
        else withExponent format.exponentWidth digits e

/-- Doubles as messages show them. -/
def shownFormat : Format :=
  { leastPositional := -4, greatestPositional := 16, exponentWidth := 2
    infinity := "inf".toList, notANumber := "nan".toList }

/-- Doubles in JSON texts, with the three names JSON itself does not have. -/
def jsonFormat : Format :=
  { shownFormat with infinity := "Infinity".toList, notANumber := "NaN".toList }

end DocShape.Binary64
