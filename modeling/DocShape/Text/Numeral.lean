import DocShape.Text.Blank

/-!
# Numerals

Reading whole numbers from text. `digitValue?` knows the ASCII digits only and serves the formats
that allow no others. `toInt?` is the generous reading of a number a person typed: blanks around
it, a sign before it, single underscores between its digits, and the decimal digits of any script.
It refuses a number with more digits than `digitLimit`, leading zeros included, so that reading
stays cheap.
-/

set_option autoImplicit false

namespace DocShape.Text

/-- Whether a character is an ASCII digit. -/
def isDigit (c : Char) : Bool := decide ('0'.toNat ≤ c.toNat) && decide (c.toNat ≤ '9'.toNat)

/-- The number written by a list of ASCII digits, most significant first. -/
def natOfDigits (digits : Text) : Nat :=
  digits.foldl (fun n c => 10 * n + (c.toNat - '0'.toNat)) 0

/-- The zeros of the scripts that have decimal digits; each is followed by its one to nine. -/
def scriptZeros : List Nat := [
  0x30, 0x660, 0x6F0, 0x7C0, 0x966, 0x9E6, 0xA66, 0xAE6, 0xB66, 0xBE6, 0xC66, 0xCE6, 0xD66, 0xDE6,
  0xE50, 0xED0, 0xF20, 0x1040, 0x1090, 0x17E0, 0x1810, 0x1946, 0x19D0, 0x1A80, 0x1A90, 0x1B50,
  0x1BB0, 0x1C40, 0x1C50, 0xA620, 0xA8D0, 0xA900, 0xA9D0, 0xA9F0, 0xAA50, 0xABF0, 0xFF10, 0x104A0,
  0x10D30, 0x11066, 0x110F0, 0x11136, 0x111D0, 0x112F0, 0x11450, 0x114D0, 0x11650, 0x116C0,
  0x11730, 0x118E0, 0x11950, 0x11C50, 0x11D50, 0x11DA0, 0x16A60, 0x16AC0, 0x16B50, 0x1D7CE,
  0x1D7D8, 0x1D7E2, 0x1D7EC, 0x1D7F6, 0x1E140, 0x1E2F0, 0x1E950, 0x1FBF0]

/-- The value of a decimal digit of any script. -/
def digitValue? (c : Char) : Option Nat :=
  (scriptZeros.find? fun start => start ≤ c.toNat && c.toNat < start + 10).map (c.toNat - ·)

/-- The digits of a text with at most one underscore between neighbours; `digitNext` says that a
digit has to come next. -/
def spacedDigits? : (digitNext : Bool) → Text → Option (List Nat)
  | digitNext, [] => if digitNext then none else some []
  | digitNext, c :: text =>
      match digitValue? c with
      | some d => (spacedDigits? false text).map (d :: ·)
      | none => if c = '_' && !digitNext then spacedDigits? true text else none

/-- How many digits a typed number may have. -/
def digitLimit : Nat := 4300

/-- The natural number a text of digits denotes. -/
def toNat? (text : Text) : Option Nat :=
  ((spacedDigits? true text).filter fun digits => digits.length ≤ digitLimit).map
    (·.foldl (fun n d => 10 * n + d) 0)

/-- Whether a character may stand around a number: a blank, but none of the separators U+001C to
U+001F. -/
def isNumeralGap (c : Char) : Bool := isBlank c && !(0x1C ≤ c.toNat && c.toNat ≤ 0x1F)

/-- The whole number a text denotes. -/
def toInt? (text : Text) : Option Int :=
  match ((text.dropWhile isNumeralGap).reverse.dropWhile isNumeralGap).reverse with
  | '-' :: digits => (toNat? digits).map fun n => -(n : Int)
  | '+' :: digits => (toNat? digits).map fun n => (n : Int)
  | digits => (toNat? digits).map fun n => (n : Int)

end DocShape.Text
