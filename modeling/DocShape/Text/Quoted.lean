import DocShape.Text.Printable

/-!
# Quoted texts

A text is quoted between apostrophes, or between quotation marks when it holds an apostrophe and no
quotation mark. Inside, the quote in use and the backslash stand behind a backslash, line feed,
carriage return and tabulator have their letters, and every other character that is not printable
is written by its code point in hexadecimal, with two, four or eight digits as it needs.
-/

set_option autoImplicit false

namespace DocShape.Text

/-- The lowest `width` hexadecimal digits of a number, in lower case. -/
def hexDigits : (width n : Nat) → Text
  | 0, _ => []
  | width + 1, n => hexDigits width (n / 16) ++ [Nat.digitChar (n % 16)]

/-- The code point of a character behind a backslash. -/
def codePoint (c : Char) : Text :=
  if c.toNat < 0x100 then '\\' :: 'x' :: hexDigits 2 c.toNat
  else if c.toNat < 0x10000 then '\\' :: 'u' :: hexDigits 4 c.toNat
  else '\\' :: 'U' :: hexDigits 8 c.toNat

/-- The quote a text is written between. -/
def quoteFor (text : Text) : Char :=
  if text.contains '\'' && !text.contains '"' then '"' else '\''

/-- One character inside a quoted text. -/
def quotedChar (quote c : Char) : Text :=
  if c == quote || c == '\\' then ['\\', c]
  else if c == '\n' then ['\\', 'n']
  else if c == '\r' then ['\\', 'r']
  else if c == '\t' then ['\\', 't']
  else if isPrintable c then [c]
  else codePoint c

/-- The text in quotes. -/
def quoted (text : Text) : Text :=
  let quote := quoteFor text
  quote :: text.flatMap (quotedChar quote) ++ [quote]

end DocShape.Text
