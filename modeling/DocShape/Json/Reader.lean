import DocShape.Json.Basic
import DocShape.Merge
import DocShape.Text.Numeral

/-!
# Reading JSON texts

The reader takes one value with blanks around it and nothing else. Beyond the standard it accepts
`NaN`, `Infinity` and `-Infinity`, and a repeated key keeps its first place with its last value. A
text that is not accepted is answered by the first fault and its position, in characters from the
beginning. What readers differ in is a parameter, the dialect: how deep values may nest, how many
digits a number may have, whether a string may hold half of a character, and whether all numbers
are doubles.

Every part reads from the front of a text and answers with what follows. A value is read by
`valueWith`, which is told how to read the containers; `value` stacks that on itself once for each
level of nesting allowed.

Scope: strings of whole characters. A text can escape half of a character without the other half.
No string holds that half; a dialect either refuses it or lets U+FFFD stand for it (`ofUnits`), and
then strings that differ in such halves alone are read as one and the same. What follows from a
document that was read is said of the document with U+FFFD in it.
-/

set_option autoImplicit false

namespace DocShape.Json

/-- What is wrong with a JSON text. -/
inductive Fault where
  | byteOrderMark
  | expectedValue
  | extraData
  | expectedName
  | expectedColon
  | expectedComma
  | unterminatedString
  | controlCharacter
  | unknownEscape
  | shortEscape
deriving DecidableEq

/-- The message for a fault. -/
def Fault.message : Fault → Text
  | .byteOrderMark => "Unexpected UTF-8 BOM (decode using utf-8-sig)".toList
  | .expectedValue => "Expecting value".toList
  | .extraData => "Extra data".toList
  | .expectedName => "Expecting property name enclosed in double quotes".toList
  | .expectedColon => "Expecting ':' delimiter".toList
  | .expectedComma => "Expecting ',' delimiter".toList
  | .unterminatedString => "Unterminated string starting at".toList
  | .controlCharacter => "Invalid control character at".toList
  | .unknownEscape => "Invalid \\escape".toList
  | .shortEscape => "Invalid \\uXXXX escape".toList

/-- The two kinds of container. -/
inductive Container where
  | array
  | object
deriving DecidableEq

/-- Why reading stopped. A fault is kept with the number of characters from it to the end of the
text, which is what is known where it is found. -/
inductive Halt where
  | fault (fault : Fault) (left : Nat)
  | tooDeep (container : Container)
  | tooManyDigits (count : Nat)
deriving DecidableEq

/-- The answer of a part of the reader: what was read and what follows. -/
abbrev Reading (α : Type) := Except Halt (α × Text)

/-- What a reader accepts and what it makes of numbers. -/
structure Dialect where
  /-- How many containers may stand inside each other. -/
  nesting : Nat
  /-- Whether an empty container counts as one of them. -/
  emptyCounts : Bool
  /-- How many digits a whole number may have. -/
  digits : Nat
  /-- Whether that limit also holds for the whole part of a number with a fraction or an exponent,
  and counts a minus sign as a digit. -/
  signedWholePart : Bool
  /-- Whether a string may be escaped with half of a character alone, which is then replaced. -/
  loneHalves : Bool
  /-- Whether whole numbers are read as doubles, those beyond the greatest one as infinite. -/
  doubles : Bool

/-- The blanks between the tokens of a JSON text. -/
def isGap (c : Char) : Bool := c = ' ' || c = '\t' || c = '\n' || c = '\r'

/-- The text after the blanks it begins with. -/
def skipGap (text : Text) : Text := text.dropWhile isGap

/-- The value of a hexadecimal digit. -/
def hexValue? (c : Char) : Option Nat :=
  if '0' ≤ c && c ≤ '9' then some (c.toNat - '0'.toNat)
  else if 'a' ≤ c && c ≤ 'f' then some (c.toNat - 'a'.toNat + 10)
  else if 'A' ≤ c && c ≤ 'F' then some (c.toNat - 'A'.toNat + 10)
  else none

/-- The number written by four hexadecimal digits. -/
def hexUnit? (a b c d : Char) : Option Nat := do
  return (((← hexValue? a) * 16 + (← hexValue? b)) * 16 + (← hexValue? c)) * 16 + (← hexValue? d)

/-- The character a letter behind a backslash stands for. -/
def escaped? : Char → Option Char
  | '"' => some '"'
  | '\\' => some '\\'
  | '/' => some '/'
  | 'b' => some '\x08'
  | 'f' => some '\x0c'
  | 'n' => some '\n'
  | 'r' => some '\r'
  | 't' => some '\t'
  | _ => none

/-- The units of a string up to its closing quote; `opened` is the number of characters from the
opening quote to the end of the text. A unit is a code point, or half of one where the text escapes
it in two halves. -/
def stringUnits (opened : Nat) : Text → Reading (List Nat)
  | [] => .error (.fault .unterminatedString opened)
  | '"' :: rest => .ok ([], rest)
  | '\\' :: 'u' :: a :: b :: c :: d :: rest =>
      if rest.isEmpty then .error (.fault .shortEscape 5)
      else
        match hexUnit? a b c d with
        | none => .error (.fault .shortEscape (rest.length + 5))
        | some unit => (stringUnits opened rest).map fun (units, rest) => (unit :: units, rest)
  | '\\' :: 'u' :: rest => .error (.fault .shortEscape (rest.length + 1))
  | ['\\'] => .error (.fault .unterminatedString opened)
  | '\\' :: c :: rest =>
      match escaped? c with
      | none => .error (.fault .unknownEscape (rest.length + 2))
      | some e => (stringUnits opened rest).map fun (units, rest) => (e.toNat :: units, rest)
  | c :: rest =>
      if c.toNat < 0x20 then .error (.fault .controlCharacter (rest.length + 1))
      else (stringUnits opened rest).map fun (units, rest) => (c.toNat :: units, rest)

/-- The characters of a list of units: two halves next to each other make one character. A half
alone is no character, and U+FFFD takes its place. -/
def ofUnits : List Nat → Text
  | [] => []
  | [unit] => [if 0xD800 ≤ unit && unit < 0xE000 then '\uFFFD' else Char.ofNat unit]
  | high :: low :: units =>
      if 0xD800 ≤ high && high < 0xDC00 && 0xDC00 ≤ low && low < 0xE000 then
        Char.ofNat (0x10000 + (high - 0xD800) * 0x400 + (low - 0xDC00)) :: ofUnits units
      else
        (if 0xD800 ≤ high && high < 0xE000 then '\uFFFD' else Char.ofNat high) ::
          ofUnits (low :: units)

/-- Whether every half in a list of units has its other half next to it. -/
def isPaired : List Nat → Bool
  | [] => true
  | [unit] => !(0xD800 ≤ unit && unit < 0xE000)
  | high :: low :: units =>
      if 0xD800 ≤ high && high < 0xDC00 then
        0xDC00 ≤ low && low < 0xE000 && isPaired units
      else !(0xDC00 ≤ high && high < 0xE000) && isPaired (low :: units)

/-- The rest of a string after its opening quote. -/
def stringBody (dialect : Dialect) (text : Text) : Reading Text :=
  match stringUnits (text.length + 1) text with
  | .error halt => .error halt
  | .ok (units, rest) =>
      if dialect.loneHalves || isPaired units then .ok (ofUnits units, rest)
      else .error (.fault .unknownEscape (text.length + 1))

/-- The digits at the front of a text. -/
def digitRun (text : Text) : Text × Text := text.span Text.isDigit

/-- The whole part of a number: a zero, or digits that do not begin with one. -/
def wholePart? : Text → Option (Text × Text)
  | [] => none
  | c :: rest =>
      if c = '0' then some (['0'], rest)
      else if Text.isDigit c then
        let (digits, rest) := digitRun rest
        some (c :: digits, rest)
      else none

/-- The digits after a point, if there are any. -/
def fractionPart (text : Text) : Option Text × Text :=
  match text with
  | '.' :: rest =>
      match digitRun rest with
      | ([], _) => (none, text)
      | (digits, rest) => (some digits, rest)
  | _ => (none, text)

/-- The sign at the front of a text: whether it is a minus sign, and what follows. -/
def signPart : Text → Bool × Text
  | '-' :: rest => (true, rest)
  | '+' :: rest => (false, rest)
  | text => (false, text)

/-- The exponent at the front of a text, if there is one. -/
def exponentPart (text : Text) : Option Int × Text :=
  match text with
  | c :: rest =>
      if c = 'e' || c = 'E' then
        let (negative, rest) := signPart rest
        match digitRun rest with
        | ([], _) => (none, text)
        | (digits, rest) =>
            let size : Int := Text.natOfDigits digits
            (some (if negative then -size else size), rest)
      else (none, text)
  | [] => (none, text)

/-- The value of a whole number. -/
def ofWhole (dialect : Dialect) (n : Int) : Json :=
  if dialect.doubles then .float (Binary64.ofInt n) else .int n

/-- A number from the parts it is written in. -/
def ofParts (dialect : Dialect) (negative : Bool) (whole : Text) (fraction : Option Text)
    (exponent : Option Int) : Except Halt Json :=
  let isWhole := fraction.isNone && exponent.isNone
  let count := whole.length + (if dialect.signedWholePart && negative then 1 else 0)
  if dialect.digits < count && (isWhole || dialect.signedWholePart) then
    .error (.tooManyDigits count)
  else if isWhole then
    let size : Int := Text.natOfDigits whole
    .ok (ofWhole dialect (if negative then -size else size))
  else
    let digits := whole ++ fraction.getD []
    .ok (.float (Binary64.ofDecimal negative (Text.natOfDigits digits) digits.length
      (exponent.getD 0 + whole.length)))

/-- A number at the front of a text. -/
def number (dialect : Dialect) (text : Text) : Reading Json :=
  let (negative, unsigned) :=
    match text with
    | '-' :: rest => (true, rest)
    | _ => (false, text)
  match wholePart? unsigned with
  | none => .error (.fault .expectedValue text.length)
  | some (whole, rest) =>
      let (fraction, rest) := fractionPart rest
      let (exponent, rest) := exponentPart rest
      (ofParts dialect negative whole fraction exponent).map fun value => (value, rest)

/-- The words that denote a value. -/
def words : List (Text × Json) :=
  [("null".toList, .null), ("true".toList, .bool true), ("false".toList, .bool false),
   ("NaN".toList, .float .notANumber), ("Infinity".toList, .float (.infinite false)),
   ("-Infinity".toList, .float (.infinite true))]

/-- A word at the front of a text. -/
def word? (text : Text) : Option (Json × Text) :=
  words.findSome? fun (word, value) => (Text.afterStart? word text).map fun rest => (value, rest)

/-- A value at the front of a text, given a reader for what follows the opening bracket of a
container. -/
def valueWith (dialect : Dialect) (container : Container → Text → Reading Json) (text : Text) :
    Reading Json :=
  match text with
  | '"' :: rest => (stringBody dialect rest).map fun (value, rest) => (.string value, rest)
  | '{' :: rest => container .object rest
  | '[' :: rest => container .array rest
  | _ =>
      match word? text with
      | some answer => .ok answer
      | none => number dialect text

/-- The items of an array from the first one on, to the closing bracket. One unit of fuel is spent
for each item, and the length of the text is enough. -/
def items (item : Text → Reading Json) : (fuel : Nat) → Text → Reading (List Json)
  | 0, text => .error (.fault .expectedValue text.length)
  | fuel + 1, text =>
      match item text with
      | .error halt => .error halt
      | .ok (value, rest) =>
          match skipGap rest with
          | ']' :: rest => .ok ([value], rest)
          | ',' :: rest =>
              (items item fuel (skipGap rest)).map fun (values, rest) => (value :: values, rest)
          | rest => .error (.fault .expectedComma rest.length)

/-- One member of an object after the quote its key begins with. -/
def member (dialect : Dialect) (item : Text → Reading Json) (text : Text) :
    Reading (Text × Json) :=
  match stringBody dialect text with
  | .error halt => .error halt
  | .ok (key, rest) =>
      match skipGap rest with
      | ':' :: rest => (item (skipGap rest)).map fun (value, rest) => ((key, value), rest)
      | rest => .error (.fault .expectedColon rest.length)

/-- The members of an object from the first one on, to the closing brace. One unit of fuel is spent
for each member, and the length of the text is enough. -/
def members (dialect : Dialect) (item : Text → Reading Json) :
    (fuel : Nat) → Text → Reading (List (Text × Json))
  | fuel + 1, '"' :: text =>
      match member dialect item text with
      | .error halt => .error halt
      | .ok (entry, rest) =>
          match skipGap rest with
          | '}' :: rest => .ok ([entry], rest)
          | ',' :: rest =>
              (members dialect item fuel (skipGap rest)).map fun (entries, rest) =>
                (entry :: entries, rest)
          | rest => .error (.fault .expectedComma rest.length)
  | _, text => .error (.fault .expectedName text.length)

/-- What follows the opening bracket of a container that holds nothing. -/
def emptyContainer? (container : Container) (text : Text) : Option (Json × Text) :=
  match container, skipGap text with
  | .array, ']' :: rest => some (.array [], rest)
  | .object, '}' :: rest => some (.object [], rest)
  | _, _ => none

/-- What follows the opening bracket of a container, given a reader for the values in it. -/
def containerWith (dialect : Dialect) (item : Text → Reading Json) (container : Container)
    (text : Text) : Reading Json :=
  match emptyContainer? container text with
  | some answer => .ok answer
  | none =>
      let rest := skipGap text
      match container with
      | .array =>
          (items item (rest.length + 1) rest).map fun (values, rest) => (.array values, rest)
      | .object =>
          (members dialect item (rest.length + 1) rest).map fun (entries, rest) =>
            (.object (lastOfEach entries), rest)

/-- What follows the opening bracket of a container where no further one may stand. -/
def innermost (dialect : Dialect) (container : Container) (text : Text) : Reading Json :=
  match emptyContainer? container text with
  | some answer => if dialect.emptyCounts then .error (.tooDeep container) else .ok answer
  | none => .error (.tooDeep container)

/-- A value at the front of a text with at most `nesting` containers inside each other. -/
def value (dialect : Dialect) : (nesting : Nat) → Text → Reading Json
  | 0 => valueWith dialect (innermost dialect)
  | nesting + 1 => valueWith dialect (containerWith dialect (value dialect nesting))

/-- Why a text is not a JSON text the reader accepts. -/
inductive ReadError where
  | invalid (fault : Fault) (position : Nat)
  | tooDeep (container : Container)
  | tooManyDigits (count : Nat)
deriving DecidableEq

/-- The answer to a text of the given length, from the answer of the reader. -/
def ReadError.ofHalt (length : Nat) : Halt → ReadError
  | .fault fault left => .invalid fault (length - left)
  | .tooDeep container => .tooDeep container
  | .tooManyDigits count => .tooManyDigits count

/-- One value with blanks around it. -/
def whole (dialect : Dialect) (text : Text) : Except Halt Json :=
  match text with
  | '\uFEFF' :: _ => .error (.fault .byteOrderMark text.length)
  | _ =>
      match value dialect dialect.nesting (skipGap text) with
      | .error halt => .error halt
      | .ok (value, rest) =>
          match skipGap rest with
          | [] => .ok value
          | rest => .error (.fault .extraData rest.length)

/-- The value a JSON text denotes. -/
def read (dialect : Dialect) (text : Text) : Except ReadError Json :=
  match whole dialect text with
  | .ok value => .ok value
  | .error halt => .error (.ofHalt text.length halt)

/-- The dialect of the documents that are checked. Its limits on nesting and digits stand for those
of a run, which are not the same everywhere; what is proved of reading holds in every dialect, and
what is proved of checking begins with the document that was read. -/
def documentDialect : Dialect :=
  { nesting := 990, emptyCounts := true, digits := 4300, signedWholePart := false
    loneHalves := true, doubles := false }

/-- The message for a whole number with too many digits. -/
def tooManyDigitsMessage (dialect : Dialect) (count : Nat) : Text :=
  "Exceeds the limit (".toList ++ Text.ofNat dialect.digits ++
    " digits) for integer string conversion: value has ".toList ++ Text.ofNat count ++
    " digits; use sys.set_int_max_str_digits() to increase the limit".toList

/-- The message for nesting beyond the limit. -/
def tooDeepMessage : Container → Text
  | .array =>
      "maximum recursion depth exceeded while decoding a JSON array from a unicode string".toList
  | .object =>
      "maximum recursion depth exceeded while decoding a JSON object from a unicode string".toList

end DocShape.Json
