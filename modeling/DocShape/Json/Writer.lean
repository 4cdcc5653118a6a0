import DocShape.Json.Basic
import DocShape.Number.Written
import DocShape.Text.Quoted

/-!
# Writing JSON texts

A layout decides two things: whether characters outside ASCII are escaped, and whether containers
are spread over lines. Between items stands a comma, followed by a space on one line; between a key
and its value a colon and a space. Empty containers are never spread.

Scope: every value is written. A reader may have a limit on the digits of whole numbers
(`Dialect.digits`), the writer has none, so not all that it writes need be read again.
-/

set_option autoImplicit false

namespace DocShape.Json

/-- The decisions of a text format for JSON values. -/
structure Layout where
  /-- Characters outside printable ASCII are escaped. -/
  asciiOnly : Bool
  /-- The indentation of one level, if containers are spread over lines. -/
  indent : Option Nat

/-- Everything on one line, with all characters as they are. -/
def compact : Layout := { asciiOnly := false, indent := none }

/-- Spread over lines with two spaces a level, in ASCII. -/
def indented : Layout := { asciiOnly := true, indent := some 2 }

/-- One 16-bit unit of a character as an escape. -/
def unitEscape (unit : Nat) : Text := '\\' :: 'u' :: Text.hexDigits 4 unit

/-- A character outside ASCII as one or two escapes. -/
def wideEscape (c : Char) : Text :=
  if c.toNat < 0x10000 then unitEscape c.toNat
  else
    let code := c.toNat - 0x10000
    unitEscape (0xD800 + code / 0x400) ++ unitEscape (0xDC00 + code % 0x400)

/-- One character inside a JSON string. -/
def stringChar (asciiOnly : Bool) (c : Char) : Text :=
  if c = '"' then ['\\', '"']
  else if c = '\\' then ['\\', '\\']
  else if c = '\n' then ['\\', 'n']
  else if c = '\r' then ['\\', 'r']
  else if c = '\t' then ['\\', 't']
  else if c = '\x0c' then ['\\', 'f']
  else if c = '\x08' then ['\\', 'b']
  else if c.toNat < 0x20 then unitEscape c.toNat
  else if asciiOnly && 0x7E < c.toNat then wideEscape c
  else [c]

/-- A text as a JSON string. -/
def writeString (asciiOnly : Bool) (text : Text) : Text :=
  '"' :: text.flatMap (stringChar asciiOnly) ++ ['"']

/-- What stands between two items of a container at the given level. -/
def separator (layout : Layout) (level : Nat) : Text :=
  match layout.indent with
  | none => [',', ' ']
  | some width => ',' :: '\n' :: Text.spaces (width * level)

/-- The line break inside a bracket, if there is one. -/
def lineBreak (layout : Layout) (level : Nat) : Text :=
  match layout.indent with
  | none => []
  | some width => '\n' :: Text.spaces (width * level)

/-- The items of a container between its brackets, `level` levels inside the value. -/
def bracketed (layout : Layout) (level : Nat) (opening closing : Char) (parts : List Text) : Text :=
  if parts.isEmpty then [opening, closing]
  else
    opening :: lineBreak layout (level + 1) ++
      Text.joinWith (separator layout (level + 1)) parts ++ lineBreak layout level ++ [closing]

mutual

/-- The text of a value that stands `level` levels inside the whole. -/
def writeAt (layout : Layout) (level : Nat) : Json → Text
  | .null => "null".toList
  | .bool true => "true".toList
  | .bool false => "false".toList
  | .int i => Text.ofInt i
  | .float x => x.write Binary64.jsonFormat
  | .string s => writeString layout.asciiOnly s
  | .array values => bracketed layout level '[' ']' (writeItems layout (level + 1) values)
  | .object entries => bracketed layout level '{' '}' (writeMembers layout (level + 1) entries)

/-- The texts of the items of an array. -/
def writeItems (layout : Layout) (level : Nat) : List Json → List Text
  | [] => []
  | value :: values => writeAt layout level value :: writeItems layout level values

/-- The texts of the members of an object. -/
def writeMembers (layout : Layout) (level : Nat) : List (Text × Json) → List Text
  | [] => []
  | (key, value) :: entries =>
      (writeString layout.asciiOnly key ++ ':' :: ' ' :: writeAt layout level value) ::
        writeMembers layout level entries

end

/-- The text of a value. -/
def write (layout : Layout) (value : Json) : Text := writeAt layout 0 value

end DocShape.Json
