import DocShape.Json.Writer
import DocShape.Regex.Basic
import DocShape.Regex.Collapse
import DocShape.Shape.Basic

/-!
# Shapes as regular expressions

The expression of a shape matches the JSON texts of its values: strings without escapes, numbers,
booleans, arrays, and objects with their members in the order of declaration. Blanks may stand
between tokens. Keys stand in their JSON spelling, with the characters that mean something in an
expression behind a backslash.
-/

set_option autoImplicit false

namespace DocShape

namespace Regex

/-- The characters that stand behind a backslash in the expression of a key. -/
def special : List Char := "()[]\x7b\x7d?*+-|^$\\.&~# \t\n\r\x0b\x0c".toList

/-- The expression that matches one text, as keys are written. -/
def exactly (text : Text) : Regex :=
  sequence (text.map fun c => if special.contains c then .escaped c else .literal c)

/-- Any number of blanks. -/
def blanks : Regex := .star (.oneOf .blank)

/-- A character between any number of blanks. -/
def spaced (c : Char) : Regex := sequence [blanks, .literal c, blanks]

/-- A string without escapes. -/
def stringValue : Regex := sequence [.literal '"', .star (.oneOf .unquoted), .literal '"']

/-- A digit. -/
def digit : Regex := .oneOf (.range '0' '9')

/-- A number. -/
def numberValue : Regex :=
  sequence
    [.optional (.literal '-'),
     .group (.alt (.literal '0') (.seq (.oneOf (.range '1' '9')) (.star digit))),
     .optional (.group (.seq (.escaped '.') (.plus digit))),
     .optional (.group (sequence
       [.oneOf (.either 'e' 'E'), .optional (.oneOf (.either '+' '-')), .plus digit]))]

/-- A boolean. -/
def booleanValue : Regex := .group (.alt (literals "true".toList) (literals "false".toList))

/-- An array of the values an expression matches. -/
def arrayOf (item : Regex) : Regex :=
  sequence
    [.escaped '[', blanks,
     .optional (.group (.seq item (.star (.group (.seq (spaced ',') item))))),
     blanks, .escaped ']']

/-- The members of an object with commas between them. -/
def commaSeparated : List Regex → Regex
  | [] => .empty
  | [entry] => entry
  | entry :: next :: rest => sequence [entry, spaced ',', commaSeparated (next :: rest)]

/-- An object with the members the expressions match. -/
def objectOf : List Regex → Regex
  | [] => sequence [.escaped '{', blanks, .escaped '}']
  | entries =>
      sequence [.escaped '{', blanks, commaSeparated entries, blanks, .escaped '}']

end Regex

mutual

/-- The expression that matches the values of a shape. -/
def Shape.regex : Shape → Regex
  | .primitive .string => Regex.stringValue
  | .primitive .number => Regex.numberValue
  | .primitive .boolean => Regex.booleanValue
  | .array items => Regex.arrayOf items.regex
  | .object properties => Regex.objectOf (Schema.regexEntries properties)

/-- The expressions that match the members of an object. -/
def Schema.regexEntries : Schema → List Regex
  | [] => []
  | (key, shape) :: properties =>
      Regex.sequence
        [Regex.exactly (Json.writeString false key), Regex.spaced ':', shape.regex] ::
        Schema.regexEntries properties

end

/-- The expression that matches the values of a schema. -/
def Schema.regex (schema : Schema) : Regex := (Shape.object schema).regex

/-- The text of a schema's expression, shortened if asked for. -/
def Schema.pattern (schema : Schema) (shorten : Bool) : Text :=
  if shorten then Regex.collapse schema.regex.text else schema.regex.text

/-- The text of an instance: a text is taken as JSON already, anything else is written, with all
digits of its whole numbers. -/
def instanceText : Json → Text
  | .string text => text
  | value => value.write Json.compact

/-- The instances of a schema among some JSON texts, and the others. -/
structure InstanceMatches where
  pattern : Text
  matched : List Text
  unmatched : List Text

/-- Sorts JSON instances by whether the schema's expression matches them. -/
def Schema.matchInstances (schema : Schema) (instances : List Json) : InstanceMatches :=
  let texts := instances.map instanceText
  let regex := schema.regex
  { pattern := schema.pattern true
    matched := texts.filter regex.isMatch
    unmatched := texts.filter fun text => !regex.isMatch text }

end DocShape
