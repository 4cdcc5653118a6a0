import DocShape.Brace
import DocShape.Failure
import DocShape.Merge
import DocShape.Shape.Basic
import DocShape.Text.Blank

/-!
# Parsing schema texts

An object text is `{…}` with properties between top-level commas; a property is a key, a colon and
a value; a value takes one of six forms, told apart by their beginnings and endings in a fixed order
(`ValueForm.ofText`). Rules in angle brackets are dropped.

One level of an object is parsed by `objectWith`, which is told how to parse the objects inside.
The whole parser stacks that level on itself: `parseObject` may descend `limit` levels below the
outermost object and answers `Failure.tooDeep` when the text needs more.
-/

set_option autoImplicit false

namespace DocShape

/-- How a value is written: the text that remains to be read, and what it is an array of. -/
inductive ValueForm where
  /-- An array of the objects with this text. -/
  | objects (text : Text)
  /-- The object with this text. -/
  | object (text : Text)
  /-- An array of the primitive kind with this name. -/
  | primitives (token : Text)
  /-- The primitive kind with this name. -/
  | primitive (token : Text)
deriving DecidableEq

namespace ValueForm

/-- The text between `Array<` and `>`, if it is of the form `{…}`. -/
def objectsText? (raw : Text) : Option Text := do
  let rest ← Text.afterStart? "Array<".toList raw
  let text ← Text.beforeEnd? ['>'] rest
  let _ ← Brace.interior? text
  return text

/-- The part of a text before the first `marker`, if the text ends with `>`. -/
def beforeRules? (marker raw : Text) : Option Text :=
  if (Text.beforeEnd? ['>'] raw).isSome then Text.before? marker raw else none

/-- The form of a value. The forms are tried in a fixed order. -/
def ofText (raw : Text) : ValueForm :=
  match objectsText? raw with
  | some text => .objects text
  | none =>
    if (Brace.interior? raw).isSome then .object raw
    else
      match Text.beforeEnd? "[]".toList raw with
      | some token => .primitives token
      | none =>
        match beforeRules? "[]<".toList raw with
        | some token => .primitives token
        | none => .primitive ((beforeRules? ['<'] raw).getD raw)

end ValueForm

/-- The answer of a parser. -/
abbrev Parsed (α : Type) := Except Failure α

/-- The failure with a cause found right here. -/
def reject {α : Type} (cause : Cause) : Parsed α := .error (.rejected [] cause)

/-- The answer with one more step around its failure. -/
def inside {α : Type} (step : Step) : Parsed α → Parsed α
  | .ok a => .ok a
  | .error failure => .error (failure.within step)

/-- A primitive kind from its name. -/
def parseToken (token : Text) : Parsed Shape :=
  match Primitive.ofName? token with
  | some kind => .ok (.primitive kind)
  | none => reject (.unknownToken token)

/-- A property cut at its first colon; blanks before the value are dropped. -/
def parseProperty (text : Text) : Parsed (Text × Text) :=
  match Text.cutAt? ':' text with
  | some (key, value) => .ok (key, Text.trimLeft value)
  | none => reject (.noColon text)

/-- A value, given a parser for the objects in it. -/
def valueWith (nested : Text → Parsed Schema) (raw : Text) : Parsed Shape :=
  match ValueForm.ofText raw with
  | .objects text => (nested text).map fun schema => .array (.object schema)
  | .object text => (nested text).map .object
  | .primitives token => (parseToken token).map .array
  | .primitive token => parseToken token

/-- The key and shape of a property, given a parser for the objects in its value. -/
def entryWith (nested : Text → Parsed Schema) (segment : Text) : Parsed (Text × Shape) :=
  match parseProperty segment with
  | .error failure => .error failure
  | .ok (key, raw) => (inside (.valueOf key) (valueWith nested raw)).map fun shape => (key, shape)

/-- The properties with these texts, given a parser for the objects in them; the first one that
fails is reported. -/
def entriesWith (nested : Text → Parsed Schema) : List Text → Parsed (List (Text × Shape))
  | [] => .ok []
  | segment :: segments =>
      match inside (.property (Text.trim segment)) (entryWith nested (Text.trim segment)) with
      | .error failure => .error failure
      | .ok entry => (entriesWith nested segments).map fun entries => entry :: entries

/-- The properties merged into a schema. -/
def mergeEntries (policy : KeyPolicy) (entries : List (Text × Shape)) : Parsed Schema :=
  match merge policy entries with
  | .ok schema => .ok schema
  | .error key => reject (.repeatedKey key)

/-- One level of an object, given a parser for the objects in it. -/
def objectWith (policy : KeyPolicy) (nested : Text → Parsed Schema) (text : Text) :
    Parsed Schema :=
  match Brace.interior? text with
  | none => reject (.notAnObject text)
  | some content =>
      match entriesWith nested (Brace.segments content) with
      | .error failure => .error failure
      | .ok entries => mergeEntries policy entries

/-- An object with at most `limit` levels of objects below it. The text is taken as it is. -/
def parseObject (policy : KeyPolicy) : (limit : Nat) → Text → Parsed Schema
  | 0 => objectWith policy fun _ => .error .tooDeep
  | limit + 1 => objectWith policy (parseObject policy limit)

/-- A value with at most `limit` levels of objects in it. The text is taken as it is. -/
def parseValue (policy : KeyPolicy) : (limit : Nat) → Text → Parsed Shape
  | 0 => valueWith fun _ => .error .tooDeep
  | limit + 1 => valueWith (parseObject policy limit)

/-- A schema text with at most `limit` levels of objects below the outermost one. Blanks do not
count, wherever they stand. -/
def parseWithin (limit : Nat) (policy : KeyPolicy) (text : Text) : Parsed Schema :=
  parseObject policy limit (Text.removeBlanks text)

/-- How deep the objects of a schema text may nest. The number stands for the stack that a run has,
which is not the same everywhere; what is proved is proved of `parseWithin`, for every limit. -/
def nestingLimit : Nat := 500

/-- The schema a text denotes. -/
def parse (policy : KeyPolicy) (text : Text) : Parsed Schema := parseWithin nestingLimit policy text

end DocShape
