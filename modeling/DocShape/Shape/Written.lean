import DocShape.Shape.Basic

/-!
# Shapes in the notation

The canonical text of a shape has no blanks and no rules. An array of objects is written around its
element, every other array behind its element. The command line also describes a shape by a short
label, with the objects inside it left out.
-/

set_option autoImplicit false

namespace DocShape

/-- The canonical text of an array, given the text of its element. -/
def Shape.writtenArray : (items : Shape) → (text : Text) → Text
  | .object _, text => "Array<".toList ++ text ++ ">".toList
  | _, text => text ++ "[]".toList

mutual

/-- The canonical text of a shape. -/
def Shape.written : Shape → Text
  | .primitive kind => kind.name
  | .array items => items.writtenArray items.written
  | .object properties => '{' :: Text.joinWith [','] (Schema.writtenEntries properties) ++ ['}']

/-- The canonical texts of the properties. -/
def Schema.writtenEntries : Schema → List Text
  | [] => []
  | (key, shape) :: properties =>
      (key ++ ':' :: shape.written) :: Schema.writtenEntries properties

end

/-- The canonical text of a schema. -/
def Schema.written (schema : Schema) : Text := (Shape.object schema).written

/-- A short label for a shape. -/
def Shape.label : Shape → Text
  | .primitive kind => kind.name
  | .array (.object _) => "Array<object>".toList
  | .array items => items.label ++ "[]".toList
  | .object _ => "object".toList

/-- The schema of the object a shape is, or is an array of at any depth. -/
def Shape.innerSchema? : Shape → Option Schema
  | .primitive _ => none
  | .array items => items.innerSchema?
  | .object properties => some properties

end DocShape
