import DocShape.Json.Basic
import DocShape.Shape.Basic

/-!
# Shapes as JSON values

Two descriptions of a shape are JSON values themselves: an outline that shows the shape by example,
and a JSON Schema, in which every declared property is required and no other is allowed.
-/

set_option autoImplicit false

namespace DocShape

mutual

/-- A shape by example: a kind's name, a list of one item, or a record. -/
def Shape.outline : Shape → Json
  | .primitive kind => .string kind.name
  | .array items => .array [items.outline]
  | .object properties => .object (Schema.outlineMembers properties)

/-- The properties of a schema by example. -/
def Schema.outlineMembers : Schema → List (Text × Json)
  | [] => []
  | (key, shape) :: properties => (key, shape.outline) :: Schema.outlineMembers properties

end

/-- A schema by example. -/
def Schema.outline (schema : Schema) : Json := (Shape.object schema).outline

/-- The name JSON Schema gives to the type of a shape's values. -/
def Shape.typeName : Shape → Text
  | .primitive kind => kind.name
  | .array _ => "array".toList
  | .object _ => "object".toList

mutual

/-- A shape as a JSON Schema. -/
def Shape.jsonSchema : Shape → Json
  | .primitive kind => .object [("type".toList, .string kind.name)]
  | .array items =>
      .object [("type".toList, .string "array".toList), ("items".toList, items.jsonSchema)]
  | .object properties =>
      .object
        [("type".toList, .string "object".toList),
         ("properties".toList, .object (Schema.jsonSchemaMembers properties)),
         ("required".toList, .array (properties.map fun (key, _) => .string key)),
         ("additionalProperties".toList, .bool false)]

/-- The properties of a schema as JSON Schemas. -/
def Schema.jsonSchemaMembers : Schema → List (Text × Json)
  | [] => []
  | (key, shape) :: properties => (key, shape.jsonSchema) :: Schema.jsonSchemaMembers properties

end

/-- A schema as a JSON Schema. -/
def Schema.jsonSchema (schema : Schema) : Json := (Shape.object schema).jsonSchema

end DocShape
