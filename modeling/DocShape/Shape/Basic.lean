import DocShape.Primitive

/-!
# Shapes of documents

A schema lists the properties of an object, each a key with the shape of its value. A shape is a
primitive kind, an array of values of one shape, or an object with a schema. Keys are meant to be
distinct at every level (`Shape.Distinct`), and two shapes are alike when they differ in the order
of their keys only (`Shape.alike`).

Scope: this module has the data and the comparisons. How shapes are written, described and checked
stands in the modules beside it.
-/

set_option autoImplicit false

namespace DocShape

/-- The shape of a value. -/
inductive Shape where
  | primitive (kind : Primitive)
  | array (items : Shape)
  | object (properties : List (Text × Shape))

/-- The properties of an object in the order of their declaration. -/
abbrev Schema := List (Text × Shape)

namespace Schema

/-- The keys in the order of their declaration. -/
def keys (schema : Schema) : List Text := schema.map Prod.fst

/-- The shape declared for a key. -/
def get? (schema : Schema) (key : Text) : Option Shape := schema.lookup key

/-- Whether a key is declared. -/
def has (schema : Schema) (key : Text) : Bool := (schema.get? key).isSome

end Schema

mutual

/-- Keys are distinct in every object of the shape. -/
def Shape.Distinct : Shape → Prop
  | .primitive _ => True
  | .array items => items.Distinct
  | .object properties => (properties.map Prod.fst).Nodup ∧ Schema.AllDistinct properties

/-- Keys are distinct in every object inside the properties. -/
def Schema.AllDistinct : Schema → Prop
  | [] => True
  | (_, shape) :: properties => shape.Distinct ∧ Schema.AllDistinct properties

end

/-- Keys are distinct in the object and in every object inside it. -/
def Schema.Distinct (schema : Schema) : Prop := (Shape.object schema).Distinct

mutual

/-- Whether two shapes differ in the order of their keys only. -/
def Shape.alike : Shape → Shape → Bool
  | .primitive kind, .primitive kind' => kind == kind'
  | .array items, .array items' => items.alike items'
  | .object properties, .object properties' =>
      properties.length == properties'.length && Schema.foundIn properties properties'
  | _, _ => false

/-- Whether every property stands, alike, among other properties. -/
def Schema.foundIn : Schema → Schema → Bool
  | [], _ => true
  | (key, shape) :: properties, others =>
      (match others.lookup key with
        | some shape' => shape.alike shape'
        | none => false) && Schema.foundIn properties others

end

/-- Whether two schemas differ in the order of their keys only. -/
def Schema.alike (schema schema' : Schema) : Bool := (Shape.object schema).alike (.object schema')

end DocShape
