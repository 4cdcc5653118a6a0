import DocShape.Record.Name
import DocShape.Shape.Basic

/-!
# Record types

A schema gives rise to a record type: a field for each property, all required, with records for the
objects inside. A field is known by its name in the record and by the key it has in documents.

Two record types cannot be built: one with a field whose name is kept for the settings of records,
and one whose own name holds a null character. Records are built from the inside out, so what is
wrong with an inner record is found first.
-/

set_option autoImplicit false

namespace DocShape

namespace Record

/-- What a field is known by. -/
structure Label where
  /-- The name in the record. -/
  name : Text
  /-- The key in documents. -/
  key : Text
deriving DecidableEq

/-- Why a record type cannot be built. -/
inductive Fault where
  /-- A field has the name that is kept for settings. -/
  | settingsField
  /-- The name of the record holds a null character. -/
  | nullInName
deriving DecidableEq

/-- The field name that is kept for settings. -/
def settingsName : Text := "Config".toList

/-- The message for a fault. -/
def Fault.message : Fault → Text
  | .settingsField => "\"Config\" and \"model_config\" cannot be used together".toList
  | .nullInName => "type name must not contain null characters".toList

/-- What is wrong with a record by itself. -/
def fault? (name : Text) (labels : List Label) : Option Fault :=
  if labels.any fun label => label.name == settingsName then some .settingsField
  else if name.contains '\x00' then some .nullInName
  else none

end Record

/-- The type of a field. -/
inductive FieldType where
  | primitive (kind : Primitive)
  | list (items : FieldType)
  | record (name : Text) (fields : List (Record.Label × FieldType))

/-- A record type: its name and its fields. -/
structure RecordType where
  name : Text
  fields : List (Record.Label × FieldType)

mutual

/-- The type of the fields for a shape; `name` is for the record inside it, if there is one. -/
def Shape.fieldType (name : Text) : Shape → FieldType
  | .primitive kind => .primitive kind
  | .array items => .list (items.fieldType name)
  | .object properties => .record name (Schema.fieldsFrom name [] properties)

/-- The fields for the properties of a record with the given name, when some field names are taken
already. -/
def Schema.fieldsFrom (name : Text) (taken : List Text) :
    Schema → List (Record.Label × FieldType)
  | [] => []
  | (key, shape) :: properties =>
      let field := Record.freshName taken taken.length (Record.fieldName key)
      (⟨field, key⟩, shape.fieldType (name ++ Record.typeName key)) ::
        Schema.fieldsFrom name (field :: taken) properties

end

/-- The record type for a schema. -/
def Schema.recordType (name : Text) (schema : Schema) : RecordType :=
  { name, fields := Schema.fieldsFrom name [] schema }

mutual

/-- The first thing wrong with the records in the type of a field. -/
def FieldType.fault? : FieldType → Option Record.Fault
  | .primitive _ => none
  | .list items => items.fault?
  | .record name fields =>
      (fieldsFault? fields).or (Record.fault? name (fields.map fun (label, _) => label))

/-- The first thing wrong with the records in the types of some fields. -/
def fieldsFault? : List (Record.Label × FieldType) → Option Record.Fault
  | [] => none
  | (_, type) :: fields => type.fault?.or (fieldsFault? fields)

end

/-- The type of the fields for a shape, if its records can be built. -/
def Shape.buildField (name : Text) (shape : Shape) : Except Record.Fault FieldType :=
  match (shape.fieldType name).fault? with
  | some fault => .error fault
  | none => .ok (shape.fieldType name)

/-- The record type for a schema, if it can be built. -/
def Schema.buildRecord (name : Text) (schema : Schema) : Except Record.Fault RecordType :=
  match (Shape.fieldType name (.object schema)).fault? with
  | some fault => .error fault
  | none => .ok (schema.recordType name)

end DocShape
