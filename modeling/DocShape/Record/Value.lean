import DocShape.Json.Path
import DocShape.Json.Reader
import DocShape.Record.Basic

/-!
# Records from documents

A record type takes a document apart strictly: texts, numbers and booleans are not converted into
each other, and a record takes exactly the keys of its fields. Numbers become doubles. A whole
number of a document beyond the greatest double is no number, but in a JSON text it stands for an
infinite double. If anything is wrong, everything that is wrong is listed: field by field in the
order of the fields, then the keys that belong to no field.

A record is written back by the names of its fields or by their keys.
-/

set_option autoImplicit false

namespace DocShape

/-- What is wrong at a place of a document. -/
inductive Record.Mismatch where
  | notAText
  | notANumber
  | notABoolean
  | notAList
  | notARecord
  | missing
  | undeclared
  | invalidText
deriving DecidableEq

/-- Something wrong and its place. -/
structure Record.Issue where
  mismatch : Record.Mismatch
  place : List Json.Step
deriving DecidableEq

/-- An issue seen from further out. -/
def Record.Issue.under (step : Json.Step) (issue : Record.Issue) : Record.Issue :=
  { issue with place := step :: issue.place }

/-- A value a field can have. -/
inductive FieldValue where
  | text (value : Text)
  | number (value : Binary64)
  | boolean (value : Bool)
  | list (items : List FieldValue)
  | record (fields : List (Record.Label × FieldValue))

/-- A value, or all that is wrong with the document it was to come from. -/
abbrev Taken (α : Type) := Except (List Record.Issue) α

namespace Taken

/-- Nothing is taken, for one reason. -/
def fail {α : Type} (mismatch : Record.Mismatch) : Taken α := .error [⟨mismatch, []⟩]

/-- Two parts of a document taken one after the other; what is wrong with both is listed. -/
def both {α β γ : Type} (f : α → β → γ) : Taken α → Taken β → Taken γ
  | .ok a, .ok b => .ok (f a b)
  | .ok _, .error issues => .error issues
  | .error issues, .ok _ => .error issues
  | .error issues, .error issues' => .error (issues ++ issues')

/-- A part of a document, seen from further out. -/
def under {α : Type} (step : Json.Step) : Taken α → Taken α
  | .ok a => .ok a
  | .error issues => .error (issues.map (Record.Issue.under step))

end Taken

/-- A primitive value. -/
def Primitive.take : Primitive → Json → Taken FieldValue
  | .string, .string text => .ok (.text text)
  | .string, _ => Taken.fail .notAText
  | .number, .int i =>
      match Binary64.ofInt i with
      | .finite negative mantissa exponent => .ok (.number (.finite negative mantissa exponent))
      | _ => Taken.fail .notANumber
  | .number, .float x => .ok (.number x)
  | .number, _ => Taken.fail .notANumber
  | .boolean, .bool b => .ok (.boolean b)
  | .boolean, _ => Taken.fail .notABoolean

/-- The items of a list, counted from `start`, each taken the same way. -/
def takeItems (item : Json → Taken FieldValue) : (start : Nat) → List Json → Taken (List FieldValue)
  | _, [] => .ok []
  | start, value :: values =>
      Taken.both (· :: ·) ((item value).under (.index start)) (takeItems item (start + 1) values)

/-- The keys of a document that belong to no field. -/
def refuseUndeclared (keys : List Text) (entries : List (Text × Json)) : Taken Unit :=
  match (entries.map Prod.fst).filter fun key => !keys.contains key with
  | [] => .ok ()
  | undeclared => .error (undeclared.map fun key => ⟨.undeclared, [.key key]⟩)

mutual

/-- The value of a field with the given type. -/
def FieldType.take : FieldType → Json → Taken FieldValue
  | .primitive kind, value => kind.take value
  | .list items, .array values => (takeItems items.take 0 values).map .list
  | .list _, _ => Taken.fail .notAList
  | .record _ fields, .object entries =>
      Taken.both (fun taken _ => .record taken) (takeFields fields entries)
        (refuseUndeclared (fields.map fun (label, _) => label.key) entries)
  | .record _ _, _ => Taken.fail .notARecord

/-- The values of the fields of a record. -/
def takeFields : List (Record.Label × FieldType) → List (Text × Json) →
    Taken (List (Record.Label × FieldValue))
  | [], _ => .ok []
  | (label, type) :: fields, entries =>
      Taken.both (fun value taken => (label, value) :: taken)
        (Taken.under (.key label.key)
          (match Json.member? entries label.key with
            | none => Taken.fail .missing
            | some value => type.take value))
        (takeFields fields entries)

end

/-- The record a document holds. -/
def RecordType.take (type : RecordType) (document : Json) : Taken FieldValue :=
  (FieldType.record type.name type.fields).take document

/-- The dialect of the texts that records are read from. -/
def Record.textDialect : Json.Dialect :=
  { nesting := 200, emptyCounts := false, digits := 4300, signedWholePart := true
    loneHalves := false, doubles := true }

/-- The record a JSON text holds. -/
def RecordType.takeText (type : RecordType) (text : Text) : Taken FieldValue :=
  match Json.read Record.textDialect text with
  | .ok document => type.take document
  | .error _ => Taken.fail .invalidText

mutual

/-- A value as JSON, with fields written as `label` says. -/
def FieldValue.toJson (label : Record.Label → Text) : FieldValue → Json
  | .text value => .string value
  | .number value => .float value
  | .boolean value => .bool value
  | .list items => .array (FieldValue.itemsToJson label items)
  | .record fields => .object (FieldValue.fieldsToJson label fields)

/-- The items of a list as JSON. -/
def FieldValue.itemsToJson (label : Record.Label → Text) : List FieldValue → List Json
  | [] => []
  | value :: values => value.toJson label :: FieldValue.itemsToJson label values

/-- The fields of a record as JSON. -/
def FieldValue.fieldsToJson (label : Record.Label → Text) :
    List (Record.Label × FieldValue) → List (Text × Json)
  | [] => []
  | (l, value) :: fields => (label l, value.toJson label) :: FieldValue.fieldsToJson label fields

end

/-- A value as JSON, with fields under their names. -/
def FieldValue.byName (value : FieldValue) : Json := value.toJson Record.Label.name

/-- A value as JSON, with fields under their keys. -/
def FieldValue.byKey (value : FieldValue) : Json := value.toJson Record.Label.key

end DocShape
