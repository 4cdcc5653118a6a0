import DocShape.Json.Path
import DocShape.Json.Reader
import DocShape.Json.Shown
import DocShape.Shape.Described
import DocShape.Text.Quoted

/-!
# Violations of a schema

A document is checked against the JSON Schema of a schema, keyword by keyword in the order in which
the JSON Schema lists them. Three keywords ask something of the value itself: its type, the
properties it must have, and that it has no others. Two look into it: at the properties that are
present, and at the items of an array. A keyword that is about objects or arrays asks nothing of
other values, so all violations are found, each once and in a fixed order.

Scope: the keywords that stand in the JSON Schema of a shape, with the arguments they have there.
Other keywords and other arguments ask nothing.

A violation is reported with what the schema asks for and what the document has, both found by
following paths.
-/

set_option autoImplicit false

namespace DocShape

/-- A way in which a value violates a schema. -/
inductive Problem where
  | wrongType (value : Json) (expected : Text)
  | missing (key : Text)
  | undeclared (keys : List Text)

namespace Problem

/-- The JSON Schema keyword that is violated. -/
def keyword : Problem → Text
  | .wrongType .. => "type".toList
  | .missing _ => "required".toList
  | .undeclared _ => "additionalProperties".toList

/-- The message for a problem. -/
def message : Problem → Text
  | .wrongType value expected =>
      value.shown ++ " is not of type ".toList ++ Text.quoted expected
  | .missing key => Text.quoted key ++ " is a required property".toList
  | .undeclared keys =>
      "Additional properties are not allowed (".toList ++
        Text.joinWith ", ".toList ((keys.mergeSort Text.le).map Text.quoted) ++
        (if keys.length = 1 then " was unexpected)" else " were unexpected)").toList

end Problem

/-- A problem with its place in the document and in the JSON Schema, and the part of the JSON Schema
that is violated. -/
structure Violation where
  keyword : Text
  message : Text
  path : List Json.Step
  schemaPath : List Json.Step
  fragment : Json

/-- A problem at its place: the paths from the value and the JSON Schema that were compared. -/
structure Finding where
  problem : Problem
  path : List Json.Step
  schemaPath : List Json.Step
  fragment : Json

namespace Finding

/-- A problem of the value itself under a JSON Schema. -/
def here (schema : Json) (problem : Problem) : Finding :=
  { problem, path := [], schemaPath := [.key problem.keyword], fragment := schema }

/-- A finding seen from further out. -/
def under (step : Json.Step) (schemaSteps : List Json.Step) (finding : Finding) : Finding :=
  { finding with path := step :: finding.path, schemaPath := schemaSteps ++ finding.schemaPath }

/-- The violation a finding amounts to. -/
def violation (finding : Finding) : Violation :=
  { keyword := finding.problem.keyword
    message := finding.problem.message
    path := finding.path
    schemaPath := finding.schemaPath
    fragment := finding.fragment }

end Finding

/-- The name JSON Schema gives to the type of a value. -/
def Json.typeName : Json → Text
  | .null => "null".toList
  | .bool _ => "boolean".toList
  | .int _ => "number".toList
  | .float _ => "number".toList
  | .string _ => "string".toList
  | .array _ => "array".toList
  | .object _ => "object".toList

/-- The keywords of a JSON Schema that are looked at. -/
inductive Keyword where
  | type
  | properties
  | items
  | required
  | additionalProperties
deriving DecidableEq

namespace Keyword

/-- The keywords that are looked at. -/
def all : List Keyword := [.type, .properties, .items, .required, .additionalProperties]

/-- The name of a keyword. -/
def name : Keyword → Text
  | .type => "type".toList
  | .properties => "properties".toList
  | .items => "items".toList
  | .required => "required".toList
  | .additionalProperties => "additionalProperties".toList

/-- The keyword with a given name. -/
def ofName? (text : Text) : Option Keyword := all.find? fun keyword => keyword.name = text

end Keyword

namespace Problem

/-- What a value lacks that should have the type named by the argument. -/
def ofType : (argument value : Json) → List Problem
  | .string name, value => if value.typeName = name then [] else [.wrongType value name]
  | _, _ => []

/-- What an object lacks that should have the properties listed in the argument. -/
def ofRequired : (argument value : Json) → List Problem
  | .array keys, .object entries =>
      keys.filterMap fun key =>
        match key with
        | .string key => if (Json.member? entries key).isNone then some (.missing key) else none
        | _ => none
  | _, _ => []

/-- What an object has beyond the properties that a JSON Schema declares, where the argument does
not allow that. -/
def ofAdditional (schema : Json) : (argument value : Json) → List Problem
  | .bool false, .object entries =>
      match (entries.map Prod.fst).filter fun key =>
        (schema.walk? [.key Keyword.properties.name, .key key]).isNone with
      | [] => []
      | keys => [.undeclared keys]
  | _, _ => []

end Problem

mutual

/-- The problems of a value under a JSON Schema, each at its place. -/
def Json.findings : (schema value : Json) → List Finding
  | .object keywords, value => Json.keywordFindings (.object keywords) keywords value
  | _, _ => []
termination_by structural schema => schema

/-- The problems of a value under some keywords of a JSON Schema. -/
def Json.keywordFindings (schema : Json) : List (Text × Json) → Json → List Finding
  | [], _ => []
  | (keyword, argument) :: keywords, value =>
      (match Keyword.ofName? keyword with
        | none => []
        | some .type => (Problem.ofType argument value).map (Finding.here schema)
        | some .properties =>
            match value with
            | .object entries => Json.propertyFindings argument entries
            | _ => []
        | some .items =>
            match value with
            | .array values =>
                values.zipIdx.flatMap fun (item, i) =>
                  (Json.findings argument item).map (Finding.under (.index i) [.key keyword])
            | _ => []
        | some .required => (Problem.ofRequired argument value).map (Finding.here schema)
        | some .additionalProperties =>
            (Problem.ofAdditional schema argument value).map (Finding.here schema)) ++
        Json.keywordFindings schema keywords value
termination_by structural keywords => keywords

/-- The problems inside the properties that are present, where the argument of the keyword for
properties declares them. -/
def Json.propertyFindings : (argument : Json) → List (Text × Json) → List Finding
  | .object schemas, entries => Json.memberFindings schemas entries
  | _, _ => []
termination_by structural argument => argument

/-- The problems inside the properties that are present. -/
def Json.memberFindings : (schemas : List (Text × Json)) → List (Text × Json) → List Finding
  | [], _ => []
  | (key, schema) :: schemas, entries =>
      (match Json.member? entries key with
        | none => []
        | some value =>
            (Json.findings schema value).map
              (Finding.under (.key key) [.key Keyword.properties.name, .key key])) ++
        Json.memberFindings schemas entries
termination_by structural schemas => schemas

end

/-- All violations of a schema by a document. -/
def Schema.violations (schema : Schema) (document : Json) : List Violation :=
  (schema.jsonSchema.findings document).map Finding.violation

end DocShape
