import DocShape.Report
import DocShape.Proofs.Merging
import DocShape.Proofs.Objects

/-!
# Exactly the violations of a schema

A document is checked by way of a JSON Schema and its keywords. What comes out can be said on the
shape and the value alone (`Shape.findings`): a value of the wrong type is one problem and nothing
inside it is looked at; the problems of an array are those of its items in order; the problems of an
object are those of its declared properties that are present, then one for every declared property
that is missing, both in the order of declaration, then one for all undeclared properties together.
The JSON Schema of a shape finds exactly these (`Shape.findings_jsonSchema`).

There are no problems exactly when the shape admits the value (`Shape.findings_eq_nil_iff`): every
object has the declared keys and no others, and every value has the type that is declared for it.

Relation: `Schema.validate` on the texts that can be read. Keys need not be distinct, neither in the
schema nor in the document. The document is the one that `Json.read` gives, in which U+FFFD stands
for half of a character that is escaped alone.
-/

set_option autoImplicit false

namespace DocShape

/-- Whether a value has a primitive kind. Truth values are no numbers. -/
def Primitive.hasValue : Primitive → Json → Bool
  | .string, .string _ => true
  | .number, .int _ => true
  | .number, .float _ => true
  | .boolean, .bool _ => true
  | _, _ => false

mutual

/-- The problems of a value that should have a shape, each at its place. -/
def Shape.findings : Shape → Json → List Finding
  | .primitive kind, value =>
      if kind.hasValue value then []
      else [Finding.here (Shape.primitive kind).jsonSchema (.wrongType value kind.name)]
  | .array items, .array values =>
      values.zipIdx.flatMap fun (value, i) =>
        (items.findings value).map (Finding.under (.index i) [.key "items".toList])
  | .array items, value =>
      [Finding.here (Shape.array items).jsonSchema (.wrongType value "array".toList)]
  | .object properties, .object entries =>
      Schema.memberFindings properties entries ++
        ((properties.filter fun (key, _) => (Json.member? entries key).isNone).map fun (key, _) =>
          Finding.here (Shape.object properties).jsonSchema (.missing key)) ++
        (match (entries.map Prod.fst).filter fun key => (properties.lookup key).isNone with
          | [] => []
          | keys => [Finding.here (Shape.object properties).jsonSchema (.undeclared keys)])
  | .object properties, value =>
      [Finding.here (Shape.object properties).jsonSchema (.wrongType value "object".toList)]

/-- The problems inside the declared properties that are present. -/
def Schema.memberFindings : Schema → List (Text × Json) → List Finding
  | [], _ => []
  | (key, shape) :: properties, entries =>
      (match Json.member? entries key with
        | none => []
        | some value =>
            (shape.findings value).map
              (Finding.under (.key key) [.key "properties".toList, .key key])) ++
        Schema.memberFindings properties entries

end

/-- A shape admits a value: every primitive value has its kind, and every object has the declared
keys and no others. -/
inductive Shape.Admits : Shape → Json → Prop
  | primitive {kind : Primitive} {value : Json} :
      kind.hasValue value = true → Admits (.primitive kind) value
  | array {items : Shape} {values : List Json} :
      (∀ value ∈ values, Admits items value) → Admits (.array items) (.array values)
  | object {properties : Schema} {entries : List (Text × Json)} :
      (∀ key, key ∈ entries.map Prod.fst ↔ key ∈ properties.keys) →
        (∀ property ∈ properties, ∀ value, Json.member? entries property.1 = some value →
          Admits property.2 value) →
          Admits (.object properties) (.object entries)

/-! ## The JSON Schema of a shape -/

theorem Schema.lookup_jsonSchemaMembers (schema : Schema) (key : Text) :
    schema.jsonSchemaMembers.lookup key = (schema.lookup key).map Shape.jsonSchema := by
  induction schema with
  | nil => rfl
  | cons property schema ih =>
    rw [jsonSchemaMembers, List.lookup_cons, List.lookup_cons, ih]
    split <;> rfl

/-- The kind of a value, if it has one. -/
theorem Primitive.ofName?_typeName (value : Json) :
    ofName? value.typeName =
      match value with
      | .string _ => some .string
      | .int _ => some .number
      | .float _ => some .number
      | .bool _ => some .boolean
      | _ => none := by
  have hnull : ofName? "null".toList = none := by decide
  have harray : ofName? "array".toList = none := by decide
  have hobject : ofName? "object".toList = none := by decide
  cases value with
  | null => exact hnull
  | array items => exact harray
  | object entries => exact hobject
  | string text => exact ofName?_name .string
  | int n => exact ofName?_name .number
  | float x => exact ofName?_name .number
  | bool b => exact ofName?_name .boolean

/-- A primitive kind has the values that JSON Schema gives the type with its name. -/
theorem Primitive.hasValue_iff {kind : Primitive} {value : Json} :
    kind.hasValue value = true ↔ value.typeName = kind.name := by
  rw [← ofName?_eq_some_iff, ofName?_typeName]
  cases kind <;> cases value <;> simp [hasValue]

/-! ## One keyword at a time -/

theorem keywordFindings_type (schema : Json) (name : Text) (keywords : List (Text × Json))
    (value : Json) :
    Json.keywordFindings schema (("type".toList, .string name) :: keywords) value =
      (if value.typeName = name then []
        else [Finding.here schema (.wrongType value name)]) ++
        Json.keywordFindings schema keywords value := by
  have hfound : (Problem.ofType (.string name) value).map (Finding.here schema) =
      if value.typeName = name then [] else [Finding.here schema (.wrongType value name)] := by
    rw [Problem.ofType]
    split <;> rfl
  rw [← hfound]
  rfl

theorem keywordFindings_items (schema items : Json) (keywords : List (Text × Json))
    (values : List Json) :
    Json.keywordFindings schema (("items".toList, items) :: keywords) (.array values) =
      (values.zipIdx.flatMap fun (item, i) =>
        (items.findings item).map (Finding.under (.index i) [.key "items".toList])) ++
        Json.keywordFindings schema keywords (.array values) := by
  rfl

theorem keywordFindings_properties (schema : Json) (schemas keywords : List (Text × Json))
    (entries : List (Text × Json)) :
    Json.keywordFindings schema (("properties".toList, .object schemas) :: keywords)
        (.object entries) =
      Json.memberFindings schemas entries ++
        Json.keywordFindings schema keywords (.object entries) := by
  rfl

/-- What an object lacks of the declared properties, in the order of declaration. -/
theorem Problem.ofRequired_keys (properties : Schema) (entries : List (Text × Json)) :
    Problem.ofRequired (.array (properties.map fun (key, _) => .string key)) (.object entries) =
      (properties.filter fun (key, _) => (Json.member? entries key).isNone).map fun (key, _) =>
        .missing key := by
  rw [Problem.ofRequired]
  induction properties with
  | nil => rfl
  | cons property properties ih =>
    rw [List.map_cons, List.filterMap_cons, ih, List.filter_cons]
    cases hkey : Json.member? entries property.1 <;> simp [hkey]

theorem keywordFindings_required (schema : Json) (properties : Schema)
    (keywords entries : List (Text × Json)) :
    Json.keywordFindings schema
        (("required".toList, .array (properties.map fun (key, _) => .string key)) :: keywords)
        (.object entries) =
      ((properties.filter fun (key, _) => (Json.member? entries key).isNone).map fun (key, _) =>
        Finding.here schema (.missing key)) ++
        Json.keywordFindings schema keywords (.object entries) := by
  have hfound :
      (Problem.ofRequired (.array (properties.map fun (key, _) => .string key))
        (.object entries)).map (Finding.here schema) =
      (properties.filter fun (key, _) => (Json.member? entries key).isNone).map fun (key, _) =>
        Finding.here schema (.missing key) := by
    rw [Problem.ofRequired_keys]
    exact List.map_map
  rw [← hfound]
  rfl

/-- A key is declared in the JSON Schema of an object exactly when the object declares it. -/
theorem Shape.walk?_properties_isNone (properties : Schema) (key : Text) :
    ((Shape.object properties).jsonSchema.walk? [.key Keyword.properties.name, .key key]).isNone =
      (properties.lookup key).isNone := by
  have hstep : (Shape.object properties).jsonSchema.step? (.key Keyword.properties.name) =
      some (.object properties.jsonSchemaMembers) := by
    rw [Shape.jsonSchema]
    rfl
  rw [Json.walk?, hstep, Option.bind_some, Json.walk?, Json.step?, Json.member?,
    Schema.lookup_jsonSchemaMembers]
  cases properties.lookup key <;> rfl

theorem keywordFindings_additional (properties : Schema) (entries : List (Text × Json)) :
    Json.keywordFindings (Shape.object properties).jsonSchema
        [("additionalProperties".toList, .bool false)] (.object entries) =
      match (entries.map Prod.fst).filter fun key => (properties.lookup key).isNone with
      | [] => []
      | keys => [Finding.here (Shape.object properties).jsonSchema (.undeclared keys)] := by
  have hfound : Json.keywordFindings (Shape.object properties).jsonSchema
      [("additionalProperties".toList, .bool false)] (.object entries) =
      (Problem.ofAdditional (Shape.object properties).jsonSchema (.bool false)
        (.object entries)).map (Finding.here (Shape.object properties).jsonSchema) ++ [] := rfl
  rw [hfound, List.append_nil]
  simp only [Problem.ofAdditional, Shape.walk?_properties_isNone]
  cases (entries.map Prod.fst).filter fun key => (properties.lookup key).isNone <;> rfl

/-! ## What the JSON Schema of a shape finds -/

/-- The JSON Schemas of properties find what the properties find, if each of them does. -/
theorem memberFindings_jsonSchemaMembers {properties : Schema}
    (h : ∀ property ∈ properties, ∀ value,
      property.2.jsonSchema.findings value = property.2.findings value)
    (entries : List (Text × Json)) :
    Json.memberFindings properties.jsonSchemaMembers entries =
      properties.memberFindings entries := by
  induction properties with
  | nil => rw [Schema.jsonSchemaMembers, Json.memberFindings, Schema.memberFindings]
  | cons property properties ih =>
    rw [Schema.jsonSchemaMembers, Json.memberFindings, Schema.memberFindings,
      ih fun other hother => h other (List.mem_cons_of_mem _ hother)]
    cases Json.member? entries property.1 with
    | none => rfl
    | some value =>
      simp only [h property List.mem_cons_self value]
      rfl

/-- Keyword by keyword, the JSON Schema of a shape finds exactly the problems of a value that should
have the shape. -/
theorem Shape.findings_jsonSchema (shape : Shape) (value : Json) :
    shape.jsonSchema.findings value = shape.findings value := by
  induction shape using Shape.rec' generalizing value with
  | primitive kind =>
    rw [jsonSchema, Json.findings, keywordFindings_type, Json.keywordFindings, List.append_nil,
      findings, jsonSchema]
    by_cases h : kind.hasValue value = true
    · rw [if_pos h, if_pos (Primitive.hasValue_iff.1 h)]
    · rw [if_neg h, if_neg (mt Primitive.hasValue_iff.2 h)]
  | array items ih =>
    rw [jsonSchema, Json.findings, keywordFindings_type]
    -- on a value of another type only the type is a problem: the other keywords ask for their own
    cases value with
    | array values =>
      rw [if_pos (by rfl), keywordFindings_items, Json.keywordFindings, findings]
      simp only [ih, List.nil_append, List.append_nil]
    | _ => rfl
  | object properties ih =>
    rw [jsonSchema, Json.findings, keywordFindings_type]
    cases value with
    | object entries =>
      rw [if_pos (by rfl), keywordFindings_properties, keywordFindings_required, ← jsonSchema,
        keywordFindings_additional, memberFindings_jsonSchemaMembers ih, findings,
        List.nil_append, List.append_assoc]
    | _ => rfl

/-! ## Property by property -/

/-- The problems inside a property that is present. -/
def findingsInside (entries : List (Text × Json)) (property : Text × Shape) : List Finding :=
  match Json.member? entries property.1 with
  | none => []
  | some value =>
      (property.2.findings value).map
        (Finding.under (.key property.1) [.key "properties".toList, .key property.1])

theorem Schema.memberFindings_eq_flatMap (properties : Schema) (entries : List (Text × Json)) :
    properties.memberFindings entries = properties.flatMap (findingsInside entries) := by
  induction properties with
  | nil => rfl
  | cons property properties ih => rw [memberFindings, ih, List.flatMap_cons, findingsInside]

/-! ## When there are no problems -/

theorem Schema.memberFindings_eq_nil_iff {properties : Schema} {entries : List (Text × Json)} :
    properties.memberFindings entries = [] ↔
      ∀ property ∈ properties, ∀ value, Json.member? entries property.1 = some value →
        property.2.findings value = [] := by
  induction properties with
  | nil => simp [memberFindings]
  | cons property properties ih =>
    rw [memberFindings, List.append_eq_nil_iff, ih, List.forall_mem_cons]
    apply and_congr_left'
    cases Json.member? entries property.1 with
    | none => simp
    | some value => simp

/-- No declared key is missing and no key is undeclared exactly when the keys are the declared
ones. -/
theorem Schema.keys_agree_iff {properties : Schema} {entries : List (Text × Json)} :
    (properties.filter (fun property => (Json.member? entries property.1).isNone) = [] ∧
        (entries.map Prod.fst).filter (fun key => (properties.lookup key).isNone) = []) ↔
      ∀ key, key ∈ entries.map Prod.fst ↔ key ∈ properties.keys := by
  -- both sides look a key up, and it is found exactly when it is there
  have hdeclared : ∀ key, (properties.lookup key).isSome ↔ key ∈ properties.keys :=
    fun key => lookup_isSome_iff_mem
  have hpresent : ∀ key, (Json.member? entries key).isSome ↔ key ∈ entries.map Prod.fst :=
    fun key => lookup_isSome_iff_mem
  simp only [List.filter_eq_nil_iff, Option.isNone_iff_eq_none, ← Option.isSome_iff_ne_none,
    hdeclared, hpresent]
  constructor
  · rintro ⟨hmissing, hundeclared⟩ key
    refine ⟨hundeclared key, fun hkey => ?_⟩
    obtain ⟨property, hproperty, rfl⟩ := List.mem_map.1 hkey
    exact hmissing property hproperty
  · intro h
    exact ⟨fun property hproperty => (h _).2 (List.mem_map_of_mem hproperty), fun key => (h key).1⟩

/-- There are no problems exactly when the shape admits the value. -/
theorem Shape.findings_eq_nil_iff {shape : Shape} {value : Json} :
    shape.findings value = [] ↔ shape.Admits value := by
  induction shape using Shape.rec' generalizing value with
  | primitive kind =>
    rw [findings]
    constructor
    · intro h
      apply Admits.primitive
      by_contra hvalue
      rw [if_neg hvalue] at h
      exact List.cons_ne_nil _ _ h
    · rintro ⟨hvalue⟩
      rw [if_pos hvalue]
  | array items ih =>
    cases value with
    | array values =>
      rw [findings, List.flatMap_eq_nil_iff]
      constructor
      · intro h
        apply Admits.array
        intro value hvalue
        obtain ⟨i, hi, rfl⟩ := List.getElem_of_mem hvalue
        have hplace : (values[i], i) ∈ values.zipIdx :=
          List.mem_zipIdx_iff_getElem?.2 (List.getElem?_eq_getElem hi)
        have hfound := h (values[i], i) hplace
        exact ih.1 (List.map_eq_nil_iff.1 hfound)
      · rintro (_ | h) ⟨value, i⟩ hfound
        exact List.map_eq_nil_iff.2 (ih.2 (h value (List.fst_mem_of_mem_zipIdx hfound)))
    | _ =>
      exact ⟨fun h => (List.cons_ne_nil _ _ h).elim, fun h => nomatch h⟩
  | object properties ih =>
    cases value with
    | object entries =>
      -- the third part is empty when the list of undeclared keys is
      have hundeclared : ∀ keys : List Text,
          (match keys with
            | [] => []
            | keys => [Finding.here (Shape.object properties).jsonSchema (.undeclared keys)]) = [] ↔
            keys = [] := by
        intro keys
        cases keys <;> simp
      rw [findings, List.append_eq_nil_iff, List.append_eq_nil_iff, and_assoc,
        Schema.memberFindings_eq_nil_iff, List.map_eq_nil_iff, hundeclared, Schema.keys_agree_iff]
      constructor
      · rintro ⟨hmembers, hkeys⟩
        apply Admits.object hkeys
        intro property hproperty value hvalue
        exact (ih property hproperty).1 (hmembers property hproperty value hvalue)
      · rintro (_ | _ | ⟨hkeys, hmembers⟩)
        refine ⟨fun property hproperty value hvalue => ?_, hkeys⟩
        exact (ih property hproperty).2 (hmembers property hproperty value hvalue)
    | _ =>
      exact ⟨fun h => (List.cons_ne_nil _ _ h).elim, fun h => nomatch h⟩

/-! ## The verdict on a document -/

/-- A document is reported on with the problems of its value. -/
theorem Schema.reports_judge (schema : Schema) (document : Json) :
    (schema.judge document).reports =
      ((Shape.object schema).findings document).map
        (fun finding => finding.violation.report document) := by
  rw [← Shape.findings_jsonSchema]
  exact List.map_map

/-- A text that can be read is reported on with exactly the problems of its value, each once and in
order. It is valid exactly when the schema admits the value, and it is handed on in that case
only. -/
theorem validate_reports_findings (schema : Schema) {text : Text} {document : Json}
    (hread : Json.read Json.documentDialect text = .ok document) :
    ∃ verdict, schema.validate text = .ok verdict ∧
      verdict.reports =
        ((Shape.object schema).findings document).map
          (fun finding => finding.violation.report document) ∧
      (verdict.isValid = true ↔ (Shape.object schema).Admits document) ∧
      ((Shape.object schema).Admits document → verdict.document = some document) ∧
      (¬ (Shape.object schema).Admits document → verdict.document = none) := by
  have hjudged : schema.validate text = .ok (schema.judge document) := by
    rw [Schema.validate, hread]
  have hreports := schema.reports_judge document
  have hvalid : (schema.judge document).isValid = true ↔
      (Shape.object schema).Admits document := by
    rw [Verdict.isValid, List.isEmpty_iff, hreports, List.map_eq_nil_iff, Shape.findings_eq_nil_iff]
  refine ⟨schema.judge document, hjudged, hreports, hvalid, fun hadmits => ?_, fun hadmits => ?_⟩
  · exact if_pos (hvalid.2 hadmits)
  · exact if_neg (mt hvalid.1 hadmits)

/-- A document with a problem of each kind, the two inner ones before those of the document
itself. -/
theorem validate_reports_each_kind :
    let schema : Schema :=
      [("a".toList, .primitive .string), ("b".toList, .array (.primitive .number)),
        ("o".toList, .object [("k".toList, .primitive .boolean)])]
    let text := "\x7b\"b\": [1, true], \"o\": \x7b\x7d, \"z\": null\x7d".toList
    ∃ document, Json.read Json.documentDialect text = .ok document ∧
      ∃ verdict, schema.validate text = .ok verdict ∧
        verdict.reports.map (fun report => (report.path, report.validator)) =
          [(".b.1".toList, "type".toList), (".o".toList, "required".toList),
            ("root".toList, "required".toList), ("root".toList, "additionalProperties".toList)] ∧
        ¬ (Shape.object schema).Admits document ∧ verdict.document = none := by
  intro schema text
  have hcheck : (match Json.read Json.documentDialect text with
      | .error _ => false
      | .ok document =>
          decide
            (((Shape.object schema).findings document).map
              (fun finding =>
                (Json.pathText finding.path, finding.problem.keyword)) =
              [(".b.1".toList, "type".toList), (".o".toList, "required".toList),
                ("root".toList, "required".toList),
                ("root".toList, "additionalProperties".toList)])) = true := by
    decide +kernel
  cases hread : Json.read Json.documentDialect text with
  | error =>
    rw [hread] at hcheck
    exact absurd hcheck Bool.false_ne_true
  | ok document =>
    rw [hread] at hcheck
    have hfound := of_decide_eq_true hcheck
    obtain ⟨verdict, hverdict, hreports, _, _, hnone⟩ := validate_reports_findings schema hread
    have hadmits : ¬ (Shape.object schema).Admits document := by
      rw [← Shape.findings_eq_nil_iff]
      intro hnil
      rw [hnil] at hfound
      exact List.cons_ne_nil _ _ hfound.symm
    refine ⟨document, rfl, verdict, hverdict, ?_, hadmits, hnone hadmits⟩
    rw [hreports, List.map_map]
    exact hfound

end DocShape
