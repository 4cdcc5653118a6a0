import DocShape.Proofs.Places

/-!
# Reports point at what they report

A report has two paths, one into the document and one into the JSON Schema of the schema. They go side
by side: a step to an item is the keyword for items in the JSON Schema, and a step to a key is the
keyword for properties and then the key (`Json.Step.inSchema`). So a path that leads to a shape of
the schema leads, step by step, to the JSON Schema of that shape (`Shape.walk?_jsonSchema`), and the
last step of the second path is the keyword that is violated there (`Finding.Charted`).

From this it follows that both paths of every report can be walked without leaving the document or
the JSON Schema, and that they end at the two values that are reported
(`validate_points_at_reported`).

Relation: `Schema.validate` on the texts that can be read, for schemas with distinct keys. Both
paths are walked in the document that `Json.read` gives, in which U+FFFD stands for half of a
character that is escaped alone.
-/

set_option autoImplicit false

namespace DocShape

/-! ## Walks -/

namespace Json

theorem walk?_append (value : Json) (front back : List Step) :
    value.walk? (front ++ back) = (value.walk? front).bind fun inner => inner.walk? back := by
  induction front generalizing value with
  | nil => rfl
  | cons step front ih =>
    rw [List.cons_append, walk?, walk?, Option.bind_assoc]
    exact Option.bind_congr fun next _ => ih next

/-- Where every step is found, nothing stands in for a value. -/
theorem follow_eq_of_walk? {value found : Json} {steps : List Step}
    (h : value.walk? steps = some found) : value.follow steps = found := by
  induction steps generalizing value with
  | nil => exact Option.some.inj h
  | cons step steps ih =>
    obtain ⟨next, hnext, hrest⟩ := Option.bind_eq_some_iff.1 h
    rw [follow, hnext]
    exact ih hrest

/-- The steps in a JSON Schema that go along with a step in a document. -/
def Step.inSchema : Step → List Step
  | .key name => [.key "properties".toList, .key name]
  | .index _ => [.key "items".toList]

end Json

/-- A path that leads to a shape leads to its JSON Schema. -/
theorem Shape.walk?_jsonSchema {shape part : Shape} {path : List Json.Step}
    (h : shape.walk? path = some part) :
    shape.jsonSchema.walk? (path.flatMap Json.Step.inSchema) = some part.jsonSchema := by
  fun_induction Shape.walk? shape path with
  | case1 shape => rw [← Option.some.inj h, List.flatMap_nil, Json.walk?]
  | case2 items i steps ih =>
    have hitems : (Shape.array items).jsonSchema.step? (.key "items".toList) =
        some items.jsonSchema := by
      rw [jsonSchema]
      rfl
    rw [List.flatMap_cons, Json.Step.inSchema, List.singleton_append, Json.walk?, hitems,
      Option.bind_some]
    exact ih h
  | case3 properties key steps ih =>
    obtain ⟨shape, hlookup, hrest⟩ := Option.bind_eq_some_iff.1 h
    have hproperties : (Shape.object properties).jsonSchema.step? (.key "properties".toList) =
        some (.object (Schema.jsonSchemaMembers properties)) := by
      rw [jsonSchema]
      rfl
    have hdeclared : (Json.object (Schema.jsonSchemaMembers properties)).step? (.key key) =
        some shape.jsonSchema := by
      rw [Json.step?, Json.member?, Schema.lookup_jsonSchemaMembers, hlookup]
      rfl
    rw [List.flatMap_cons, Json.Step.inSchema, List.cons_append, List.singleton_append, Json.walk?,
      hproperties, Option.bind_some, Json.walk?, hdeclared, Option.bind_some]
    exact ih shape hrest
  | case4 => cases h

/-- The keyword that a problem violates stands in the JSON Schema of the shape. -/
theorem Problem.Holds.exists_argument {shape : Shape} {value : Json} {problem : Problem}
    (h : problem.Holds shape value) :
    ∃ argument, shape.jsonSchema.step? (.key problem.keyword) = some argument := by
  cases h with
  | wrongType _ => cases shape <;> exact ⟨_, rfl⟩
  | missing _ _ => exact ⟨_, rfl⟩
  | undeclared _ _ => exact ⟨_, rfl⟩

/-! ## Findings -/

/-- A finding is charted by a shape if its path leads to a part of the shape and its path in the JSON
Schema leads to the JSON Schema of that part and on to the keyword that is violated. -/
def Finding.Charted (shape : Shape) (finding : Finding) : Prop :=
  finding.schemaPath =
      finding.path.flatMap Json.Step.inSchema ++ [.key finding.problem.keyword] ∧
    ∃ part, shape.walk? finding.path = some part ∧ finding.fragment = part.jsonSchema

theorem Finding.Charted.under {shape part : Shape} {step : Json.Step} {finding : Finding}
    (h : finding.Charted part)
    (hshape : ∀ steps, shape.walk? (step :: steps) = part.walk? steps) :
    (finding.under step step.inSchema).Charted shape := by
  obtain ⟨hpath, inner, hinner, hfragment⟩ := h
  refine ⟨?_, inner, (hshape _).trans hinner, hfragment⟩
  have hsteps : step.inSchema ++ finding.schemaPath =
      (step :: finding.path).flatMap Json.Step.inSchema ++ [.key finding.problem.keyword] := by
    rw [hpath, List.flatMap_cons, List.append_assoc]
  exact hsteps

theorem Shape.Finds.charted {shape : Shape} {value : Json} {finding : Finding}
    (h : shape.Finds value finding) : finding.Charted shape := by
  induction h with
  | @here shape value problem _ =>
    refine ⟨rfl, shape, ?_, rfl⟩
    rw [Finding.here, walk?]
  | @item items values i value finding _ _ ih =>
    have hshape (steps : List Json.Step) :
        (Shape.array items).walk? (.index i :: steps) = items.walk? steps := by rw [walk?]
    exact ih.under hshape
  | @member properties entries key shape value finding hlookup _ _ ih =>
    have hshape (steps : List Json.Step) :
        (Shape.object properties).walk? (.key key :: steps) = shape.walk? steps := by
      rw [walk?, hlookup, Option.bind_some]
    exact ih.under hshape

/-! ## Reports -/

/-- **Reports point at what they report.** Every report on a text that can be read comes from a
violation whose paths it writes out. The path in the document can be walked to the end and ends at
the value that is reported as found. The path in the JSON Schema can be walked to the end as well,
ends at the value that is reported as expected, and its last step is the keyword that is named. -/
theorem validate_points_at_reported {schema : Schema} (hdistinct : schema.Distinct) {text : Text}
    {document : Json} (hread : Json.read Json.documentDialect text = .ok document) :
    ∃ verdict, schema.validate text = .ok verdict ∧
      verdict.reports =
        (schema.violations document).map (fun violation => violation.report document) ∧
      ∀ violation ∈ schema.violations document,
        let report := violation.report document
        report.path = Json.pathText violation.path ∧
          document.walk? violation.path = some report.actual ∧
          report.schemaPath = Json.pathText violation.schemaPath ∧
          schema.jsonSchema.walk? violation.schemaPath = some report.expected ∧
          violation.schemaPath.getLast? = some (.key report.validator) := by
  have hjudged : schema.validate text = .ok (schema.judge document) := by
    rw [Schema.validate, hread]
  refine ⟨schema.judge document, hjudged, rfl, fun violation hviolation => ?_⟩
  rw [Schema.violations, Schema.jsonSchema, Shape.findings_jsonSchema] at hviolation
  obtain ⟨finding, hfinding, rfl⟩ := List.mem_map.1 hviolation
  have hfinds := Shape.finds_of_mem_findings hdistinct hfinding
  obtain ⟨part, found, hpart, hfound, hholds⟩ := hfinds.grounded
  obtain ⟨hschemaPath, part', hpart', hfragment⟩ := hfinds.charted
  -- both descriptions of the finding speak of the same part of the schema
  obtain rfl : part = part' := Option.some.inj (hpart.symm.trans hpart')
  obtain ⟨argument, hargument⟩ := hholds.exists_argument
  have hexpected : (finding.violation.report document).expected = argument := by
    have hstep : finding.fragment.step? (.key finding.problem.keyword) = some argument :=
      hfragment ▸ hargument
    rw [Violation.report, Finding.violation, hstep]
    rfl
  refine ⟨rfl, ?_, rfl, ?_, ?_⟩
  · have hactual : (finding.violation.report document).actual = found :=
      Json.follow_eq_of_walk? hfound
    rw [hactual]
    exact hfound
  · have hwalk : (Shape.object schema).jsonSchema.walk? finding.schemaPath = some argument := by
      rw [hschemaPath, Json.walk?_append, Shape.walk?_jsonSchema hpart, Option.bind_some, Json.walk?,
        hargument]
      rfl
    rw [hexpected]
    exact hwalk
  · have hlast : finding.schemaPath.getLast? = some (.key finding.problem.keyword) := by
      rw [hschemaPath, List.getLast?_concat]
    exact hlast

/-- Reports on values inside the second item of an array, on that item, and on the document. -/
theorem validate_points_into_items :
    let schema : Schema :=
      [("a".toList, .array (.object
          [("b".toList, .primitive .number), ("c".toList, .array (.primitive .string))])),
        ("d".toList, .primitive .boolean)]
    let text := String.toList
      "\x7b\"a\": [\x7b\"b\": 1, \"c\": []\x7d, \x7b\"b\": true, \"c\": [\"x\", 2], \"e\": 0\x7d]\x7d"
    let told : List (List Text) :=
      [[".a.1.b", ".properties.a.items.properties.b.type", "number", "True"],
        [".a.1.c.1", ".properties.a.items.properties.c.items.type", "string", "2"],
        [".a.1", ".properties.a.items.additionalProperties", "False",
          "\x7b'b': True, 'c': ['x', 2], 'e': 0\x7d"],
        ["root", ".required", "['a', 'd']",
          "\x7b'a': [\x7b'b': 1, 'c': []\x7d, \x7b'b': True, 'c': ['x', 2], 'e': 0\x7d]\x7d"]].map
        fun texts => texts.map String.toList
    schema.Distinct ∧ ∃ document, Json.read Json.documentDialect text = .ok document ∧
      ((schema.violations document).map fun violation =>
        let report := violation.report document
        [report.path, report.schemaPath, report.expected.plain, report.actual.plain]) = told ∧
      ∀ violation ∈ schema.violations document,
        document.walk? violation.path = some (violation.report document).actual ∧
          schema.jsonSchema.walk? violation.schemaPath =
            some (violation.report document).expected := by
  intro schema text told
  have hdistinct : schema.Distinct := by
    simp [schema, Schema.Distinct, Shape.Distinct, Schema.AllDistinct]
  have hcheck : (Json.read Json.documentDialect text).toOption.any (fun document => decide
      (((schema.violations document).map fun violation =>
        let report := violation.report document
        [report.path, report.schemaPath, report.expected.plain, report.actual.plain]) = told)) =
      true := by
    decide +kernel
  obtain ⟨document, hdocument, htold⟩ := (Option.any_eq_true _ _).1 hcheck
  have hread : Json.read Json.documentDialect text = .ok document := by
    cases hparse : Json.read Json.documentDialect text with
    | error fault => simp [hparse, Except.toOption] at hdocument
    | ok found => simpa [hparse, Except.toOption] using hdocument
  obtain ⟨_, -, -, hpoints⟩ := validate_points_at_reported hdistinct hread
  refine ⟨hdistinct, document, hread, of_decide_eq_true htold, fun violation hviolation => ?_⟩
  obtain ⟨-, hactual, -, hexpected, -⟩ := hpoints violation hviolation
  exact ⟨hactual, hexpected⟩

end DocShape
