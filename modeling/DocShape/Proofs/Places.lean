import DocShape.Proofs.Violations

/-!
# Where problems are

A problem is found at a place: following the path leads to a value of the document and, in the
schema, to the shape declared for it (`Shape.walk?`), and the problem is one of that value under
that shape (`Problem.Holds`). This is so for every problem that is found (`Shape.findings_grounded`).

What is found is found step by step: a problem of the value itself, or one of an item or of a
property, seen from further out (`Shape.Finds`). What is to be said of every finding is said along
these steps.

Relation: the problems of a value under a shape with distinct keys. Keys may be repeated in the
document; then the first member with a key is meant.
-/

set_option autoImplicit false

namespace DocShape

/-- The shape that is declared at the end of a path. -/
def Shape.walk? : Shape → List Json.Step → Option Shape
  | shape, [] => some shape
  | .array items, .index _ :: steps => items.walk? steps
  | .object properties, .key key :: steps =>
      (properties.lookup key).bind fun shape => shape.walk? steps
  | _, _ :: _ => none

/-- The problems of a value that should have a shape: its type is not the one of the shape, or it is
an object in which a declared key is missing, or certain keys are all those in it that are not
declared, and there are some. -/
inductive Problem.Holds : Shape → Json → Problem → Prop
  | wrongType {shape : Shape} {value : Json} :
      value.typeName ≠ shape.typeName → Holds shape value (.wrongType value shape.typeName)
  | missing {properties : Schema} {entries : List (Text × Json)} {key : Text} :
      key ∈ properties.keys → key ∉ entries.map Prod.fst →
        Holds (.object properties) (.object entries) (.missing key)
  | undeclared {properties : Schema} {entries : List (Text × Json)} {keys : List Text} :
      ((entries.map Prod.fst).filter fun key => key ∉ properties.keys) = keys → keys ≠ [] →
        Holds (.object properties) (.object entries) (.undeclared keys)

/-- A finding is grounded in a document if its path leads somewhere and the problem is there. -/
def Finding.Grounded (shape : Shape) (value : Json) (finding : Finding) : Prop :=
  ∃ shape' value', shape.walk? finding.path = some shape' ∧
    value.walk? finding.path = some value' ∧ finding.problem.Holds shape' value'

/-- A shape finds a problem of the value itself, or what the shape inside it finds in an item or in a
property, seen from the value. -/
inductive Shape.Finds : Shape → Json → Finding → Prop
  | here {shape : Shape} {value : Json} {problem : Problem} :
      problem.Holds shape value → Finds shape value (Finding.here shape.jsonSchema problem)
  | item {items : Shape} {values : List Json} {i : Nat} {value : Json} {finding : Finding} :
      values[i]? = some value → Finds items value finding →
        Finds (.array items) (.array values) (finding.under (.index i) [.key "items".toList])
  | member {properties : Schema} {entries : List (Text × Json)} {key : Text} {shape : Shape}
      {value : Json} {finding : Finding} :
      properties.lookup key = some shape → Json.member? entries key = some value →
        Finds shape value finding →
          Finds (.object properties) (.object entries)
            (finding.under (.key key) [.key "properties".toList, .key key])

/-! ## One part of an object at a time -/

theorem finds_of_mem_memberFindings {properties : Schema} (hnodup : properties.keys.Nodup)
    {entries : List (Text × Json)}
    (h : ∀ property ∈ properties, ∀ value, ∀ finding ∈ property.2.findings value,
      property.2.Finds value finding) {finding : Finding}
    (hfinding : finding ∈ properties.memberFindings entries) :
    (Shape.object properties).Finds (.object entries) finding := by
  rw [Schema.memberFindings_eq_flatMap] at hfinding
  obtain ⟨property, hproperty, hinside⟩ := List.mem_flatMap.1 hfinding
  rw [findingsInside] at hinside
  cases hmember : Json.member? entries property.1 with
  | none => simp [hmember] at hinside
  | some value =>
    simp only [hmember] at hinside
    obtain ⟨inner, hinner, rfl⟩ := List.mem_map.1 hinside
    -- keys are distinct, so the key leads to the shape that the value was checked against
    have hlookup := lookup_eq_some_of_mem hnodup hproperty
    exact .member hlookup hmember (h property hproperty value inner hinner)

theorem holds_missing {properties : Schema} {entries : List (Text × Json)}
    {property : Text × Shape}
    (h : property ∈ properties.filter fun (key, _) => (Json.member? entries key).isNone) :
    Problem.Holds (.object properties) (.object entries) (.missing property.1) := by
  obtain ⟨hproperty, hmissing⟩ := List.mem_filter.1 h
  have hnone : Json.member? entries property.1 = none := Option.isNone_iff_eq_none.1 hmissing
  refine .missing (List.mem_map_of_mem hproperty) fun hkey => ?_
  have hsome : (Json.member? entries property.1).isSome := lookup_isSome_iff_mem.2 hkey
  rw [hnone] at hsome
  exact Bool.false_ne_true hsome

theorem holds_undeclared {properties : Schema} {entries : List (Text × Json)}
    (h : ((entries.map Prod.fst).filter fun key => (properties.lookup key).isNone) ≠ []) :
    Problem.Holds (.object properties) (.object entries)
      (.undeclared ((entries.map Prod.fst).filter fun key => (properties.lookup key).isNone)) := by
  refine .undeclared ?_ h
  apply List.filter_congr
  intro key _
  have hdeclared : (properties.lookup key).isSome ↔ key ∈ properties.keys := lookup_isSome_iff_mem
  rw [← Option.not_isSome, decide_not, ← Bool.eq_iff_iff.2 (hdeclared.trans decide_eq_true_iff.symm)]

/-! ## Every problem -/

theorem Json.eq_array_of_typeName {value : Json} (h : value.typeName = "array".toList) :
    ∃ values, value = .array values := by
  cases value with
  | null => exact absurd (show "null".toList = "array".toList from h) (by decide)
  | bool b => exact absurd (show "boolean".toList = "array".toList from h) (by decide)
  | int i => exact absurd (show "number".toList = "array".toList from h) (by decide)
  | float x => exact absurd (show "number".toList = "array".toList from h) (by decide)
  | string text => exact absurd (show "string".toList = "array".toList from h) (by decide)
  | array values => exact ⟨values, rfl⟩
  | object entries => exact absurd (show "object".toList = "array".toList from h) (by decide)

theorem Json.eq_object_of_typeName {value : Json} (h : value.typeName = "object".toList) :
    ∃ entries, value = .object entries := by
  cases value with
  | null => exact absurd (show "null".toList = "object".toList from h) (by decide)
  | bool b => exact absurd (show "boolean".toList = "object".toList from h) (by decide)
  | int i => exact absurd (show "number".toList = "object".toList from h) (by decide)
  | float x => exact absurd (show "number".toList = "object".toList from h) (by decide)
  | string text => exact absurd (show "string".toList = "object".toList from h) (by decide)
  | array values => exact absurd (show "array".toList = "object".toList from h) (by decide)
  | object entries => exact ⟨entries, rfl⟩

/-- What is listed is found step by step. -/
theorem Shape.finds_of_mem_findings {shape : Shape} (hdistinct : shape.Distinct) {value : Json}
    {finding : Finding} (h : finding ∈ shape.findings value) : shape.Finds value finding := by
  induction shape using Shape.rec' generalizing value finding with
  | primitive kind =>
    rw [findings] at h
    split at h
    · cases h
    next hvalue =>
      rw [List.mem_singleton.1 h]
      exact .here (.wrongType (mt Primitive.hasValue_iff.2 hvalue))
  | array items ih =>
    cases value with
    | array values =>
      rw [findings] at h
      obtain ⟨⟨item, i⟩, hitem, hinside⟩ := List.mem_flatMap.1 h
      obtain ⟨inner, hinner, rfl⟩ := List.mem_map.1 hinside
      exact .item (List.mem_zipIdx_iff_getElem?.1 hitem) (ih hdistinct hinner)
    | _ =>
      simp only [findings, List.mem_singleton] at h
      rw [h]
      refine .here (.wrongType fun htype => ?_)
      obtain ⟨values, hvalues⟩ := Json.eq_array_of_typeName htype
      cases hvalues
  | object properties ih =>
    cases value with
    | object entries =>
      obtain ⟨hnodup, hinner⟩ := Schema.distinct_iff.1 hdistinct
      rw [findings, List.mem_append, List.mem_append] at h
      -- inside a property, about a missing key, or about the undeclared keys
      rcases h with (h | h) | h
      · refine finds_of_mem_memberFindings hnodup (fun property hproperty value finding => ?_) h
        exact ih property hproperty (hinner property hproperty)
      · obtain ⟨property, hproperty, rfl⟩ := List.mem_map.1 h
        exact .here (holds_missing hproperty)
      · cases hkeys : (entries.map Prod.fst).filter fun key => (properties.lookup key).isNone with
        | nil => simp [hkeys] at h
        | cons key keys =>
          simp only [hkeys, List.mem_singleton] at h
          rw [h, ← hkeys]
          exact .here (holds_undeclared (hkeys ▸ List.cons_ne_nil _ _))
    | _ =>
      simp only [findings, List.mem_singleton] at h
      rw [h]
      refine .here (.wrongType fun htype => ?_)
      obtain ⟨entries, hentries⟩ := Json.eq_object_of_typeName htype
      cases hentries

/-- Both walks take a step together: what is grounded in a part is grounded in the whole. -/
theorem Finding.Grounded.under {shape part : Shape} {value inner : Json} {step : Json.Step}
    {finding : Finding} (h : finding.Grounded part inner)
    (hshape : ∀ steps, shape.walk? (step :: steps) = part.walk? steps)
    (hvalue : value.step? step = some inner) (schemaSteps : List Json.Step) :
    (finding.under step schemaSteps).Grounded shape value := by
  obtain ⟨shape', value', hshape', hvalue', hholds⟩ := h
  refine ⟨shape', value', (hshape _).trans hshape', ?_, hholds⟩
  have hstep : value.walk? (step :: finding.path) = inner.walk? finding.path := by
    rw [Json.walk?, hvalue, Option.bind_some]
  exact hstep.trans hvalue'

theorem Shape.Finds.grounded {shape : Shape} {value : Json} {finding : Finding}
    (h : shape.Finds value finding) : finding.Grounded shape value := by
  induction h with
  | @here shape value problem hholds =>
    refine ⟨shape, value, ?_, rfl, hholds⟩
    rw [Finding.here, Shape.walk?]
  | @item items values i value finding hitem _ ih =>
    have hstep : (Json.array values).step? (.index i) = some value := hitem
    exact ih.under (fun steps => by rw [Shape.walk?]) hstep _
  | @member properties entries key shape value finding hlookup hmember _ ih =>
    have hstep : (Json.object entries).step? (.key key) = some value := hmember
    exact ih.under (fun steps => by rw [Shape.walk?, hlookup, Option.bind_some]) hstep _

/-- Every problem that is found is at its place. -/
theorem Shape.findings_grounded {shape : Shape} (hdistinct : shape.Distinct) {value : Json}
    {finding : Finding} (h : finding ∈ shape.findings value) : finding.Grounded shape value :=
  (finds_of_mem_findings hdistinct h).grounded

end DocShape
