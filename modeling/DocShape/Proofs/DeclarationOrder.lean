import DocShape.Proofs.Alike
import DocShape.Proofs.Violations

/-!
# The order of declaration

Schemas that differ in the order of their keys only are alike, and among schemas with distinct keys
that is an equivalence (`alike_equivalence`).

A document is checked in the order of declaration, so alike schemas find the same problems in
another order. What a finding tells is its problem and the two paths to it (`Finding.told`); the
part of the JSON Schema that it refers to is left aside, because the list of required keys in it is
in the order of declaration. Told so, the findings of alike shapes are permutations of each other
(`Shape.told_findings_perm`), at every level by the permutation that matches the properties.

Relation: `Schema.validate` with either schema on the same text, whatever document is read from it.
-/

set_option autoImplicit false

namespace DocShape

/-! ## Being alike is an equivalence -/

namespace Shape

theorem alike_symm {shape other : Shape} (hshape : shape.Distinct) (hother : other.Distinct)
    (h : shape.alike other = true) : other.alike shape = true := by
  induction shape using Shape.rec' generalizing other with
  | primitive kind =>
    cases other with
    | primitive kind' =>
      rw [alike, beq_iff_eq] at h ⊢
      exact h.symm
    | array items => simp [alike] at h
    | object properties => simp [alike] at h
  | array items ih =>
    cases other with
    | primitive kind => simp [alike] at h
    | array items' =>
      rw [Distinct] at hshape hother
      rw [alike] at h ⊢
      exact ih hshape hother h
    | object properties => simp [alike] at h
  | object properties ih =>
    cases other with
    | primitive kind => simp [alike] at h
    | array items => simp [alike] at h
    | object properties' =>
      obtain ⟨hnodup, hdistinct⟩ := Schema.distinct_iff.1 hshape
      obtain ⟨-, hdistinct'⟩ := Schema.distinct_iff.1 hother
      obtain ⟨matched, hperm, hmatched⟩ := Schema.exists_perm_of_alike h hnodup
      refine Schema.alike_iff.2 ⟨(Schema.alike_iff.1 h).1.symm, fun property' hproperty' => ?_⟩
      obtain ⟨property, hproperty, hkey, halike⟩ :=
        exists_of_mem_right hmatched (hperm.mem_iff.2 hproperty')
      refine ⟨property.2, ?_, ?_⟩
      · rw [← hkey]
        exact lookup_eq_some_of_mem hnodup hproperty
      · exact ih property hproperty (hdistinct property hproperty)
          (hdistinct' property' hproperty') halike

theorem alike_trans {shape middle other : Shape} (h : shape.alike middle = true)
    (h' : middle.alike other = true) : shape.alike other = true := by
  induction shape using Shape.rec' generalizing middle other with
  | primitive kind =>
    cases middle with
    | primitive kind' =>
      rw [alike, beq_iff_eq] at h
      exact h ▸ h'
    | array items => simp [alike] at h
    | object properties => simp [alike] at h
  | array items ih =>
    cases middle with
    | primitive kind => simp [alike] at h
    | array items' =>
      cases other with
      | primitive kind => simp [alike] at h'
      | array items'' =>
        rw [alike] at h h' ⊢
        exact ih h h'
      | object properties => simp [alike] at h'
    | object properties => simp [alike] at h
  | object properties ih =>
    cases middle with
    | primitive kind => simp [alike] at h
    | array items => simp [alike] at h
    | object properties' =>
      cases other with
      | primitive kind => simp [alike] at h'
      | array items => simp [alike] at h'
      | object properties'' =>
        obtain ⟨hlength, hfound⟩ := Schema.alike_iff.1 h
        obtain ⟨hlength', hfound'⟩ := Schema.alike_iff.1 h'
        refine Schema.alike_iff.2 ⟨hlength.trans hlength', fun property hproperty => ?_⟩
        -- the property is followed from the first schema through the second into the third
        obtain ⟨shape, hlookup, halike⟩ := hfound property hproperty
        obtain ⟨shape', hlookup', halike'⟩ :=
          hfound' (property.1, shape) (mem_of_lookup_eq_some hlookup)
        exact ⟨shape', hlookup', ih property hproperty halike halike'⟩

end Shape

/-- To differ in the order of keys only is an equivalence among the schemas with distinct keys. -/
theorem alike_equivalence :
    Equivalence fun schema other : { schema : Schema // schema.Distinct } =>
      schema.1.alike other.1 = true where
  refl schema := Shape.alike_self schema.2
  symm {schema other} h := Shape.alike_symm schema.2 other.2 h
  trans h h' := Shape.alike_trans h h'

/-! ## What a finding tells -/

/-- What a finding tells, whatever part of the JSON Schema it refers to. -/
def Finding.told (finding : Finding) : Problem × List Json.Step × List Json.Step :=
  (finding.problem, finding.path, finding.schemaPath)

/-- What a report tells apart from what was expected: the path, the message, the path in the JSON
Schema, the keyword and what was found. -/
def Report.told (report : Report) : Text × Text × Text × Text × Json :=
  (report.path, report.message, report.schemaPath, report.validator, report.actual)

/-- The same is told of findings that are seen from further out. -/
theorem told_under_perm {findings others : List Finding}
    (h : (findings.map Finding.told).Perm (others.map Finding.told)) (step : Json.Step)
    (schemaSteps : List Json.Step) :
    ((findings.map (Finding.under step schemaSteps)).map Finding.told).Perm
      ((others.map (Finding.under step schemaSteps)).map Finding.told) := by
  -- one more step around a finding is one more step around what it tells
  let further : Problem × List Json.Step × List Json.Step →
      Problem × List Json.Step × List Json.Step :=
    fun (problem, path, schemaPath) => (problem, step :: path, schemaSteps ++ schemaPath)
  have hfurther (findings : List Finding) :
      (findings.map (Finding.under step schemaSteps)).map Finding.told =
        (findings.map Finding.told).map further := by
    rw [List.map_map, List.map_map]
    rfl
  rw [hfurther, hfurther]
  exact h.map further

theorem flatMap_perm_of_forall₂ {α β γ : Type} {f : α → List γ} {g : β → List γ} {xs : List α}
    {ys : List β} (h : List.Forall₂ (fun x y => (f x).Perm (g y)) xs ys) :
    (xs.flatMap f).Perm (ys.flatMap g) := by
  induction h with
  | nil => exact .refl _
  | cons hfirst _ ih =>
    rw [List.flatMap_cons, List.flatMap_cons]
    exact hfirst.append ih

/-- Alike objects have the same keys, in another order. -/
theorem Schema.keys_perm_of_alike {schema other : Schema} (h : schema.alike other = true)
    (hnodup : schema.keys.Nodup) : schema.keys.Perm other.keys := by
  obtain ⟨matched, hperm, hmatched⟩ := exists_perm_of_alike h hnodup
  have hkeys : schema.keys = matched.keys := by
    have hfst := hmatched.imp (S := fun property property' => property.1 = property'.1)
      fun property property' hproperty => hproperty.1
    exact List.forall₂_eq_eq_eq ▸ List.forall₂_map_left_iff.2 (List.forall₂_map_right_iff.2 hfst)
  rw [hkeys]
  exact hperm.map Prod.fst

/-- The problems inside the properties of alike objects. -/
theorem told_memberFindings_perm {properties properties' : Schema}
    (h : Schema.alike properties properties' = true) (hnodup : (Schema.keys properties).Nodup)
    (entries : List (Text × Json))
    (hproperty : ∀ property ∈ properties, ∀ shape, property.2.alike shape = true → ∀ value,
      ((property.2.findings value).map Finding.told).Perm
        ((shape.findings value).map Finding.told)) :
    ((properties.memberFindings entries).map Finding.told).Perm
      ((properties'.memberFindings entries).map Finding.told) := by
  obtain ⟨matched, hperm, hmatched⟩ := Schema.exists_perm_of_alike h hnodup
  rw [Schema.memberFindings_eq_flatMap, Schema.memberFindings_eq_flatMap, List.map_flatMap,
    List.map_flatMap]
  refine (flatMap_perm_of_forall₂ ?_).trans (hperm.flatMap_right _)
  have hmembers := (List.forall₂_and_left properties matched).2 ⟨fun _ hp => hp, hmatched⟩
  refine hmembers.imp ?_
  rintro ⟨key, shape⟩ ⟨_, shape'⟩ ⟨hmem, rfl, halike⟩
  rw [findingsInside, findingsInside]
  cases Json.member? entries key with
  | none => exact .refl _
  | some value => exact told_under_perm (hproperty _ hmem shape' halike value) (.key key) _

/-- The declared keys that are missing. -/
theorem told_missing (schema : Json) (properties : Schema) (entries : List (Text × Json)) :
    ((properties.filter fun (key, _) => (Json.member? entries key).isNone).map fun (key, _) =>
        Finding.here schema (.missing key)).map Finding.told =
      (properties.keys.filter fun key => (Json.member? entries key).isNone).map fun key =>
        (.missing key, [], [.key "required".toList]) := by
  rw [Schema.keys, List.filter_map, List.map_map, List.map_map]
  rfl

/-- The keys that are not declared are the same if the declared ones are. -/
theorem undeclared_eq_of_perm {properties properties' : Schema}
    (h : properties.keys.Perm properties'.keys) (keys : List Text) :
    (keys.filter fun key => (properties.lookup key).isNone) =
      keys.filter fun key => (properties'.lookup key).isNone := by
  apply List.filter_congr
  intro key _
  have hdeclared : (properties.lookup key).isSome ↔ (properties'.lookup key).isSome :=
    lookup_isSome_iff_mem.trans (h.mem_iff.trans lookup_isSome_iff_mem.symm)
  rw [← Option.not_isSome, ← Option.not_isSome, Bool.eq_iff_iff.2 hdeclared]

/-- Alike shapes have the same problems with a value, in another order. -/
theorem Shape.told_findings_perm {shape other : Shape} (hdistinct : shape.Distinct)
    (h : shape.alike other = true) (value : Json) :
    ((shape.findings value).map Finding.told).Perm ((other.findings value).map Finding.told) := by
  induction shape using Shape.rec' generalizing other value with
  | primitive kind =>
    cases other with
    | primitive kind' =>
      rw [alike, beq_iff_eq] at h
      rw [h]
    | array items => simp [alike] at h
    | object properties => simp [alike] at h
  | array items ih =>
    cases other with
    | primitive kind => simp [alike] at h
    | array items' =>
      rw [Distinct] at hdistinct
      rw [alike] at h
      cases value with
      | array values =>
        rw [findings, findings, List.map_flatMap, List.map_flatMap]
        apply List.Perm.flatMap_left
        rintro ⟨item, i⟩ -
        exact told_under_perm (ih hdistinct h item) (.index i) _
      | _ => exact .refl _
    | object properties => simp [alike] at h
  | object properties ih =>
    cases other with
    | primitive kind => simp [alike] at h
    | array items => simp [alike] at h
    | object properties' =>
      cases value with
      | object entries =>
        obtain ⟨hnodup, hdistinct⟩ := Schema.distinct_iff.1 hdistinct
        have hkeys := Schema.keys_perm_of_alike h hnodup
        have hinside := told_memberFindings_perm h hnodup entries
          fun property hproperty shape halike value =>
            ih property hproperty (hdistinct property hproperty) halike value
        rw [findings, findings, List.map_append, List.map_append, List.map_append, List.map_append,
          told_missing, told_missing, undeclared_eq_of_perm hkeys]
        refine (hinside.append ((hkeys.filter _).map _)).append (.of_eq ?_)
        cases (entries.map Prod.fst).filter fun key => (properties'.lookup key).isNone <;> rfl
      | _ => exact .refl _

/-! ## The verdict on a document -/

/-- Reports on the same document tell the same if the findings behind them do. -/
theorem told_reports_perm {findings others : List Finding}
    (h : (findings.map Finding.told).Perm (others.map Finding.told)) (document : Json) :
    ((findings.map fun finding => finding.violation.report document).map Report.told).Perm
      ((others.map fun finding => finding.violation.report document).map Report.told) := by
  -- what a report tells is made of what the finding tells and the document
  let report : Problem × List Json.Step × List Json.Step → Text × Text × Text × Text × Json :=
    fun (problem, path, schemaPath) =>
      (Json.pathText path, problem.message, Json.pathText schemaPath, problem.keyword,
        document.follow path)
  have hreport (findings : List Finding) :
      (findings.map fun finding => finding.violation.report document).map Report.told =
        (findings.map Finding.told).map report := by
    rw [List.map_map, List.map_map]
    rfl
  rw [hreport, hreport]
  exact h.map report

theorem told_judge_perm {schema other : Schema} (hdistinct : schema.Distinct)
    (h : schema.alike other = true) (document : Json) :
    ((schema.judge document).reports.map Report.told).Perm
      ((other.judge document).reports.map Report.told) := by
  rw [Schema.reports_judge, Schema.reports_judge]
  exact told_reports_perm (Shape.told_findings_perm hdistinct h document) document

/-- **The order of declaration does not matter.** To differ in the order of keys only is an
equivalence among the schemas with distinct keys, and two schemas that do agree on every text:
neither can check it, for the same reason, or both say that it is valid or both that it is not, and
they tell the same, each in its order. -/
theorem validate_alike_perm :
    (Equivalence fun schema other : { schema : Schema // schema.Distinct } =>
      schema.1.alike other.1 = true) ∧
    ∀ schema other : Schema, schema.Distinct → other.Distinct → schema.alike other = true →
      ∀ text : Text,
        (∃ error, schema.validate text = .error error ∧ other.validate text = .error error) ∨
        ∃ verdict verdict', schema.validate text = .ok verdict ∧
          other.validate text = .ok verdict' ∧ verdict.isValid = verdict'.isValid ∧
          (verdict.reports.map Report.told).Perm (verdict'.reports.map Report.told) := by
  refine ⟨alike_equivalence, fun schema other hdistinct _ h text => ?_⟩
  cases hread : Json.read Json.documentDialect text with
  | ok document =>
    have hperm := told_judge_perm hdistinct h document
    refine .inr ⟨schema.judge document, other.judge document, ?_, ?_, ?_, hperm⟩
    · rw [Schema.validate, hread]
    · rw [Schema.validate, hread]
    · -- a list is empty exactly when what it tells is
      have hempty := hperm.isEmpty_eq
      rwa [List.isEmpty_map, List.isEmpty_map] at hempty
  | error halt =>
    -- the schema is not asked
    have hsame : schema.validate text = other.validate text := by
      rw [Schema.validate, Schema.validate, hread]
      cases halt <;> rfl
    rw [hsame]
    cases other.validate text with
    | error error => exact .inl ⟨error, rfl, rfl⟩
    | ok verdict => exact .inr ⟨verdict, verdict, rfl, rfl, rfl, .refl _⟩

/-- Two orders of declaration, also inside an array of objects. Four problems are found in two
orders. -/
theorem validate_alike_perm_nested :
    let schema : Schema :=
      [("a".toList, .primitive .string), ("o".toList,
        .array (.object [("p".toList, .primitive .number), ("q".toList, .primitive .boolean)]))]
    let other : Schema :=
      [("o".toList,
        .array (.object [("q".toList, .primitive .boolean), ("p".toList, .primitive .number)])),
        ("a".toList, .primitive .string)]
    let text := "\x7b\"a\": 1, \"o\": [\x7b\x7d], \"z\": 1\x7d".toList
    schema.Distinct ∧ other.Distinct ∧ schema.alike other = true ∧
      ∃ verdict verdict', schema.validate text = .ok verdict ∧ other.validate text = .ok verdict' ∧
        verdict.isValid = false ∧ verdict'.isValid = false ∧
        (verdict.reports.map Report.told).Perm (verdict'.reports.map Report.told) ∧
        verdict.reports.map Report.path ≠ verdict'.reports.map Report.path := by
  intro schema other text
  have hdistinct : schema.Distinct := by
    simp [schema, Schema.Distinct, Shape.Distinct, Schema.AllDistinct]
  have hdistinct' : other.Distinct := by
    simp [other, Schema.Distinct, Shape.Distinct, Schema.AllDistinct]
  have halike : schema.alike other = true := by decide
  have hcheck : (schema.validate text).toOption.any (fun verdict =>
      !verdict.isValid && (other.validate text).toOption.any fun verdict' =>
        decide (verdict.reports.map Report.path ≠ verdict'.reports.map Report.path)) = true := by
    decide +kernel
  refine ⟨hdistinct, hdistinct', halike, ?_⟩
  rcases validate_alike_perm.2 schema other hdistinct hdistinct' halike text with
    ⟨error, hschema, -⟩ | ⟨verdict, verdict', hschema, hother, hvalid, hperm⟩
  · rw [hschema] at hcheck
    exact absurd hcheck Bool.false_ne_true
  · rw [hschema, hother] at hcheck
    simp only [Except.toOption, Option.any_some, Bool.and_eq_true, Bool.not_eq_true',
      decide_eq_true_eq] at hcheck
    exact ⟨verdict, verdict', hschema, hother, hcheck.1, hvalid.symm.trans hcheck.1, hperm,
      hcheck.2⟩

end DocShape
