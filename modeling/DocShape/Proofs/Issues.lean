import DocShape.Proofs.Doubles
import DocShape.Proofs.Places
import DocShape.Proofs.Records

/-!
# Records take what the schema admits

A document can be checked in two ways: against the JSON Schema of a schema, and by taking a record
of it. Both find the same. Each problem amounts to issues at its place (`Finding.issues`): a wrong
type to one issue there, a missing key to one issue at the key, the undeclared keys of an object to
one issue at each of them. A record lists the
issues of all problems and no others, in an order of its own (`Shape.take_fieldType`): it goes
through the fields once, where the check looks for missing keys when it is through with the
properties that are present.

What is listed is said of an answer as a whole (`Taken.Lists`), so that it can be put together the
way the answer is.

Relation: record types that can be built, on documents whose whole numbers are within the range of
doubles.
-/

set_option autoImplicit false

namespace DocShape

open Record (Issue Mismatch)

/-! ## Problems as issues -/

/-- What is wrong with a value that should have the type with the given name. -/
def Record.Mismatch.ofTypeName (expected : Text) : Mismatch :=
  match Primitive.ofName? expected with
  | some .string => .notAText
  | some .number => .notANumber
  | some .boolean => .notABoolean
  | none => if expected = "array".toList then .notAList else .notARecord

/-- The issues a problem amounts to. -/
def Finding.issues (finding : Finding) : List Issue :=
  match finding.problem with
  | .wrongType _ expected => [⟨.ofTypeName expected, finding.path⟩]
  | .missing key => [⟨.missing, finding.path ++ [.key key]⟩]
  | .undeclared keys => keys.map fun key => ⟨.undeclared, finding.path ++ [.key key]⟩

theorem Finding.issues_under (step : Json.Step) (schemaSteps : List Json.Step)
    (finding : Finding) :
    (finding.under step schemaSteps).issues = finding.issues.map (Issue.under step) := by
  obtain ⟨problem, path, schemaPath, fragment⟩ := finding
  cases problem with
  | wrongType value expected => rfl
  | missing key => rfl
  | undeclared keys =>
    rw [issues, issues, List.map_map]
    rfl

/-- A problem that is there amounts to some issue. -/
theorem Finding.Grounded.issues_ne_nil {shape : Shape} {value : Json} {finding : Finding}
    (h : finding.Grounded shape value) : finding.issues ≠ [] := by
  obtain ⟨problem, path, schemaPath, fragment⟩ := finding
  obtain ⟨_, _, -, -, hholds⟩ := h
  cases hholds with
  | wrongType _ => exact List.cons_ne_nil _ _
  | missing _ _ => exact List.cons_ne_nil _ _
  | undeclared _ hkeys => exact mt List.map_eq_nil_iff.1 hkeys

/-- The issues of findings that are seen from further out. -/
theorem issues_under (step : Json.Step) (schemaSteps : List Json.Step) (findings : List Finding) :
    (findings.map (Finding.under step schemaSteps)).flatMap Finding.issues =
      (findings.flatMap Finding.issues).map (Issue.under step) := by
  rw [List.flatMap_map, List.map_flatMap]
  simp only [Finding.issues_under]

/-! ## What an answer lists -/

namespace Taken

variable {α β γ : Type}

/-- An answer lists certain issues, in some order. Where there are none, something is taken. -/
def Lists (taken : Taken α) (issues : List Issue) : Prop :=
  match taken with
  | .ok _ => issues = []
  | .error found => found ≠ [] ∧ found.Perm issues

theorem Lists.perm {taken : Taken α} {issues others : List Issue} (h : taken.Lists issues)
    (hperm : issues.Perm others) : taken.Lists others := by
  cases taken with
  | ok a =>
    rw [Lists] at h
    subst h
    exact hperm.symm.eq_nil
  | error found => exact ⟨h.1, h.2.trans hperm⟩

theorem lists_fail (mismatch : Mismatch) : (fail mismatch : Taken α).Lists [⟨mismatch, []⟩] :=
  ⟨List.cons_ne_nil _ _, .refl _⟩

theorem Lists.map {taken : Taken α} {issues : List Issue} (h : taken.Lists issues) (f : α → β) :
    Lists (Except.map f taken) issues := by
  cases taken with
  | ok a => exact h
  | error found => exact h

theorem Lists.under {taken : Taken α} {issues : List Issue} (h : taken.Lists issues)
    (step : Json.Step) : (taken.under step).Lists (issues.map (Issue.under step)) := by
  cases taken with
  | ok a =>
    rw [Lists] at h
    subst h
    rfl
  | error found => exact ⟨mt List.map_eq_nil_iff.1 h.1, h.2.map _⟩

/-- Two parts list what the one lists and what the other lists. -/
theorem Lists.both {f : α → β → γ} {taken : Taken α} {taken' : Taken β}
    {issues issues' : List Issue} (h : taken.Lists issues) (h' : taken'.Lists issues') :
    (both f taken taken').Lists (issues ++ issues') := by
  cases taken with
  | ok a =>
    rw [Lists] at h
    subst h
    cases taken' with
    | ok b => exact h'
    | error found => exact h'
  | error found =>
    cases taken' with
    | ok b =>
      rw [Lists] at h'
      subst h'
      rw [List.append_nil]
      exact h
    | error found' => exact ⟨mt List.append_eq_nil_iff.1 fun hnil => h.1 hnil.1, h.2.append h'.2⟩

/-- Something is taken exactly when no issue is listed. -/
theorem Lists.exists_ok_iff {taken : Taken α} {issues : List Issue} (h : taken.Lists issues) :
    (∃ a, taken = .ok a) ↔ issues = [] := by
  cases taken with
  | ok a => exact ⟨fun _ => h, fun _ => ⟨a, rfl⟩⟩
  | error found =>
    constructor
    · rintro ⟨a, ha⟩
      cases ha
    · intro hnil
      exact absurd (hnil ▸ h.2).eq_nil h.1

end Taken

/-! ## Lists and records -/

/-- The items of a list are counted, and what is wrong with one is listed at its place. -/
theorem takeItems_lists {item : Json → Taken FieldValue} {found : Json → List Issue}
    {values : List Json} (h : ∀ value ∈ values, (item value).Lists (found value)) (start : Nat) :
    (takeItems item start values).Lists
      ((values.zipIdx start).flatMap fun (value, i) =>
        (found value).map (Issue.under (.index i))) := by
  induction values generalizing start with
  | nil => rfl
  | cons value values ih =>
    rw [takeItems, List.zipIdx_cons, List.flatMap_cons]
    have hfirst := (h value List.mem_cons_self).under (.index start)
    exact hfirst.both (ih (fun other hother => h other (List.mem_cons_of_mem _ hother)) (start + 1))

/-- The issues of the keys that are missing. -/
def missingIssues (keys : List Text) (entries : List (Text × Json)) : List Issue :=
  (keys.filter fun key => (Json.member? entries key).isNone).map fun key => ⟨.missing, [.key key]⟩

theorem issues_missing (schema : Json) (properties : Schema) (entries : List (Text × Json)) :
    ((properties.filter fun (key, _) => (Json.member? entries key).isNone).map fun (key, _) =>
        Finding.here schema (.missing key)).flatMap Finding.issues =
      missingIssues properties.keys entries := by
  rw [missingIssues, Schema.keys, List.filter_map, List.map_map, List.flatMap_map]
  exact List.map_eq_flatMap.symm

/-- Field by field, the missing keys are listed among the issues inside the fields that are
present. -/
theorem takeFields_lists {name : Text} {taken : List Text} {properties : Schema}
    {entries : List (Text × Json)}
    (h : ∀ property ∈ properties, ∀ name value, Json.member? entries property.1 = some value →
      ((property.2.fieldType name).take value).Lists
        ((property.2.findings value).flatMap Finding.issues)) :
    (takeFields (properties.fieldsFrom name taken) entries).Lists
      ((properties.memberFindings entries).flatMap Finding.issues ++
        missingIssues properties.keys entries) := by
  induction properties generalizing taken with
  | nil => rfl
  | cons property properties ih =>
    obtain ⟨key, shape⟩ := property
    have hrest (taken : List Text) := @ih taken fun other hother =>
      h other (List.mem_cons_of_mem _ hother)
    have hkeys : Schema.keys ((key, shape) :: properties) = key :: Schema.keys properties := rfl
    rw [Schema.fieldsFrom, takeFields, Schema.memberFindings, hkeys, missingIssues]
    cases hmember : Json.member? entries key with
    | none =>
      rw [List.filter_cons_of_pos (by rw [hmember]; rfl), List.nil_append]
      -- this key comes first among the missing ones, behind the issues of other fields
      have hfirst := (Taken.lists_fail (α := FieldValue) .missing).under (.key key)
      exact (hfirst.both (hrest _)).perm (List.perm_append_comm_assoc _ _ _)
    | some value =>
      rw [List.filter_cons_of_neg (by rw [hmember]; exact Bool.false_ne_true),
        List.flatMap_append, issues_under, List.append_assoc]
      have hfirst := h (key, shape) List.mem_cons_self (name ++ Record.typeName key) value hmember
      exact (hfirst.under (.key key)).both (hrest _)

/-- The keys without a field are the undeclared ones. -/
theorem refuseUndeclared_lists (properties : Schema) (entries : List (Text × Json)) :
    (refuseUndeclared properties.keys entries).Lists
      (((entries.map Prod.fst).filter fun key => (properties.lookup key).isNone).map fun key =>
        ⟨.undeclared, [.key key]⟩) := by
  have hkeys : ((entries.map Prod.fst).filter fun key => !properties.keys.contains key) =
      (entries.map Prod.fst).filter fun key => (properties.lookup key).isNone := by
    apply List.filter_congr
    intro key _
    have hdeclared : (properties.lookup key).isSome ↔ properties.keys.contains key :=
      lookup_isSome_iff_mem.trans List.contains_iff_mem.symm
    rw [← Option.not_isSome, Bool.eq_iff_iff.2 hdeclared]
  rw [refuseUndeclared, hkeys]
  cases (entries.map Prod.fst).filter fun key => (properties.lookup key).isNone with
  | nil => rfl
  | cons key keys => exact ⟨List.cons_ne_nil _ _, .refl _⟩

/-- A primitive value is taken exactly when it has the kind. -/
theorem Primitive.take_lists (kind : Primitive) {value : Json} (hrange : value.InRange) :
    (kind.take value).Lists
      (((Shape.primitive kind).findings value).flatMap Finding.issues) := by
  cases kind with
  | string => cases value <;> first | rfl | exact Taken.lists_fail .notAText
  | number =>
    cases value with
    | int i =>
      -- the only numbers that would be refused are too great for a double
      have hfinite : (Binary64.ofInt i).isFinite = true :=
        Binary64.isFinite_ofInt (hrange i List.mem_cons_self)
      obtain ⟨negative, mantissa, exponent, hdouble⟩ := Binary64.exists_finite hfinite
      rw [take, hdouble]
      rfl
    | float x => rfl
    | _ => exact Taken.lists_fail .notANumber
  | boolean => cases value <;> first | rfl | exact Taken.lists_fail .notABoolean

/-- A record type takes a document apart with exactly the issues of the problems that are found in
it, whatever the names of the records. -/
theorem Shape.take_fieldType (shape : Shape) (name : Text) {value : Json}
    (hrange : value.InRange) :
    ((shape.fieldType name).take value).Lists
      ((shape.findings value).flatMap Finding.issues) := by
  induction shape using Shape.rec' generalizing name value with
  | primitive kind =>
    rw [fieldType, FieldType.take]
    exact kind.take_lists hrange
  | array items ih =>
    rw [fieldType]
    cases value with
    | array values =>
      have hitems := takeItems_lists (fun value hvalue => ih name (hrange.item hvalue)) 0
      rw [FieldType.take, findings, List.flatMap_assoc]
      simp only [issues_under]
      exact hitems.map FieldValue.list
    | _ => exact Taken.lists_fail .notAList
  | object properties ih =>
    rw [fieldType]
    cases value with
    | object entries =>
      have hfields : (takeFields (Schema.fieldsFrom name [] properties) entries).Lists _ :=
        takeFields_lists fun property hproperty name value hvalue =>
          ih property hproperty name (hrange.member hvalue)
      -- the keys that are refused are those without a field
      have hkeys : ((Schema.fieldsFrom name [] properties).map fun field => field.1.key) =
          Schema.keys properties := Schema.keys_fieldsFrom name [] properties
      rw [FieldType.take, hkeys, findings, List.flatMap_append, List.flatMap_append]
      refine (hfields.both (refuseUndeclared_lists properties entries)).perm (.of_eq ?_)
      rw [issues_missing]
      congr 1
      cases (entries.map Prod.fst).filter fun key => (properties.lookup key).isNone with
      | nil => rfl
      | cons key keys => exact (List.append_nil _).symm
    | _ => exact Taken.lists_fail .notARecord

/-! ## The two checks -/

/-- **The record and the check find the same.** A record type can be built exactly when no key in the
schema is the name kept for settings and its own name has no null character. What a record that can
be built lists are the issues of the problems that are reported, all of them and no others, and each
problem is there: the keys of one that is about undeclared keys are the undeclared keys of the object
at its path, at least one. So a record is taken exactly when the document is valid. -/
theorem record_lists_findings {schema : Schema} (hdistinct : schema.Distinct) (name : Text) :
    ((∃ type, schema.buildRecord name = .ok type) ↔
      '\x00' ∉ name ∧ ∀ object ∈ schema.objects, Record.settingsName ∉ object.keys) ∧
    ∀ type, schema.buildRecord name = .ok type → ∀ document : Json, document.InRange →
      let findings := schema.jsonSchema.findings document
      (schema.judge document).reports =
          findings.map (fun finding => finding.violation.report document) ∧
        (type.take document).Lists (findings.flatMap Finding.issues) ∧
        (∀ finding ∈ findings, finding.Grounded (.object schema) document) ∧
        ((∃ record, type.take document = .ok record) ↔ (schema.judge document).isValid = true) ∧
        ∀ text, Json.read Json.documentDialect text = .ok document →
          schema.validate text = .ok (schema.judge document) := by
  refine ⟨Schema.exists_buildRecord_iff, fun type htype document hrange => ?_⟩
  intro findings
  have hfindings : findings = (Shape.object schema).findings document :=
    Shape.findings_jsonSchema (.object schema) document
  have hreports := schema.reports_judge document
  rw [← hfindings] at hreports
  have hlists : (type.take document).Lists (findings.flatMap Finding.issues) := by
    have htake := Shape.take_fieldType (.object schema) name hrange
    rw [hfindings, ← (Schema.buildRecord_eq_ok_iff.1 htype).2]
    rwa [Shape.fieldType] at htake
  have hgrounded : ∀ finding ∈ findings, finding.Grounded (.object schema) document :=
    fun finding hfinding => Shape.findings_grounded hdistinct (hfindings ▸ hfinding)
  refine ⟨hreports, hlists, hgrounded, ?_, fun text hread => ?_⟩
  · rw [hlists.exists_ok_iff, Verdict.isValid, List.isEmpty_iff, hreports, List.map_eq_nil_iff,
      List.flatMap_eq_nil_iff]
    constructor
    · intro h
      rw [List.eq_nil_iff_forall_not_mem]
      exact fun finding hfinding => (hgrounded finding hfinding).issues_ne_nil (h finding hfinding)
    · intro h finding hfinding
      rw [h] at hfinding
      cases hfinding
  · rw [Schema.validate, hread]

/-- Two keys that make the same name, and a document with issues of every kind: the undeclared keys of
an object are two issues and one report. With the key that is kept for settings there is no record,
although a document with that key is valid. -/
theorem record_lists_findings_each_kind :
    let schema : Schema :=
      [("a-b".toList, .primitive .string),
        ("a b".toList, .array (.object [("k".toList, .primitive .number)])),
        ("c".toList, .primitive .boolean)]
    let items : Json :=
      .array [.object [("x".toList, .null), ("k".toList, .bool true), ("y".toList, .null)], .null]
    let document : Json := .object [("a-b".toList, .int 1), ("a b".toList, items)]
    let list : Json.Step := .key "a b".toList
    let unbuilt : Schema := [("Config".toList, .primitive .string)]
    schema.Distinct ∧ document.InRange ∧
      ∃ type, schema.buildRecord "Schema".toList = .ok type ∧
        (type.take document).Lists
          [⟨.notAText, [.key "a-b".toList]⟩,
            ⟨.notANumber, [list, .index 0, .key "k".toList]⟩,
            ⟨.undeclared, [list, .index 0, .key "x".toList]⟩,
            ⟨.undeclared, [list, .index 0, .key "y".toList]⟩,
            ⟨.notARecord, [list, .index 1]⟩,
            ⟨.missing, [.key "c".toList]⟩] ∧
        (schema.judge document).reports.map (fun report => (report.path, report.validator)) =
          [(".a-b".toList, "type".toList), (".a b.0.k".toList, "type".toList),
            (".a b.0".toList, "additionalProperties".toList), (".a b.1".toList, "type".toList),
            ("root".toList, "required".toList)] ∧
        (¬ ∃ record, type.take document = .ok record) ∧
        (¬ ∃ type, unbuilt.buildRecord "Schema".toList = .ok type) ∧
        (unbuilt.judge (.object [("Config".toList, Json.ofString "x")])).isValid = true := by
  intro schema items document list unbuilt
  have hdistinct : schema.Distinct := by
    simp [schema, Schema.Distinct, Shape.Distinct, Schema.AllDistinct]
  have hrange : document.InRange := by decide +kernel
  obtain ⟨hbuilt, hagree⟩ := record_lists_findings hdistinct "Schema".toList
  obtain ⟨type, htype⟩ := hbuilt.2 (by decide)
  obtain ⟨-, hlists, -, htaken, -⟩ := hagree type htype document hrange
  have hreports : (schema.judge document).reports.map (fun report =>
      (report.path, report.validator)) =
      [(".a-b".toList, "type".toList), (".a b.0.k".toList, "type".toList),
        (".a b.0".toList, "additionalProperties".toList), (".a b.1".toList, "type".toList),
        ("root".toList, "required".toList)] := by
    decide +kernel
  have hnone : ¬ ∃ record, type.take document = .ok record := by
    rw [htaken, Verdict.isValid, List.isEmpty_iff]
    intro hnil
    rw [hnil] at hreports
    cases hreports
  have hunbuilt : ¬ ∃ type, unbuilt.buildRecord "Schema".toList = .ok type := by
    have hdistinct' : unbuilt.Distinct := by
      simp [unbuilt, Schema.Distinct, Shape.Distinct, Schema.AllDistinct]
    rw [(record_lists_findings hdistinct' "Schema".toList).1]
    decide
  exact ⟨hdistinct, hrange, type, htype, hlists.perm (.of_eq (by decide +kernel)), hreports, hnone,
    hunbuilt, by decide +kernel⟩

end DocShape
