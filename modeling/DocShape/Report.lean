import DocShape.Violation

/-!
# Reports on documents

A report tells one violation to a person: where it is, what is wrong, what was expected and what was
found. A text that is not JSON at all is reported the same way. This module checks a document given
as text and writes reports out.

Scope: documents as `Json.read` gives them, with U+FFFD for half of a character that is escaped
alone. Keys that differ in such halves only are one key to the check.
-/

set_option autoImplicit false

namespace DocShape

/-- One violation, told to a person. -/
structure Report where
  path : Text
  message : Text
  schemaPath : Text
  validator : Text
  expected : Json
  actual : Json

/-- The report on a violation by a document. What was expected is the value of the keyword in the
part of the schema that is violated. -/
def Violation.report (violation : Violation) (document : Json) : Report :=
  { path := Json.pathText violation.path
    message := violation.message
    schemaPath := Json.pathText violation.schemaPath
    validator := violation.keyword
    expected :=
      (violation.fragment.step? (.key violation.keyword)).getD (Json.ofString "see schema")
    actual := document.follow violation.path }

namespace Report

/-- The report on a text that is not JSON. -/
def invalidText (fault : Json.Fault) (position : Nat) : Report :=
  { path := []
    message := "Invalid JSON: ".toList ++ fault.message
    schemaPath := []
    validator := "json".toList
    expected := Json.ofString "valid JSON"
    actual := .string ("parse error at position ".toList ++ Text.ofNat position) }

/-- The report on several lines under a heading. -/
def inContext (report : Report) : Text :=
  Text.joinWith ['\n'] <|
    ["❌ Validation Error at ".toList ++ report.path,
     "   Problem: ".toList ++ report.message,
     "   Expected: ".toList ++ report.expected.plain,
     "   Got: ".toList ++ report.actual.plain] ++
    if report.validator.isEmpty then [] else ["   Validator: ".toList ++ report.validator]

/-- How the violation may be mended. -/
def suggestion (report : Report) : Text :=
  if report.validator = "required".toList then
    "Add the missing field to the object at ".toList ++ report.path
  else if report.validator = "type".toList then
    "Change ".toList ++ report.path ++ " to type ".toList ++ report.expected.plain
  else if report.validator = "additionalProperties".toList then
    "Remove fields not declared in the schema from ".toList ++ report.path
  else if report.validator = "json".toList then "Fix the JSON syntax".toList
  else "Check the schema requirements".toList

/-- The lines of reports with their numbers. -/
def numbered : (number : Nat) → List Report → List Text
  | _, [] => []
  | number, report :: reports =>
      ("\n  ".toList ++ Text.ofNat number ++ ". At ".toList ++ report.path ++ ": ".toList ++
          report.message) ::
        ("     Expected: ".toList ++ report.expected.plain) ::
        ("     Got: ".toList ++ report.actual.plain) :: numbered (number + 1) reports

/-- The reports as a numbered list under a heading. -/
def listing (reports : List Report) : Text :=
  if reports.isEmpty then "No validation errors".toList
  else
    Text.joinWith ['\n'] <|
      ("Validation failed with ".toList ++ Text.ofNat reports.length ++ " error(s):".toList) ::
        numbered 1 reports

end Report

/-- The outcome of checking a document. -/
structure Verdict where
  reports : List Report
  /-- The document, if there is nothing to report. -/
  document : Option Json

/-- Whether there is nothing to report. -/
def Verdict.isValid (verdict : Verdict) : Bool := verdict.reports.isEmpty

/-- Why a document cannot be checked at all. -/
inductive CheckError where
  | tooDeep (container : Json.Container)
  | tooManyDigits (count : Nat)
deriving DecidableEq

/-- The message for a document that cannot be checked. -/
def CheckError.message : CheckError → Text
  | .tooDeep container => Json.tooDeepMessage container
  | .tooManyDigits count => Json.tooManyDigitsMessage Json.documentDialect count

/-- The verdict on a document. -/
def Schema.judge (schema : Schema) (document : Json) : Verdict :=
  let reports := (schema.violations document).map fun violation => violation.report document
  { reports, document := if reports.isEmpty then some document else none }

/-- Checks a document given as JSON text. -/
def Schema.validate (schema : Schema) (text : Text) : Except CheckError Verdict :=
  match Json.read Json.documentDialect text with
  | .ok document => .ok (schema.judge document)
  | .error (.invalid fault position) =>
      .ok { reports := [.invalidText fault position], document := none }
  | .error (.tooDeep container) => .error (.tooDeep container)
  | .error (.tooManyDigits count) => .error (.tooManyDigits count)

end DocShape
