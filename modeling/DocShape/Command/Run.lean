import DocShape.Command.Request
import DocShape.Log
import DocShape.Screen.Show
import DocShape.Shape.Pattern

/-!
# Answers to requests

Each request is answered by lines for the screen and an exit status: zero when all went well, one
when a schema, a document or an option's value is refused, two when the command line itself is.
-/

set_option autoImplicit false

namespace DocShape.Command

/-- What a command leaves: lines on the screen and an exit status. -/
structure Output where
  status : Nat
  lines : List Text

/-- The name of the program. -/
def programName : Text := "compact-schema".toList

/-- The version of the program. -/
def version : Text := "0.1.0".toList

/-- How the program is used. -/
def helpLines : List Text :=
  ["Usage: compact-schema [--version] [--verbose] COMMAND [ARGS]...",
   "",
   "Commands:",
   "  parse     [SCHEMA] [--file PATH] [--format FORMAT] [--duplicate-keys POLICY]",
   "  validate  [SCHEMA] --json PATH [--file PATH] [--duplicate-keys POLICY] [--show-schema]",
   "",
   "Formats: tree, json-schema, notation, regex.  Policies: last, first, error."].map String.toList

/-- The formats a schema can be shown in. -/
inductive OutputFormat where
  | tree
  | jsonSchema
  | compact
  | regex
deriving DecidableEq

namespace OutputFormat

/-- The formats in the order in which messages list them. -/
def all : List OutputFormat := [.tree, .jsonSchema, .compact, .regex]

/-- The name of a format. -/
def name : OutputFormat → Text
  | .tree => "tree".toList
  | .jsonSchema => "json-schema".toList
  | .compact => "notation".toList
  | .regex => "regex".toList

/-- The format with a given name. -/
def ofName? (text : Text) : Option OutputFormat := all.find? fun format => format.name = text

/-- The message for a name no format has. -/
def unknownMessage (text : Text) : Text :=
  "Unknown format: ".toList ++ text ++ " (expected one of: ".toList ++
    Text.joinWith ", ".toList (all.map name) ++ ")".toList

/-- A schema in a format. -/
def lines (schema : Schema) : OutputFormat → List Text
  | .tree => Screen.schemaTree Screen.treeTitle schema
  | .jsonSchema => Screen.json none schema.jsonSchema
  | .compact => Screen.verbatim schema.written
  | .regex => Screen.verbatim (schema.pattern true)

end OutputFormat

/-- The schema text a source leads to. -/
def SchemaSource.load (files : Files) (source : SchemaSource) : Except LoadError Text :=
  match source.inline, source.file with
  | some inline, none => .ok inline
  | none, some path =>
      match files.look path with
      | .absent => .error (.noSchemaFile path)
      | .tooLong => .error (.nameTooLong path)
      | .found entry => entry.text path
  | _, _ => .error .notOneSource

/-- The lines of a message that a command has failed. -/
def failed (message : Text) : List Text := Screen.error ("Command failed: ".toList ++ message)

/-- The answer to a request to parse. -/
def ParseRequest.run (files : Files) (request : ParseRequest) : Output :=
  match request.source.load files with
  | .error error => ⟨1, failed error.message⟩
  | .ok text =>
    match KeyPolicy.ofName? request.duplicateKeys with
    | none => ⟨1, failed (KeyPolicy.unknownMessage request.duplicateKeys)⟩
    | some policy =>
      match OutputFormat.ofName? request.format with
      | none => ⟨1, failed (OutputFormat.unknownMessage request.format)⟩
      | some format =>
        match parse policy text with
        | .error failure => ⟨1, Screen.failure failure.chain⟩
        | .ok schema => ⟨0, format.lines schema⟩

/-- The lines and status of checking a document against a schema. -/
def checkDocument (schema : Schema) (text : Text) : Output :=
  match schema.validate text with
  | .error error => ⟨1, failed error.message⟩
  | .ok verdict =>
      match verdict.document with
      | some document =>
          ⟨0, [] :: Screen.success "Validation passed!".toList ++
            Screen.json (some "Input JSON".toList) document⟩
      | none =>
          let shown := Screen.reports verdict.reports
          ⟨1, [] :: Screen.error "Validation failed".toList ++ shown.lines ++
            (match shown.fault with
              | some fault => failed fault.message
              | none => [])⟩

/-- The lines and status of finding a document and checking it against a schema. -/
def findDocument (files : Files) (path : Text) (schema : Schema) : Output :=
  match files.look path with
  | .absent => ⟨1, Screen.error ("JSON file not found: ".toList ++ normalPath path)⟩
  | .tooLong => ⟨1, failed (LoadError.nameTooLong path).message⟩
  | .found entry =>
      match entry.text path with
      | .error error => ⟨1, failed error.message⟩
      | .ok text =>
          let answer := checkDocument schema text
          { answer with
            lines := Screen.separator ++ Screen.info "Validating...".toList ++ answer.lines }

/-- The answer to a request to validate. -/
def ValidateRequest.run (files : Files) (request : ValidateRequest) : Output :=
  match request.source.load files with
  | .error error => ⟨1, failed error.message⟩
  | .ok text =>
    match KeyPolicy.ofName? request.duplicateKeys with
    | none => ⟨1, failed (KeyPolicy.unknownMessage request.duplicateKeys)⟩
    | some policy =>
      let heading := Screen.heading (programName ++ " - Validate JSON".toList)
      match parse policy text with
      | .error failure => ⟨1, heading ++ Screen.failure failure.chain⟩
      | .ok schema =>
          let answer := findDocument files request.document schema
          { answer with
            lines := heading ++
              Screen.success ("Parsed schema with ".toList ++ Text.ofNat schema.length ++
                " top-level properties".toList) ++
              (if request.showSchema then Screen.schemaTree Screen.treeTitle schema else []) ++
              answer.lines }

/-- The answer to a request. -/
def Request.run (files : Files) : Request → Output
  | .version => ⟨0, [programName ++ " version ".toList ++ Command.version]⟩
  | .help => ⟨0, helpLines⟩
  | .parse request => request.run files
  | .validate request => request.run files

/-- The answer to a command line. -/
def run (files : Files) (arguments : List Text) : Output :=
  match invocation? files arguments with
  | none => ⟨2, []⟩
  | some invocation => invocation.request.run files

/-- The paths of the files a request reads. -/
def Request.paths : Request → List Text
  | .version => []
  | .help => []
  | .parse request => request.source.file.toList
  | .validate request => request.document :: request.source.file.toList

/-- The paths of the files a command line may need, and those on their ways. -/
def neededPaths (arguments : List Text) : List Text :=
  match invocation? [] arguments with
  | none => []
  | some invocation => invocation.request.paths.flatMap wayTo

/-- The schema text that a request parses and the policy for its keys, if it comes to that. -/
def Request.parsed? (files : Files) : Request → Option (KeyPolicy × Text)
  | .version => none
  | .help => none
  | .parse request => do
      let text ← (request.source.load files).toOption
      let policy ← KeyPolicy.ofName? request.duplicateKeys
      let _ ← OutputFormat.ofName? request.format
      return (policy, text)
  | .validate request => do
      let text ← (request.source.load files).toOption
      return (← KeyPolicy.ofName? request.duplicateKeys, text)

/-- What a command line writes to the log, if it asks for one. -/
def logText (files : Files) (arguments : List Text) : Text :=
  match invocation? files arguments with
  | some ⟨true, request⟩ =>
      match request.parsed? files with
      | some (policy, text) => Log.text Log.Level.debug.number (parseRecords policy text)
      | none => []
  | _ => []

end DocShape.Command
