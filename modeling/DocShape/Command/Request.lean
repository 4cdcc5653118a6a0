import DocShape.Command.Arguments
import DocShape.Command.Files

/-!
# Requests

A command line asks for the version, for help, for parsing a schema or for validating a document.
Options before the command belong to the program, those behind it to the command. A request that is
not well formed has no answer here: the program refuses it with a status of its own.
-/

set_option autoImplicit false

namespace DocShape.Command

/-- Where a schema text comes from. -/
structure SchemaSource where
  inline : Option Text
  file : Option Text

/-- A request to parse a schema and show it. -/
structure ParseRequest where
  source : SchemaSource
  format : Text
  duplicateKeys : Text

/-- A request to validate a document. -/
structure ValidateRequest where
  source : SchemaSource
  document : Text
  duplicateKeys : Text
  showSchema : Bool

/-- What a command line asks for. -/
inductive Request where
  | version
  | help
  | parse (request : ParseRequest)
  | validate (request : ValidateRequest)

/-- An option without a value. -/
def flag (long : String) (short : Option Char) : OptionSpec := ⟨long.toList, short, false⟩

/-- An option with a value. -/
def valued (long : String) (short : Option Char) : OptionSpec := ⟨long.toList, short, true⟩

/-- The options of the program. -/
def programOptions : List OptionSpec :=
  [flag "--version" (some 'v'), flag "--verbose" none, flag "--help" none]

/-- The options of the parse command. -/
def parseOptions : List OptionSpec :=
  [valued "--file" (some 'f'), valued "--format" none, valued "--duplicate-keys" none,
   flag "--help" none]

/-- The options of the validate command. -/
def validateOptions : List OptionSpec :=
  [valued "--json" (some 'j'), valued "--file" (some 'f'), valued "--duplicate-keys" none,
   flag "--show-schema" none, flag "--help" none]

/-- Whether a path given by an option may be read as a file: it has no null character in it and does
not name a directory. The empty path names the directory the command runs in. -/
def isFilePath (files : Files) (path : Text) : Bool :=
  !path.contains '\x00' &&
    match files.look path with
    | .found .directory => false
    | _ => true

/-- The schema source of some arguments, which hold at most one word. -/
def schemaSource? (files : Files) (arguments : Arguments) : Option SchemaSource :=
  let file := arguments.value? "--file"
  if file.all (isFilePath files) then
    match arguments.words with
    | [] => some ⟨none, file⟩
    | [inline] => some ⟨some inline, file⟩
    | _ => none
  else none

/-- The request behind the parse command. -/
def parseRequest? (files : Files) (arguments : List Text) : Option Request := do
  let arguments ← sortArguments parseOptions true arguments
  if arguments.has "--help" then return .help
  let source ← schemaSource? files arguments
  return .parse
    { source
      format := (arguments.value? "--format").getD "tree".toList
      duplicateKeys := (arguments.value? "--duplicate-keys").getD "last".toList }

/-- The request behind the validate command. -/
def validateRequest? (files : Files) (arguments : List Text) : Option Request := do
  let arguments ← sortArguments validateOptions true arguments
  if arguments.has "--help" then return .help
  let document ← (arguments.value? "--json").filter (isFilePath files)
  let source ← schemaSource? files arguments
  return .validate
    { source
      document
      duplicateKeys := (arguments.value? "--duplicate-keys").getD "last".toList
      showSchema := arguments.has "--show-schema" }

/-- A command line: whether the log is asked for, and the request. -/
structure Invocation where
  verbose : Bool
  request : Request

/-- What a command line asks for. The version is told whatever follows the command, but the command
has to be one. -/
def invocation? (files : Files) (arguments : List Text) : Option Invocation := do
  let program ← sortArguments programOptions false arguments
  let verbose := program.has "--verbose"
  if program.has "--help" then return ⟨verbose, .help⟩
  match program.words with
  | [] => return ⟨verbose, if program.has "--version" then .version else .help⟩
  | command :: rest =>
      if command = "parse".toList then
        if program.has "--version" then return ⟨verbose, .version⟩
        return ⟨verbose, ← parseRequest? files rest⟩
      else if command = "validate".toList then
        if program.has "--version" then return ⟨verbose, .version⟩
        return ⟨verbose, ← validateRequest? files rest⟩
      else none

end DocShape.Command
