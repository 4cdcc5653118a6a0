import DocShape.Parse
import DocShape.Text.Capital
import DocShape.Text.Quoted

/-!
# Logging

A parse leaves records in a log: one for each object before its properties are read, one before
that where the braces of an object do not balance, and one for the outcome. Each record has a
level, and a log shows the records at or above its threshold.

The records of a parse are found by a walk of their own (`Trace.object`), which also says whether
the object was read to its end, because nothing is recorded after the first failure.
-/

set_option autoImplicit false

namespace DocShape

namespace Log

/-- The levels by their names, with their numbers. -/
def levels : List (Text × Int) :=
  [("DEBUG", 10), ("INFO", 20), ("WARNING", 30), ("WARN", 30), ("ERROR", 40), ("CRITICAL", 50),
   ("FATAL", 50), ("NOTSET", 0)].map fun (name, level) => (String.toList name, level)

/-- The threshold of a log: a number, or a level by its name. -/
inductive Threshold where
  | number (level : Int)
  | named (name : Text)

/-- The number of a threshold, or the name that is not known, in capital letters. -/
def Threshold.level : Threshold → Except Text Int
  | .number n => .ok n
  | .named name =>
      match levels.lookup (Text.capitals name) with
      | some n => .ok n
      | none => .error (Text.capitals name)

/-- The message for a level name that is not known. -/
def unknownLevelMessage (name : Text) : Text := "Unknown level: ".toList ++ Text.quoted name

/-- The levels a parse uses. -/
inductive Level where
  | debug
  | info
deriving DecidableEq

/-- The number of a level. -/
def Level.number : Level → Int
  | .debug => 10
  | .info => 20

/-- The name of a level, filled up to eight characters. -/
def Level.column : Level → Text
  | .debug => "DEBUG   ".toList
  | .info => "INFO    ".toList

/-- The parts of the program that leave records. -/
inductive Source where
  | parser
  | splitter
deriving DecidableEq

/-- The name of a source. -/
def Source.name : Source → Text
  | .parser => "compact_schema.schema.parser".toList
  | .splitter => "compact_schema.schema.splitter".toList

/-- A record in a log. -/
structure Record where
  level : Level
  source : Source
  message : Text
deriving DecidableEq

/-- The line of a record. -/
def Record.line (record : Record) : Text :=
  record.level.column ++ ' ' :: record.source.name ++ ": ".toList ++ record.message ++ ['\n']

/-- The text of a log: the records at or above a level, a line for each. -/
def text (level : Int) (records : List Record) : Text :=
  (records.filter fun record => level ≤ record.level.number).flatMap Record.line

end Log

namespace Trace

/-- The records before the properties of an object are read. -/
def opening (text content : Text) : List Log.Record :=
  let depth := if content.isEmpty then 0 else Brace.depth content
  (if depth = 0 then []
    else
      [⟨.debug, .splitter,
        "Unbalanced braces (depth ".toList ++ Text.ofInt depth ++ ") while splitting ".toList ++
          Text.quoted content⟩]) ++
    [⟨.debug, .parser,
      "Parsing object with ".toList ++ Text.ofNat (Brace.segments content).length ++
        " properties: ".toList ++ text⟩]

/-- The records of a value, and whether it was read, given those of the objects in it. -/
def valueWith (nested : Text → List Log.Record × Bool) (raw : Text) : List Log.Record × Bool :=
  match ValueForm.ofText raw with
  | .objects text => nested text
  | .object text => nested text
  | .primitives token => ([], Primitive.isName token)
  | .primitive token => ([], Primitive.isName token)

/-- The records of the properties up to the first that fails, and whether none does. -/
def entriesWith (nested : Text → List Log.Record × Bool) : List Text → List Log.Record × Bool
  | [] => ([], true)
  | segment :: segments =>
      match parseProperty (Text.trim segment) with
      | .error _ => ([], false)
      | .ok (_, raw) =>
          match valueWith nested raw with
          | (records, false) => (records, false)
          | (records, true) =>
              let (more, done) := entriesWith nested segments
              (records ++ more, done)

/-- Whether the properties with these texts may be merged. -/
def mergeable (policy : KeyPolicy) (segments : List Text) : Bool :=
  let keys := segments.filterMap fun segment =>
    (Text.cutAt? ':' (Text.trim segment)).map fun (key, _) => (key, ())
  match merge policy keys with
  | .ok _ => true
  | .error _ => false

/-- The records of one level of an object, given those of the objects in it. -/
def objectWith (policy : KeyPolicy) (nested : Text → List Log.Record × Bool) (text : Text) :
    List Log.Record × Bool :=
  match Brace.interior? text with
  | none => ([], false)
  | some content =>
      let segments := Brace.segments content
      let (records, done) := entriesWith nested segments
      (opening text content ++ records, done && mergeable policy segments)

/-- The records of an object with at most `limit` levels below it, and whether it was read. -/
def object (policy : KeyPolicy) : (limit : Nat) → Text → List Log.Record × Bool
  | 0 => objectWith policy fun _ => ([], false)
  | limit + 1 => objectWith policy (object policy limit)

end Trace

/-- The record of the outcome of a parse. -/
def outcomeRecord : Parsed Schema → Log.Record
  | .ok schema =>
      ⟨.info, .parser,
        "Parsed schema with ".toList ++ Text.ofNat schema.length ++
          " top-level properties".toList⟩
  | .error .tooDeep =>
      ⟨.info, .parser, "Schema parse failed: nesting exceeds the recursion limit".toList⟩
  | .error failure =>
      ⟨.info, .parser, "Schema parse failed: ".toList ++ failure.chain.innermost⟩

/-- The records a parse leaves. -/
def parseRecords (policy : KeyPolicy) (text : Text) : List Log.Record :=
  (Trace.object policy nestingLimit (Text.removeBlanks text)).1 ++
    [outcomeRecord (parse policy text)]

end DocShape
