import DocShape.Json.Basic
import DocShape.Text.Numeral

/-!
# Paths into documents

A path is a list of steps, each a key or an index. Following a path that leaves the document does
not fail: each kind of wrong step has a text of its own that stands for the value not found.
-/

set_option autoImplicit false

namespace DocShape.Json

/-- A step into a container. -/
inductive Step where
  | key (name : Text)
  | index (place : Int)
deriving DecidableEq

/-- The text of a step. -/
def Step.text : Step → Text
  | .key k => k
  | .index i => Text.ofInt i

/-- The text of a path: a point before each step, and a word for the path without steps. -/
def pathText : List Step → Text
  | [] => "root".toList
  | steps => steps.flatMap fun step => '.' :: step.text

/-- The index a step denotes; a key may spell a number. -/
def Step.index? : Step → Option Int
  | .key k => Text.toInt? k
  | .index i => some i

/-- The item at an index; negative indices count from the end. -/
def item? (values : List Json) : Int → Option Json
  | .ofNat n => values[n]?
  | .negSucc n => if n < values.length then values[values.length - 1 - n]? else none

/-- The value one step into a value, if it is there. -/
def step? : Json → Step → Option Json
  | .object entries, .key k => member? entries k
  | .array values, step => step.index?.bind (item? values)
  | _, _ => none

/-- What stands for a value that a step does not find. -/
def notFound : Json → Json
  | .object _ => ofString "MISSING"
  | .array _ => ofString "INVALID_INDEX"
  | _ => ofString "UNKNOWN"

/-- The value at the end of a path, or what stands for it. -/
def follow (value : Json) : List Step → Json
  | [] => value
  | step :: steps => follow ((value.step? step).getD value.notFound) steps

/-- The value at the end of a path, if every step is found. -/
def walk? (value : Json) : List Step → Option Json
  | [] => some value
  | step :: steps => (value.step? step).bind fun next => walk? next steps

end DocShape.Json
