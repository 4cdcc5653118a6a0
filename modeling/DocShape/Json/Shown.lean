import DocShape.Json.Basic
import DocShape.Number.Written
import DocShape.Text.Quoted

/-!
# Values in messages

Messages show values in a spelling of their own: texts quoted, the constants capitalised, lists and
records in brackets and braces. A text that stands for itself in a message is not quoted.
-/

set_option autoImplicit false

namespace DocShape.Json

mutual

/-- A value as messages show it. -/
def shown : Json → Text
  | .null => "None".toList
  | .bool true => "True".toList
  | .bool false => "False".toList
  | .int i => Text.ofInt i
  | .float x => x.write Binary64.shownFormat
  | .string s => Text.quoted s
  | .array values => '[' :: Text.joinWith ", ".toList (shownItems values) ++ [']']
  | .object entries => '{' :: Text.joinWith ", ".toList (shownMembers entries) ++ ['}']

/-- The items of a list as messages show them. -/
def shownItems : List Json → List Text
  | [] => []
  | value :: values => shown value :: shownItems values

/-- The members of a record as messages show them. -/
def shownMembers : List (Text × Json) → List Text
  | [] => []
  | (key, value) :: entries =>
      (Text.quoted key ++ ": ".toList ++ shown value) :: shownMembers entries

end

/-- A value that stands for itself: a text as it is, anything else as messages show it. -/
def plain : Json → Text
  | .string s => s
  | value => value.shown

end DocShape.Json
