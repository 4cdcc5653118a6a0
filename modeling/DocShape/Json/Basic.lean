import DocShape.Text.Basic
import DocShape.Number.Binary64

/-!
# JSON values

Objects keep the order of their members, and whole numbers of any size are told apart from doubles:
a number written without a fraction and an exponent is whole.
-/

set_option autoImplicit false

namespace DocShape

/-- A JSON value. -/
inductive Json where
  | null
  | bool (value : Bool)
  | int (value : Int)
  | float (value : Binary64)
  | string (value : Text)
  | array (items : List Json)
  | object (members : List (Text × Json))
  deriving Inhabited

namespace Json

/-- The value of the member with a key. -/
def member? (members : List (Text × Json)) (key : Text) : Option Json := members.lookup key

/-- A text value from a literal. -/
def ofString (value : String) : Json := .string value.toList

end Json

end DocShape
