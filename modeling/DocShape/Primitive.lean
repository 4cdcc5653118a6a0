import DocShape.Text.Basic

/-!
# Primitive kinds

The notation knows three kinds of primitive value and one name for each. Their order is the order
in which messages list the names.
-/

set_option autoImplicit false

namespace DocShape

/-- The kinds of primitive value. -/
inductive Primitive where
  | string
  | number
  | boolean
deriving DecidableEq

namespace Primitive

/-- The kinds in the order in which messages list them. -/
def all : List Primitive := [.string, .number, .boolean]

/-- The name of a kind in the notation. -/
def name : Primitive → Text
  | .string => "string".toList
  | .number => "number".toList
  | .boolean => "boolean".toList

/-- The kind with a given name. -/
def ofName? (text : Text) : Option Primitive := all.find? fun kind => kind.name = text

/-- Whether a text is the name of a kind. -/
def isName (text : Text) : Bool := (ofName? text).isSome

@[simp] theorem ofName?_name (kind : Primitive) : ofName? kind.name = some kind := by
  cases kind <;> decide

/-- A text names a kind exactly when it is the kind's name. -/
theorem ofName?_eq_some_iff {text : Text} {kind : Primitive} :
    ofName? text = some kind ↔ text = kind.name := by
  constructor
  · intro h
    have := List.find?_some h
    simpa using (of_decide_eq_true this).symm
  · rintro rfl
    exact ofName?_name kind

end Primitive

end DocShape
