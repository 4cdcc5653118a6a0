import DocShape.Parse

/-!
# Outcomes of parsing

An outcome holds a schema or the message chain of a failure, and never both. It is what a caller
gets who wants to look at a failure later.
-/

set_option autoImplicit false

namespace DocShape

/-- A schema, or why there is none. -/
inductive Outcome where
  | parsed (schema : Schema)
  | failed (chain : MessageChain)

namespace Outcome

/-- The outcome of parsing a text. -/
def ofText (policy : KeyPolicy) (text : Text) : Outcome :=
  match parse policy text with
  | .ok schema => .parsed schema
  | .error failure => .failed failure.chain

/-- The outcome with the given parts, of which exactly one has to be there. -/
def ofParts? : Option Schema → Option MessageChain → Option Outcome
  | some schema, none => some (.parsed schema)
  | none, some chain => some (.failed chain)
  | _, _ => none

/-- The message where none or both of the parts are there. -/
def partsMessage : Text := "ParseResult needs exactly one of schema or error".toList

/-- Whether there is a schema. -/
def isValid : Outcome → Bool
  | .parsed _ => true
  | .failed _ => false

/-- The messages of the failure, none where there is a schema. -/
def messages : Outcome → List Text
  | .parsed _ => []
  | .failed chain => chain.toList

end Outcome

end DocShape
