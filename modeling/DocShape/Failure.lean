import DocShape.Primitive

/-!
# Failures of the parser

A parse fails for one of four causes, found somewhere inside nested properties; the path to the
cause is kept as the list of the steps taken, outermost first. Nesting beyond the parser's limit is
a failure of its own kind and has no path. A failure is shown as a chain of messages, outermost
first, which is never empty.
-/

set_option autoImplicit false

namespace DocShape

/-- Why a schema text is not accepted. -/
inductive Cause where
  /-- The text is not of the form `{…}`. -/
  | notAnObject (text : Text)
  /-- A property has no colon. -/
  | noColon (segment : Text)
  /-- A value is not the name of a primitive kind. -/
  | unknownToken (token : Text)
  /-- A key is declared twice where that is an error. -/
  | repeatedKey (key : Text)
deriving DecidableEq

/-- A step on the way to the cause. -/
inductive Step where
  /-- The property with this text. -/
  | property (segment : Text)
  /-- The value of the property with this key. -/
  | valueOf (key : Text)
deriving DecidableEq

/-- Why a parse has no answer. -/
inductive Failure where
  | rejected (path : List Step) (cause : Cause)
  | tooDeep
deriving DecidableEq

/-- The message for a cause. -/
def Cause.message : Cause → Text
  | .notAnObject text => "Expected \x7b...\x7d, got '".toList ++ text ++ "'".toList
  | .noColon segment => "Expected key-value property, got '".toList ++ segment ++ "'".toList
  | .unknownToken token =>
      "Expected one of [".toList ++ Text.joinWith ", ".toList (Primitive.all.map Primitive.name) ++
        "] but got '".toList ++ token ++ "'".toList
  | .repeatedKey key => "Duplicate property '".toList ++ key ++ "'".toList

/-- The message for a step. -/
def Step.message : Step → Text
  | .property segment => "Failed to parse property '".toList ++ segment ++ "'".toList
  | .valueOf key => "Failed to parse value of property '".toList ++ key ++ "'".toList

/-- The message for nesting beyond the limit. -/
def tooDeepMessage : Text := "Schema is nested too deeply to parse".toList

/-- A chain of messages, outermost first; there is at least one. -/
structure MessageChain where
  outermost : Text
  inner : List Text
deriving DecidableEq

namespace MessageChain

/-- The messages, outermost first. -/
def toList (chain : MessageChain) : List Text := chain.outermost :: chain.inner

/-- The chain with the given messages, if there are any. -/
def ofList? : List Text → Option MessageChain
  | [] => none
  | message :: messages => some ⟨message, messages⟩

/-- The message for a chain without messages, which does not exist. -/
def emptyMessage : Text := "ParseError requires at least one message".toList

/-- The chain with one more message around it. -/
def wrap (message : Text) (chain : MessageChain) : MessageChain := ⟨message, chain.toList⟩

/-- The message of the cause itself. -/
def innermost (chain : MessageChain) : Text := chain.inner.getLastD chain.outermost

/-- The messages with each one indented two spaces further than the one around it. -/
def indented : (indent : Nat) → List Text → List Text
  | _, [] => []
  | indent, message :: messages =>
      (Text.spaces indent ++ message) :: indented (indent + 2) messages

/-- The chain as one text, a line for each message. -/
def render (chain : MessageChain) : Text := Text.joinWith ['\n'] (indented 0 chain.toList)

/-- The messages with their numbers. -/
def numbered : (number : Nat) → List Text → List Text
  | _, [] => []
  | number, message :: messages =>
      (Text.spaces 2 ++ Text.ofNat number ++ ". ".toList ++ message) ::
        numbered (number + 1) messages

/-- The chain as a numbered list under a heading. -/
def report (chain : MessageChain) : Text :=
  Text.joinWith ['\n'] ("Schema parse failed:".toList :: numbered 1 chain.toList)

end MessageChain

namespace Failure

/-- The failure seen from one step further out. Nesting beyond the limit stays as it is. -/
def within (step : Step) : Failure → Failure
  | .rejected path cause => .rejected (step :: path) cause
  | .tooDeep => .tooDeep

/-- The messages of a failure. -/
def chain : Failure → MessageChain
  | .rejected [] cause => ⟨cause.message, []⟩
  | .rejected (step :: path) cause => ⟨step.message, path.map Step.message ++ [cause.message]⟩
  | .tooDeep => ⟨tooDeepMessage, []⟩

end Failure

end DocShape
