import DocShape.Json.Reader
import DocShape.Screen.Wrap

/-!
# Code

JSON text on the screen is shown in its tokens, each a run of its own: strings, words, numbers,
marks, comments, and the blanks between them. Every text has tokens, also one that is no JSON; a
character that begins none of these is a token by itself. Lines of code are not broken but cut off.
-/

set_option autoImplicit false

namespace DocShape.Screen

/-- What a token of code is, as far as it goes. -/
inductive TokenState where
  | string
  /-- Behind a backslash in a string. -/
  | escape
  /-- In a string, where so many hexadecimal digits of an escape are left. -/
  | hex (left : Nat)
  | blank
  | word
  | number
  | marks
  /-- A slash that may begin a comment. -/
  | slash
  | lineComment
  | blockComment
  /-- Behind a star in a comment. -/
  | star
  /-- A token that is complete. -/
  | complete
deriving DecidableEq

/-- The characters that marks are made of, the colon apart, which only begins them. -/
def isMark (c : Char) : Bool := c = '{' || c = '}' || c = '[' || c = ']' || c = ','

/-- The token a character begins. -/
def TokenState.start (c : Char) : TokenState :=
  if c = '"' then .string
  else if Json.isGap c then .blank
  else if c = 'f' || c = 'n' || c = 't' then .word
  else if Text.isDigit c || c = '-' then .number
  else if c = ':' || isMark c then .marks
  else if c = '/' then .slash
  else .complete

/-- The token with one more character, if it goes on. -/
def TokenState.next? (state : TokenState) (c : Char) : Option TokenState :=
  match state with
  | .string => some (if c = '"' then .complete else if c = '\\' then .escape else .string)
  | .escape => some (if c = 'u' then .hex 4 else .string)
  | .hex left =>
      some (if (Json.hexValue? c).isSome && 1 < left then .hex (left - 1) else .string)
  | .blank => if Json.isGap c then some .blank else none
  | .word => if "truefalsn".toList.contains c then some .word else none
  | .number => if Text.isDigit c || "-.eE+".toList.contains c then some .number else none
  | .marks => if isMark c then some .marks else none
  | .slash =>
      if c = '/' then some .lineComment else if c = '*' then some .blockComment else none
  | .lineComment => if c = '\n' then none else some .lineComment
  | .blockComment => some (if c = '*' then .star else .blockComment)
  | .star => some (if c = '/' then .complete else if c = '*' then .star else .blockComment)
  | .complete => none

/-- The tokens of a text behind a token under way, which is given in reverse order. -/
def tokensFrom (state : TokenState) (token : Text) : Text → List Text
  | [] => [token.reverse]
  | c :: text =>
      match state.next? c with
      | some state => tokensFrom state (c :: token) text
      | none => token.reverse :: tokensFrom (.start c) [c] text

/-- The tokens of a text. -/
def tokens : Text → List Text
  | [] => []
  | c :: text => tokensFrom (.start c) [c] text

/-- A text with each tabulator replaced by spaces up to the next stop. Stops are `size` characters
apart, and the text begins at the given column. -/
def expandTabs (size column : Nat) : Text → Text
  | [] => []
  | c :: text =>
      if c = '\t' then
        let gap := size - column % size
        Text.spaces gap ++ expandTabs size (column + gap) text
      else if c = '\n' || c = '\r' then c :: expandTabs size 0 text
      else c :: expandTabs size (column + 1) text

/-- The distance between tabulator stops in code. -/
def codeTabSize : Nat := 4

/-- The lines of code, cut off at a width. A byte order mark at the front is not shown, and a line
feed at the end leaves an empty line. -/
def codeLines (width : Nat) (text : Text) : List Runs :=
  let ended := text.getLast? == some '\n'
  let expanded := expandTabs codeTabSize 0 (if ended then text else text ++ ['\n'])
  let marked :=
    match expanded with
    | '\uFEFF' :: rest => rest
    | _ => expanded
  let lines := Runs.lines ((tokens (Text.unifyLineEnds marked)).map withoutControls)
  (if ended then lines else lines.dropLast).map (Runs.truncated width)

end DocShape.Screen
