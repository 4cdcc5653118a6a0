import DocShape.Text.Blank
import DocShape.Text.Numeral

/-!
# Regular expressions

An expression has a text and a language. The text is how the expression is written, character for
character: a literal stands as it is or behind a backslash, and operators follow what they apply to,
so an operator applies to a single character, a class or a group. The language is `Matches`; `rests`
decides it by following every way an expression can match the front of a text.
-/

set_option autoImplicit false

namespace DocShape

/-- A set of characters with a text of its own in expressions. -/
inductive CharClass where
  /-- The blanks. -/
  | blank
  /-- All but the quotation mark and the backslash. -/
  | unquoted
  /-- The characters from one to another. -/
  | range (low high : Char)
  /-- Two characters. -/
  | either (a b : Char)
deriving DecidableEq

namespace CharClass

/-- The text of a class. -/
def text : CharClass → Text
  | .blank => ['\\', 's']
  | .unquoted => ['[', '^', '"', '\\', '\\', ']']
  | .range low high => ['[', low, '-', high, ']']
  | .either a b => ['[', a, b, ']']

/-- Whether a character is in a class. -/
def has : CharClass → Char → Bool
  | .blank, c => Text.isBlank c
  | .unquoted, c => c != '"' && c != '\\'
  | .range low high, c => decide (low.toNat ≤ c.toNat) && decide (c.toNat ≤ high.toNat)
  | .either a b, c => c == a || c == b

end CharClass

/-- A regular expression as it is written. -/
inductive Regex where
  | empty
  /-- A character as it is. -/
  | literal (c : Char)
  /-- A character behind a backslash. -/
  | escaped (c : Char)
  /-- A character of a class. -/
  | oneOf (characters : CharClass)
  | seq (first second : Regex)
  | alt (first second : Regex)
  | group (inner : Regex)
  | star (inner : Regex)
  | plus (inner : Regex)
  | optional (inner : Regex)
deriving DecidableEq

namespace Regex

/-- The text of an expression. -/
def text : Regex → Text
  | .empty => []
  | .literal c => [c]
  | .escaped c => ['\\', c]
  | .oneOf characters => characters.text
  | .seq first second => first.text ++ second.text
  | .alt first second => first.text ++ '|' :: second.text
  | .group inner => '(' :: inner.text ++ [')']
  | .star inner => inner.text ++ ['*']
  | .plus inner => inner.text ++ ['+']
  | .optional inner => inner.text ++ ['?']

/-- The expressions one after the other. -/
def sequence : List Regex → Regex
  | [] => .empty
  | [inner] => inner
  | inner :: next :: rest => .seq inner (sequence (next :: rest))

/-- The characters of a text one after the other. -/
def literals (text : Text) : Regex := sequence (text.map literal)

/-- The texts an expression matches from end to end. -/
inductive Matches : Regex → Text → Prop where
  | empty : Matches .empty []
  | literal (c : Char) : Matches (.literal c) [c]
  | escaped (c : Char) : Matches (.escaped c) [c]
  | oneOf {characters : CharClass} {c : Char} :
      characters.has c = true → Matches (.oneOf characters) [c]
  | seq {first second : Regex} {s t : Text} :
      Matches first s → Matches second t → Matches (.seq first second) (s ++ t)
  | altFirst {first second : Regex} {s : Text} : Matches first s → Matches (.alt first second) s
  | altSecond {first second : Regex} {s : Text} : Matches second s → Matches (.alt first second) s
  | group {inner : Regex} {s : Text} : Matches inner s → Matches (.group inner) s
  | starDone {inner : Regex} : Matches (.star inner) []
  | starMore {inner : Regex} {s t : Text} :
      Matches inner s → Matches (.star inner) t → Matches (.star inner) (s ++ t)
  | plus {inner : Regex} {s t : Text} :
      Matches inner s → Matches (.star inner) t → Matches (.plus inner) (s ++ t)
  | optionalNone {inner : Regex} : Matches (.optional inner) []
  | optionalSome {inner : Regex} {s : Text} : Matches inner s → Matches (.optional inner) s

/-- What can follow in a text when a character is taken off its front. -/
def dropIf (p : Char → Bool) : Text → List Text
  | [] => []
  | c :: text => if p c then [text] else []

/-- What can follow in a text when a step is repeated on its front. Each repetition has to make the
text shorter, so its length is enough fuel. -/
def repeated (step : Text → List Text) : (fuel : Nat) → Text → List Text
  | 0, text => [text]
  | fuel + 1, text =>
      text ::
        ((step text).filter fun rest => rest.length < text.length).flatMap (repeated step fuel)

/-- What can follow in a text when an expression matches its front. -/
def rests : Regex → Text → List Text
  | .empty, text => [text]
  | .literal c, text => dropIf (· == c) text
  | .escaped c, text => dropIf (· == c) text
  | .oneOf characters, text => dropIf characters.has text
  | .seq first second, text => ((first.rests text).flatMap second.rests).eraseDups
  | .alt first second, text => first.rests text ++ second.rests text
  | .group inner, text => inner.rests text
  | .star inner, text => repeated inner.rests text.length text
  | .plus inner, text =>
      (inner.rests text).flatMap fun rest => repeated inner.rests rest.length rest
  | .optional inner, text => text :: inner.rests text

/-- Whether an expression matches a text from end to end. -/
def isMatch (r : Regex) (text : Text) : Bool := (r.rests text).any List.isEmpty

end Regex

end DocShape
