import DocShape.Text.Blank

/-!
# Styled text

Text for the screen carries its styles as tags in square brackets. A tag begins with a small
letter, `#`, `/` or `@` and ends at the next closing bracket, with no opening bracket in between.
Backslashes right before a tag are halved, and an odd one makes the tag stand for itself. Data is
escaped before it is put into styled text, each piece by itself; so two pieces next to each other
can still make up a tag, and a closing tag that comes about in that way may have nothing to close.

Scope: the screen has no colours here, so tags only divide the text into runs of one style.
-/

set_option autoImplicit false

namespace DocShape.Screen

/-- Whether a tag may begin with a character. -/
def isTagStart (c : Char) : Bool := c.isLower || c == '#' || c == '/' || c == '@'

/-- Whether a closing bracket comes before any opening one. -/
def closes : Text → Bool
  | [] => false
  | c :: text => c == ']' || (c != '[' && closes text)

/-- Whether a tag stands at the front of a text whose opening bracket is taken off. -/
def opensTag : Text → Bool
  | [] => false
  | c :: text => isTagStart c && closes text

/-- A text of `n` backslashes. -/
def backslashes (n : Nat) : Text := List.replicate n '\\'

/-- Escapes tags: each gets a backslash, and the backslashes before it are doubled. The first
argument counts the backslashes right before the text. -/
def escapeTags (run : Nat) : Text → Text
  | [] => backslashes run
  | '\\' :: text => escapeTags (run + 1) text
  | c :: text =>
      backslashes (if c = '[' && opensTag text then 2 * run + 1 else run) ++ c :: escapeTags 0 text

/-- How many backslashes a text ends with. -/
def trailingBackslashes (text : Text) : Nat := (text.reverse.takeWhile (· == '\\')).length

/-- Data as it is put into styled text. A single backslash at the end is doubled, because a tag may
follow. -/
def escape (text : Text) : Text :=
  let escaped := escapeTags 0 text
  if trailingBackslashes escaped = 1 then escaped ++ ['\\'] else escaped

/-- A part of a styled text. -/
inductive Part where
  /-- Text that is shown. -/
  | plain (text : Text)
  /-- A tag: what stands in its brackets, and how many characters stand before it. -/
  | tag (body : Text) (position : Nat)

/-- The parts of a styled text behind a front of `position` characters. The second argument is the
tag under way, in reverse order with its position; the third is the plain text under way, in reverse
order; the fourth counts the backslashes right before the text. -/
def partsFrom (position : Nat) :
    (tag : Option (Text × Nat)) → (plain : Text) → (run : Nat) → Text → List Part
  | _, plain, run, [] => [.plain (plain.reverse ++ backslashes run)]
  | some (body, start), plain, _, c :: text =>
      if c = ']' then .tag body.reverse start :: partsFrom (position + 1) none [] 0 text
      else partsFrom (position + 1) (some (c :: body, start)) plain 0 text
  | none, plain, run, c :: text =>
      if c = '\\' then partsFrom (position + 1) none plain (run + 1) text
      else if c = '[' then
        if opensTag text then
          let plain := backslashes (run / 2) ++ plain
          if run % 2 = 1 then partsFrom (position + 1) none ('[' :: plain) 0 text
          else .plain plain.reverse :: partsFrom (position + 1) (some ([], position)) [] 0 text
        else partsFrom (position + 1) none ('[' :: (backslashes (run - 1) ++ plain)) 0 text
      else partsFrom (position + 1) none (c :: (backslashes run ++ plain)) 0 text

/-- The parts of a styled text. -/
def parts (markup : Text) : List Part := partsFrom 0 none [] 0 markup

/-- The control characters a screen text may not hold. -/
def isControl (c : Char) : Bool :=
  c.toNat == 7 || c.toNat == 8 || c.toNat == 11 || c.toNat == 12 || c.toNat == 13

/-- A text without the control characters that would move the cursor. -/
def withoutControls (text : Text) : Text := text.filter fun c => !isControl c

/-- A text in runs of one style each. -/
abbrev Runs := List Text

/-- What styled text shows. -/
def shown (markup : Text) : Runs :=
  (parts markup).filterMap fun
    | .plain text => some (withoutControls text)
    | .tag _ _ => none

/-- What is wrong with a closing tag. -/
inductive MarkupFault where
  /-- No tag is open. -/
  | nothingOpen (position : Nat)
  /-- No tag with its name is open. -/
  | notOpen (body : Text) (position : Nat)
deriving DecidableEq

/-- The message for a fault. -/
def MarkupFault.message : MarkupFault → Text
  | .nothingOpen position =>
      "closing tag '[/]' at position ".toList ++ Text.ofNat position ++
        " has nothing to close".toList
  | .notOpen body position =>
      "closing tag '[".toList ++ body ++ "]' at position ".toList ++ Text.ofNat position ++
        " doesn't match any open tag".toList

/-- The name in a tag: what stands before an equals sign. -/
def tagName (body : Text) : Text := Text.trim (body.takeWhile (· != '='))

/-- The first closing tag with nothing to close, when the tags with the given names are open, the
latest first. A closing tag without a name closes the latest. -/
def faultFrom? : (opened : List Text) → List Part → Option MarkupFault
  | _, [] => none
  | opened, .plain _ :: parts => faultFrom? opened parts
  | opened, .tag ('/' :: body) position :: parts =>
      if (tagName body).isEmpty then
        match opened with
        | [] => some (.nothingOpen position)
        | _ :: opened => faultFrom? opened parts
      else if opened.contains (tagName body) then faultFrom? (opened.erase (tagName body)) parts
      else some (.notOpen ('/' :: body) position)
  | opened, .tag body _ :: parts => faultFrom? (tagName body :: opened) parts

/-- The first closing tag of a styled text that has nothing to close. -/
def markupFault? (markup : Text) : Option MarkupFault := faultFrom? [] (parts markup)

end DocShape.Screen
