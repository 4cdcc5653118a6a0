/-!
# Text

A text is the list of its characters, so lengths and positions count characters and every
function on texts is a list function with its list lemmas. This module holds the few operations
the rest of the project cuts texts with: taking a known beginning or ending off, looking for the
first place where a marker stands, and writing numbers.

Scope: no operation here knows about blanks, braces or any format. Characters are whole ones, so
half of a surrogate pair stands in no text.
-/

set_option autoImplicit false

namespace DocShape

/-- A text: the list of its characters. -/
abbrev Text := List Char

namespace Text

/-- What follows `start` in a text that begins with it. -/
def afterStart? : (start text : Text) → Option Text
  | [], text => some text
  | _ :: _, [] => none
  | c :: start, d :: text => if c = d then afterStart? start text else none

/-- What precedes `ending` in a text that ends with it. -/
def beforeEnd? (ending text : Text) : Option Text :=
  (afterStart? ending.reverse text.reverse).map List.reverse

/-- What precedes the first place where `marker` stands. -/
def before? (marker : Text) : Text → Option Text
  | [] => if marker.isEmpty then some [] else none
  | c :: text =>
      if marker.isPrefixOf (c :: text) then some [] else (before? marker text).map (c :: ·)

/-- The two parts around the first occurrence of a character, which belongs to neither. -/
def cutAt? (mark : Char) : Text → Option (Text × Text)
  | [] => none
  | c :: text =>
      if c = mark then some ([], text)
      else (cutAt? mark text).map fun (front, back) => (c :: front, back)

/-- The parts of a text between the occurrences of a character; a text without it is one part. -/
def splitAll (mark : Char) : Text → List Text
  | [] => [[]]
  | c :: text =>
      if c = mark then [] :: splitAll mark text
      else
        match splitAll mark text with
        | [] => [[c]]
        | part :: parts => (c :: part) :: parts

/-- The texts in order with `separator` between neighbours. -/
def joinWith (separator : Text) : List Text → Text
  | [] => []
  | [part] => part
  | part :: next :: parts => part ++ separator ++ joinWith separator (next :: parts)

/-- A text with its line ends written as single line feeds: a carriage return ends a line, and so
does one with a line feed behind it. -/
def unifyLineEnds : Text → Text
  | [] => []
  | '\r' :: '\n' :: text => '\n' :: unifyLineEnds text
  | '\r' :: text => '\n' :: unifyLineEnds text
  | c :: text => c :: unifyLineEnds text

/-- A natural number in decimal digits. -/
def ofNat (n : Nat) : Text := Nat.toDigits 10 n

/-- A whole number in decimal digits, with a minus sign when it is negative. -/
def ofInt : Int → Text
  | .ofNat n => ofNat n
  | .negSucc n => '-' :: ofNat (n + 1)

/-- A text of `n` spaces. -/
def spaces (n : Nat) : Text := List.replicate n ' '

/-- Order of texts: character by character by code point, a beginning before its continuations. -/
def le : Text → Text → Bool
  | [], _ => true
  | _ :: _, [] => false
  | c :: s, d :: t => if c = d then le s t else decide (c.toNat < d.toNat)

/-- An ASCII letter made lower case; every other character as it is. -/
def lower (text : Text) : Text := text.map Char.toLower

@[simp] theorem afterStart?_self_append (start text : Text) :
    afterStart? start (start ++ text) = some text := by
  induction start with
  | nil => rfl
  | cons c start ih => simp [afterStart?, ih]

theorem eq_append_of_afterStart? {start text rest : Text}
    (h : afterStart? start text = some rest) : text = start ++ rest := by
  fun_induction afterStart? start text with
  | case1 text => simpa using h
  | case2 => simp at h
  | case3 c start text ih => simp [ih h]
  | case4 => simp at h

/-- A text has a rest after `start` exactly when it is `start` followed by that rest. -/
theorem afterStart?_eq_some_iff {start text rest : Text} :
    afterStart? start text = some rest ↔ text = start ++ rest :=
  ⟨eq_append_of_afterStart?, fun h => by simp [h]⟩

/-- A text has a part before `ending` exactly when it is that part followed by `ending`. -/
theorem beforeEnd?_eq_some_iff {ending text front : Text} :
    beforeEnd? ending text = some front ↔ text = front ++ ending := by
  simp only [beforeEnd?, Option.map_eq_some_iff, afterStart?_eq_some_iff]
  constructor
  · rintro ⟨rest, h, rfl⟩
    simpa using congrArg List.reverse h
  · rintro rfl
    exact ⟨front.reverse, by simp, by simp⟩

/-- Cutting at a character loses only that character. -/
theorem eq_of_cutAt? {mark : Char} {text front back : Text}
    (h : cutAt? mark text = some (front, back)) : text = front ++ mark :: back ∧ mark ∉ front := by
  induction text generalizing front with
  | nil => simp [cutAt?] at h
  | cons c text ih =>
    by_cases hc : c = mark
    · simp [cutAt?, hc] at h
      simp [h.1, h.2, hc]
    · simp only [cutAt?, hc, if_false, Option.map_eq_some_iff, Prod.exists, Prod.mk.injEq] at h
      obtain ⟨front', back', h, rfl, rfl⟩ := h
      obtain ⟨rfl, hmem⟩ := ih h
      exact ⟨rfl, by simp [hmem, Ne.symm hc]⟩

end Text

end DocShape
