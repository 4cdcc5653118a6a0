import DocShape.Text.Basic

/-!
# Blank characters

Blanks are the characters Unicode counts as white space, the four separators U+001C to U+001F
included; zero-width characters such as U+200B and U+FEFF are not blanks. Blanks carry no meaning
in a schema text, so `removeBlanks` is the normal form the parser works on. A shorter list of
blanks is the one allowed between the tokens of a JSON text; it lives with the JSON reader.
-/

set_option autoImplicit false

namespace DocShape.Text

/-- The code points of the blank characters, as inclusive ranges. -/
def blankRanges : List (Nat × Nat) :=
  [(0x09, 0x0D), (0x1C, 0x20), (0x85, 0x85), (0xA0, 0xA0), (0x1680, 0x1680), (0x2000, 0x200A),
   (0x2028, 0x2029), (0x202F, 0x202F), (0x205F, 0x205F), (0x3000, 0x3000)]

/-- Whether a character is a blank. -/
def isBlank (c : Char) : Bool :=
  blankRanges.any fun (low, high) => low ≤ c.toNat && c.toNat ≤ high

/-- The text without its blanks, those inside words included. -/
def removeBlanks (text : Text) : Text := text.filter fun c => !isBlank c

/-- The text without the blanks it begins with. -/
def trimLeft (text : Text) : Text := text.dropWhile isBlank

/-- The text without the blanks it ends with. -/
def trimRight (text : Text) : Text := (text.reverse.dropWhile isBlank).reverse

/-- The text without the blanks at its two ends. -/
def trim (text : Text) : Text := trimRight (trimLeft text)

/-- Nothing blank is left by `removeBlanks`. -/
theorem isBlank_eq_false_of_mem_removeBlanks {c : Char} {text : Text}
    (h : c ∈ removeBlanks text) : isBlank c = false := by
  simpa using (List.mem_filter.mp h).2

/-- Removing the blanks of a text that has none changes nothing. -/
theorem removeBlanks_eq_self {text : Text} (h : ∀ c ∈ text, isBlank c = false) :
    removeBlanks text = text :=
  List.filter_eq_self.mpr fun c hc => by simp [h c hc]

theorem dropWhile_isBlank_eq_self {text : Text} (h : ∀ c ∈ text, isBlank c = false) :
    text.dropWhile isBlank = text := by
  cases text with
  | nil => rfl
  | cons c text => simp [h c (by simp)]

/-- Trimming a text without blanks changes nothing. -/
theorem trimLeft_eq_self {text : Text} (h : ∀ c ∈ text, isBlank c = false) :
    trimLeft text = text :=
  dropWhile_isBlank_eq_self h

theorem trim_eq_self {text : Text} (h : ∀ c ∈ text, isBlank c = false) : trim text = text := by
  unfold trim trimRight
  rw [trimLeft_eq_self h, dropWhile_isBlank_eq_self (by simpa using h), List.reverse_reverse]

end DocShape.Text
