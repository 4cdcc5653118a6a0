import DocShape.Text.Basic

/-!
# Braces and top-level commas

The interior of an object text is cut into segments at the commas that stand outside all inner
braces. Only braces count: the depth of a text is the number of its opening braces minus the number
of its closing ones, and a comma cuts exactly where the depth of what stands before it is zero. The
depth may go below zero and may end anywhere; nothing is checked here.
-/

set_option autoImplicit false

namespace DocShape.Brace

/-- What a character adds to the depth. -/
def weight (c : Char) : Int := if c = '{' then 1 else if c = '}' then -1 else 0

/-- The number of opening braces minus the number of closing ones. -/
def depth : Text → Int
  | [] => 0
  | c :: text => weight c + depth text

/-- The segments of a text that begins at the given depth; the first one is the segment under
way. -/
def segmentsFrom (level : Int) : Text → List Text
  | [] => [[]]
  | c :: text =>
      if c = ',' ∧ level = 0 then [] :: segmentsFrom 0 text
      else
        match segmentsFrom (level + weight c) text with
        | [] => [[c]]
        | segment :: segments => (c :: segment) :: segments

/-- The segments of the interior of an object; an empty interior has none. -/
def segments (content : Text) : List Text :=
  if content.isEmpty then [] else segmentsFrom 0 content

/-- Braces are balanced and every comma stands inside a pair of them: such a text is never cut. The
argument is the depth at which the text begins. -/
def safeFrom (level : Nat) : Text → Bool
  | [] => level == 0
  | c :: text =>
      if c = '{' then safeFrom (level + 1) text
      else if c = '}' then 0 < level && safeFrom (level - 1) text
      else (c != ',' || 0 < level) && safeFrom level text

/-- Whether a text has balanced braces and no comma outside them. -/
def isSafe (text : Text) : Bool := safeFrom 0 text

/-- The interior of a text of the form `{…}`. -/
def interior? : Text → Option Text
  | '{' :: rest => Text.beforeEnd? ['}'] rest
  | _ => none

theorem segmentsFrom_ne_nil (level : Int) (text : Text) : segmentsFrom level text ≠ [] := by
  cases text with
  | nil => simp [segmentsFrom]
  | cons c text =>
    unfold segmentsFrom
    split
    · simp
    · split <;> simp

/-- Cutting loses nothing: the segments joined by commas are the text. -/
theorem joinWith_segmentsFrom (level : Int) (text : Text) :
    Text.joinWith [','] (segmentsFrom level text) = text := by
  induction text generalizing level with
  | nil => rfl
  | cons c text ih =>
    unfold segmentsFrom
    split
    · rename_i h
      obtain ⟨rfl, rfl⟩ := h
      obtain ⟨s, ss, hs⟩ := List.exists_cons_of_ne_nil (segmentsFrom_ne_nil 0 text)
      have := ih 0
      rw [hs] at this ⊢
      simp [Text.joinWith, this]
    · have hjoin := ih (level + weight c)
      obtain ⟨s, ss, hs⟩ := List.exists_cons_of_ne_nil (segmentsFrom_ne_nil (level + weight c) text)
      rw [hs] at hjoin ⊢
      cases ss with
      | nil => simpa [Text.joinWith] using hjoin
      | cons t ts => simp only [Text.joinWith] at hjoin ⊢; simp [← hjoin]

/-- A text has an interior exactly when it is that interior between braces. -/
theorem interior?_eq_some_iff {text content : Text} :
    interior? text = some content ↔ text = '{' :: content ++ ['}'] := by
  unfold interior?
  split
  · rename_i rest
    rw [Text.beforeEnd?_eq_some_iff]
    simp
  · rename_i h
    constructor
    · simp
    · rintro rfl
      exact absurd rfl (h (content ++ ['}']))

end DocShape.Brace
