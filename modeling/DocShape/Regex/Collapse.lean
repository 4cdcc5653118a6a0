import DocShape.Text.Basic

/-!
# Collapsing repeated blank loops

The text of an expression is shortened by writing one blank loop `\s*` for a run of them. The
shortening works on the characters of the text and does not read the expression.
-/

set_option autoImplicit false

namespace DocShape.Regex

/-- The text of a blank loop. -/
def blankLoop : Text := ['\\', 's', '*']

/-- The text with every run of blank loops written as one. -/
def collapse : Text → Text
  | [] => []
  | '\\' :: 's' :: '*' :: text =>
      if blankLoop.isPrefixOf text then collapse text else '\\' :: 's' :: '*' :: collapse text
  | c :: text => c :: collapse text

/-- A loop in front of a loop is dropped. -/
theorem collapse_loop_loop {text : Text} (h : blankLoop <+: text) :
    collapse (blankLoop ++ text) = collapse text :=
  if_pos (List.isPrefixOf_iff_prefix.2 h)

/-- A loop in front of anything else stays. -/
theorem collapse_loop {text : Text} (h : ¬ blankLoop <+: text) :
    collapse (blankLoop ++ text) = blankLoop ++ collapse text :=
  if_neg (mt List.isPrefixOf_iff_prefix.1 h)

/-- A character that no loop begins with stays. -/
theorem collapse_cons {c : Char} {text : Text} (h : ¬ blankLoop <+: c :: text) :
    collapse (c :: text) = c :: collapse text := by
  rw [collapse]
  rintro rest rfl rfl
  exact h (List.prefix_append blankLoop rest)

/-- A text is gone through loop by loop, and character by character where no loop begins. -/
@[elab_as_elim]
theorem loop_induction {motive : Text → Prop} (nil : motive [])
    (loop : ∀ text, motive text → motive (blankLoop ++ text))
    (char : ∀ c text, ¬ blankLoop <+: c :: text → motive text → motive (c :: text))
    (text : Text) : motive text := by
  fun_induction collapse text with
  | case1 => exact nil
  | case2 text _ ih => exact loop text ih
  | case3 text _ ih => exact loop text ih
  | case4 c text hloop ih =>
    refine char c text ?_ ih
    rintro ⟨rest, hrest⟩
    obtain ⟨rfl, rfl⟩ := List.cons.inj hrest
    exact hloop rest rfl rfl

end DocShape.Regex
