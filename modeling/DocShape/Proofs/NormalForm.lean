import DocShape.Regex.Collapse
import Mathlib.Logic.Relation

/-!
# Shortening reaches a normal form

A pattern is shortened by dropping one of two blank loops that stand in a row (`Drop`), until no two
do (`Doubled`). There can be many places to begin with, but `collapse` goes through the text once,
from the front.

Once is enough, and the order does not matter. The text of a loop does not overlap itself
(`blankLoop_prefix_append_iff`), so a drop neither makes nor breaks a loop at another place, and
wherever it is made the text is shortened to the same (`Drop.collapse_eq`). The first characters of
a text stay when it is shortened (`take_collapse`), so no loop comes to stand behind another one
that did not before (`not_doubled_collapse`).

Scope: any text, whether or not it is a valid pattern. What shortening does to the meaning of a
pattern is not looked at here.
-/

set_option autoImplicit false

namespace DocShape.Regex

open Relation

/-- A blank loop stands directly behind another one. -/
def Doubled (text : Text) : Prop := blankLoop ++ blankLoop <:+: text

instance (text : Text) : Decidable (Doubled text) :=
  inferInstanceAs (Decidable (blankLoop ++ blankLoop <:+: text))

/-- One of two blank loops in a row is dropped. -/
inductive Drop : Text → Text → Prop
  | loop (front back : Text) :
      Drop (front ++ (blankLoop ++ (blankLoop ++ back))) (front ++ (blankLoop ++ back))

/-! ## Where a loop begins -/

/-- Loops do not overlap: with a loop behind it, a text begins with a loop only if it is empty or
does so by itself. -/
theorem blankLoop_prefix_append_iff (front back : Text) :
    blankLoop <+: front ++ (blankLoop ++ back) ↔ front = [] ∨ blankLoop <+: front := by
  match front with
  | [] => simp
  | [a] => simp [blankLoop]
  | [a, b] => simp [blankLoop]
  | a :: b :: c :: front => simp [blankLoop]

/-- Only what stands behind a loop is dropped, so the first three characters stay. -/
theorem take_collapse (text : Text) :
    (collapse text).take blankLoop.length = text.take blankLoop.length := by
  induction text using loop_induction with
  | nil => rfl
  | loop text ih =>
    by_cases hloop : blankLoop <+: text
    · rw [collapse_loop_loop hloop, ih, List.take_left]
      exact (List.prefix_iff_eq_take.1 hloop).symm
    · rw [collapse_loop hloop, List.take_left, List.take_left]
  | char c text hloop ih =>
    -- With a character in front, one less of what follows counts.
    have hshorter := congrArg (List.take 2) ih
    rw [List.take_take, List.take_take] at hshorter
    rw [collapse_cons hloop]
    exact congrArg (c :: ·) hshorter

/-- Shortening what stands behind a text neither makes nor breaks a loop at its front. -/
theorem blankLoop_prefix_append_collapse (front text : Text) :
    blankLoop <+: front ++ collapse text ↔ blankLoop <+: front ++ text := by
  have hshorter := congrArg (List.take (blankLoop.length - front.length)) (take_collapse text)
  rw [List.take_take, List.take_take, Nat.min_eq_left (Nat.sub_le _ _)] at hshorter
  rw [List.prefix_iff_eq_take, List.prefix_iff_eq_take, List.take_append, List.take_append,
    hshorter]

/-! ## Loops in a row -/

theorem doubled_blankLoop_append {text : Text} :
    Doubled (blankLoop ++ text) ↔ blankLoop <+: text ∨ Doubled text := by
  simp [Doubled, blankLoop, List.infix_cons_iff]

theorem doubled_cons {c : Char} {text : Text} (h : ¬ blankLoop <+: c :: text) :
    Doubled (c :: text) ↔ Doubled text := by
  have hfront : ¬ blankLoop ++ blankLoop <+: c :: text :=
    mt (List.prefix_append _ _).trans h
  rw [Doubled, List.infix_cons_iff, or_iff_right hfront, Doubled]

/-- No two loops in a row are left. -/
theorem not_doubled_collapse (text : Text) : ¬ Doubled (collapse text) := by
  induction text using loop_induction with
  | nil => decide
  | loop text ih =>
    by_cases hloop : blankLoop <+: text
    · rwa [collapse_loop_loop hloop]
    · -- What is behind the loop begins as it did before it was shortened itself.
      have hloop' : ¬ blankLoop <+: collapse text :=
        mt (blankLoop_prefix_append_collapse [] text).1 hloop
      rw [collapse_loop hloop, doubled_blankLoop_append, or_iff_right hloop']
      exact ih
  | char c text hloop ih =>
    have hloop' : ¬ blankLoop <+: c :: collapse text :=
      mt (blankLoop_prefix_append_collapse [c] text).1 hloop
    rw [collapse_cons hloop, doubled_cons hloop']
    exact ih

/-- A text without two loops in a row stays as it is. -/
theorem collapse_of_not_doubled {text : Text} (h : ¬ Doubled text) : collapse text = text := by
  induction text using loop_induction with
  | nil => rfl
  | loop text ih =>
    rw [doubled_blankLoop_append, not_or] at h
    rw [collapse_loop h.1, ih h.2]
  | char c text hloop ih =>
    rw [doubled_cons hloop] at h
    rw [collapse_cons hloop, ih h]

/-! ## Dropping loops one at a time -/

/-- A loop can be dropped exactly if it stands behind another one. -/
theorem doubled_iff_exists_drop {text : Text} : Doubled text ↔ ∃ next, Drop text next := by
  constructor
  · rintro ⟨front, back, rfl⟩
    rw [List.append_assoc, List.append_assoc]
    exact ⟨_, .loop front back⟩
  · rintro ⟨_, ⟨front, back⟩⟩
    exact ⟨front, back, by rw [List.append_assoc, List.append_assoc]⟩

/-- Whichever loop is dropped, the text is shortened to the same. -/
theorem Drop.collapse_eq {text next : Text} (h : Drop text next) :
    collapse text = collapse next := by
  obtain ⟨front, back⟩ := h
  induction front using loop_induction with
  | nil => exact collapse_loop_loop (List.prefix_append blankLoop back)
  | loop front ih =>
    rw [List.append_assoc, List.append_assoc]
    by_cases hloop : front = [] ∨ blankLoop <+: front
    · rw [collapse_loop_loop ((blankLoop_prefix_append_iff front _).2 hloop),
        collapse_loop_loop ((blankLoop_prefix_append_iff front _).2 hloop), ih]
    · rw [collapse_loop (mt (blankLoop_prefix_append_iff front _).1 hloop),
        collapse_loop (mt (blankLoop_prefix_append_iff front _).1 hloop), ih]
  | char c front hloop ih =>
    -- The front does not become a loop by what stands behind it.
    have hnone : ∀ back, ¬ blankLoop <+: c :: (front ++ (blankLoop ++ back)) := by
      intro back hback
      obtain hnil | hfront := (blankLoop_prefix_append_iff (c :: front) back).1 hback
      · exact List.cons_ne_nil c front hnil
      · exact hloop hfront
    rw [List.cons_append, List.cons_append, collapse_cons (hnone _), collapse_cons (hnone _), ih]

theorem Drop.append_left {text next : Text} (front : Text) (h : Drop text next) :
    Drop (front ++ text) (front ++ next) := by
  obtain ⟨middle, back⟩ := h
  rw [← List.append_assoc front middle, ← List.append_assoc front middle]
  exact .loop (front ++ middle) back

/-- However many loops are dropped, the text is shortened to the same. -/
theorem collapse_eq_of_drops {text next : Text} (h : ReflTransGen Drop text next) :
    collapse text = collapse next := by
  induction h with
  | refl => rfl
  | tail _ hdrop ih => exact ih.trans hdrop.collapse_eq

/-- The pass over the text comes to nothing but drops. -/
theorem drops_collapse (text : Text) : ReflTransGen Drop text (collapse text) := by
  induction text using loop_induction with
  | nil => exact .refl
  | loop text ih =>
    by_cases hloop : blankLoop <+: text
    · rw [collapse_loop_loop hloop]
      obtain ⟨back, rfl⟩ := hloop
      exact .head (.loop [] back) ih
    · rw [collapse_loop hloop]
      exact ih.lift (blankLoop ++ ·) fun _ _ => Drop.append_left blankLoop
  | char c text hloop ih =>
    rw [collapse_cons hloop]
    exact ih.lift (c :: ·) fun _ _ => Drop.append_left [c]

/-! ## The normal form -/

/-- **One pass reaches the normal form.** In what a text is shortened to, no blank loop stands
behind another one. Shortening it again changes nothing, and a text stays as it is exactly when it
has no two loops in a row. What it is shortened to is the one and only text that can be reached from
it by dropping loops that stand behind others, in whatever order, and in which none is left to drop.
-/
theorem collapse_normalizes (text : Text) :
    ¬ Doubled (collapse text) ∧ collapse (collapse text) = collapse text ∧
      (collapse text = text ↔ ¬ Doubled text) ∧
      ∀ short, ReflTransGen Drop text short ∧ (∀ next, ¬ Drop short next) ↔
        short = collapse text := by
  have hnormal := not_doubled_collapse text
  refine ⟨hnormal, collapse_of_not_doubled hnormal, ?_, fun short => ?_⟩
  · exact ⟨fun h => h ▸ hnormal, collapse_of_not_doubled⟩
  · rw [← not_exists, ← doubled_iff_exists_drop]
    constructor
    · rintro ⟨hdrops, hshort⟩
      rw [collapse_eq_of_drops hdrops, collapse_of_not_doubled hshort]
    · rintro rfl
      exact ⟨drops_collapse text, hnormal⟩

/-- One loop stays between the pieces around it, which would be a loop together. -/
example : collapse "\\s\\s*\\s**".toList = "\\s\\s**".toList := by decide

end DocShape.Regex
