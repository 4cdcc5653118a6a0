import DocShape.Proofs.Acceptance

/-!
# Accepted texts with unbalanced braces

Nothing in the parser checks that braces are balanced, and a text whose braces are not is not always
rejected. The braces of the notation itself come in pairs, so a document whose keys and rules are
all balanced has a balanced text (`Document.balanced_text`). A text with unbalanced braces is
therefore accepted only as the text of a legible document that has an unbalanced key or unbalanced
rules, and each such text is accepted (`parseWithin_unbalanced_iff`).

Relation: `parseWithin` with any limit, under every policy.
-/

set_option autoImplicit false

namespace DocShape

namespace Brace

/-- A blank is no brace. -/
theorem weight_of_isBlank {c : Char} (h : Text.isBlank c = true) : weight c = 0 := by
  apply weight_of_ne
  · rintro rfl
    exact absurd h (by decide)
  · rintro rfl
    exact absurd h (by decide)

theorem balancedFrom_removeBlanks_iff {level : Int} {text : Text} :
    BalancedFrom level (Text.removeBlanks text) ↔ BalancedFrom level text := by
  induction text generalizing level with
  | nil => rfl
  | cons c text ih =>
    rw [Text.removeBlanks, List.filter_cons]
    split
    · rw [← Text.removeBlanks, balancedFrom_cons_iff, balancedFrom_cons_iff, ih]
    · rename_i hblank
      have hweight : weight c = 0 := weight_of_isBlank (by simpa using hblank)
      rw [← Text.removeBlanks, balancedFrom_cons_iff, hweight, Int.add_zero, ih]
      -- A text that is balanced from a depth does not begin below zero.
      constructor
      · intro h
        have hlevel : 0 ≤ level := by simpa using h.1 [] List.nil_prefix
        exact ⟨hlevel, h⟩
      · exact And.right

/-- Blanks do not matter for balance. -/
theorem balanced_removeBlanks_iff {text : Text} :
    Balanced (Text.removeBlanks text) ↔ Balanced text := by
  rw [← balancedFrom_zero_iff, ← balancedFrom_zero_iff, balancedFrom_removeBlanks_iff]

end Brace

/-- The braces of a document balance if those in its keys and rules do. -/
theorem Document.balanced_text {doc : Document} (h : ∀ piece ∈ doc.pieces, Brace.Balanced piece) :
    Brace.Balanced doc.text := by
  rw [text]
  apply Brace.Balanced.braced
  apply Brace.balanced_joinWith
  refine segments_induction (p := Brace.Balanced) ?_ ?_ ?_ (by decide) h doc.mem_objects_self
  · intro s t hs ht
    exact hs.append ht
  · intro texts htexts
    exact (Brace.balanced_joinWith htexts).braced
  · intro kind
    cases kind <;> decide

/-- **Unbalanced braces.** A text with unbalanced braces is parsed exactly when it is, but for
blanks, the text of a legible document with a key or rules whose braces are unbalanced. -/
theorem parseWithin_unbalanced_iff (limit : Nat) (policy : KeyPolicy) {text : Text}
    (h : ¬ Brace.Balanced text) :
    (∃ schema, parseWithin limit policy text = .ok schema) ↔
      ∃ doc : Document, doc.text = Text.removeBlanks text ∧ doc.Legible policy limit ∧
        ∃ piece ∈ doc.pieces, ¬ Brace.Balanced piece := by
  simp only [parseWithin, parseObject_eq_ok_iff (Text.blankless_removeBlanks text)]
  constructor
  · rintro ⟨schema, doc, htext, hlegible, -⟩
    refine ⟨doc, htext, hlegible, ?_⟩
    by_contra hpieces
    apply h
    rw [← Brace.balanced_removeBlanks_iff, ← htext]
    apply Document.balanced_text
    intro piece hpiece
    by_contra hbalanced
    exact hpieces ⟨piece, hpiece, hbalanced⟩
  · rintro ⟨doc, htext, hlegible, -⟩
    exact ⟨doc.schema policy, doc, htext, hlegible, rfl⟩

/-- A closing brace too many stands in the key and the text is parsed. -/
theorem parse_unbalanced_key :
    let text := "{a}:string".toList ++ ['}']
    ¬ Brace.Balanced text ∧ parse .error text = .ok [(['a', '}'], .primitive .string)] ∧
      ∃ doc : Document, doc.text = text ∧ doc.Legible .error nestingLimit ∧
        ∃ piece ∈ doc.pieces, ¬ Brace.Balanced piece := by
  intro text
  have hunbalanced : ¬ Brace.Balanced text := by decide
  have hread : parse .error text = .ok [(['a', '}'], .primitive .string)] := by rfl
  have hdoc := (parseWithin_unbalanced_iff nestingLimit .error hunbalanced).1 ⟨_, hread⟩
  have hblanks : Text.removeBlanks text = text := by decide
  rw [hblanks] at hdoc
  exact ⟨hunbalanced, hread, hdoc⟩

end DocShape
