import DocShape.Proofs.Acceptance

/-!
# The documented grammar

The notation is documented for documents whose keys and rules are safe texts without blanks, whose
keys hold no colon and whose rules are not misleading (`Document.Documented`), and blanks may be put
in anywhere, inside words too (`Text.Spaced`). Each such text is parsed into the schema that the
document declares. What the keys and the rules look like does not matter otherwise: colons, brackets
and commas between braces may stand in rules.

Relation: `parseWithin` with any limit, under the policies that take repeated keys.
-/

set_option autoImplicit false

namespace DocShape

namespace Text

/-- The second text is the first one with blanks put in at any places. -/
inductive Spaced : Text → Text → Prop
  | nil : Spaced [] []
  | keep (c : Char) {s t : Text} : Spaced s t → Spaced (c :: s) (c :: t)
  | blank {c : Char} {s t : Text} : isBlank c = true → Spaced s t → Spaced s (c :: t)

/-- Blanks that were put in are removed again, if there were none before. -/
theorem Spaced.removeBlanks_eq {s t : Text} (h : Spaced s t) (hs : Blankless s) :
    removeBlanks t = s := by
  induction h with
  | nil => rfl
  | keep c _ ih =>
    rw [blankless_cons_iff] at hs
    rw [removeBlanks, List.filter_cons, if_pos (by simp [hs.1]), ← removeBlanks, ih hs.2]
  | blank hc _ ih =>
    rw [removeBlanks, List.filter_cons, if_neg (by simp [hc]), ← removeBlanks, ih hs]

/-- Every text is its own text without blanks, with the blanks put in. -/
theorem spaced_removeBlanks (t : Text) : Spaced (removeBlanks t) t := by
  induction t with
  | nil => exact .nil
  | cons c t ih =>
    rw [removeBlanks, List.filter_cons]
    split
    · exact .keep c ih
    · rename_i hc
      exact .blank (by simpa using hc) ih

end Text

namespace Document

/-- Keys and rules are safe texts without blanks, no key holds a colon and the rules of primitive
kinds are not misleading, in the document and in every object inside it. -/
structure Documented (doc : Document) : Prop where
  pieces : ∀ piece ∈ doc.pieces, Brace.isSafe piece = true ∧ Text.Blankless piece
  colonless : ∀ object ∈ doc.objects, ∀ property ∈ object, ':' ∉ property.1
  plain : ∀ object ∈ doc.objects, ∀ property ∈ object, property.2.Plain

/-- In a documented document no comma is exposed, whatever object it stands in. -/
theorem Documented.isSafe_segments {doc object : Document} (h : doc.Documented)
    (hobject : object ∈ doc.objects) :
    ∀ segment ∈ object.segments, Brace.isSafe segment = true := by
  refine segments_induction (p := fun text => Brace.isSafe text = true) ?_ ?_ ?_ (by decide) ?_
    hobject
  · intro s t hs ht
    exact Brace.isSafe_append hs ht
  · intro texts htexts
    exact Brace.isSafe_braced htexts
  · intro kind
    cases kind <;> decide
  · intro piece hpiece
    exact (h.pieces piece hpiece).1

theorem Documented.blankless_text {doc : Document} (h : doc.Documented) :
    Text.Blankless doc.text := by
  rw [text, blankless_objectText_iff]
  refine segments_induction (p := Text.Blankless) ?_ ?_ ?_ (by decide) ?_ doc.mem_objects_self
  · intro s t hs ht
    exact Text.blankless_append_iff.2 ⟨hs, ht⟩
  · intro texts htexts
    exact blankless_objectText_iff.2 htexts
  · intro kind
    cases kind <;> decide
  · intro piece hpiece
    exact (h.pieces piece hpiece).2

/-- A documented document is legible under the policies that take repeated keys. -/
theorem Documented.legible {policy : KeyPolicy} {limit : Nat} {doc : Document} (h : doc.Documented)
    (hpolicy : policy ≠ .error) (hnesting : doc.nesting ≤ limit) : doc.Legible policy limit := by
  refine ⟨hnesting, ?_, ?_⟩
  · intro object hobject
    exact
      { colonless := h.colonless object hobject
        plain := h.plain object hobject
        separate := Brace.separate_of_isSafe (h.isSafe_segments hobject) }
  · intro herror
    exact absurd herror hpolicy

end Document

/-- **The documented grammar.** Every text of a documented document, with blanks put in at any
places, is parsed into the schema that the document declares: rules are dropped, and in each object
every key stands once, where it is declared first, with the value that counts under the policy. -/
theorem parseWithin_documented (limit : Nat) {policy : KeyPolicy} (hpolicy : policy ≠ .error)
    {doc : Document} (hdoc : doc.Documented) (hnesting : doc.nesting ≤ limit) {text : Text}
    (htext : Text.Spaced doc.text text) :
    parseWithin limit policy text = .ok (doc.schema policy) := by
  have hblank := hdoc.blankless_text
  rw [parseWithin, htext.removeBlanks_eq hblank]
  exact parseObject_text (hdoc.legible hpolicy hnesting) hblank

/-- Delimiters stand in keys and rules, a key is repeated and blanks stand inside words. -/
theorem parse_spaced_document :
    let doc : Document :=
      [("a{,}".toList, .primitive .string (some "x:[y]<{,}>".toList)),
        ("b".toList, .objectArray [("k".toList, .primitiveArray .number (some "[]<".toList)),
          ("k".toList, .primitive .boolean none)]),
        ("a{,}".toList, .object [])]
    let text := " {a{ ,}:str ing<x:[y]<{,}>>,b:Arr ay<{k:number[]<[]<>,k:boolean}>,a{,}:{}}".toList
    Text.Spaced doc.text text ∧ parse .last text = .ok [("a{,}".toList, .object []),
      ("b".toList, .array (.object [("k".toList, .primitive .boolean)]))] := by
  intro doc text
  have hdoc : doc.Documented := ⟨by decide +kernel, by decide +kernel, by decide +kernel⟩
  have hremove : Text.removeBlanks text = doc.text := by decide +kernel
  have htext : Text.Spaced doc.text text := hremove ▸ Text.spaced_removeBlanks text
  have hschema : doc.schema .last = [("a{,}".toList, .object []),
      ("b".toList, .array (.object [("k".toList, .primitive .boolean)]))] := by rfl
  refine ⟨htext, ?_⟩
  rw [parse, ← hschema]
  exact parseWithin_documented nestingLimit (by decide) hdoc (by decide +kernel) htext

end DocShape
