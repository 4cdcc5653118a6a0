import DocShape.Proofs.Level

/-!
# The six ways to write a value

A value is the name of a primitive kind, with rules or without, an array of a primitive kind, with
rules or without, an object, or an array of an object (`ValueStyle`). Each way is said on the text
alone (`ValueStyle.Fits`), and no text is written in two of them: the form that the parser takes a
text for and the last character of the text tell the way (`ValueStyle.told_of_fits`).

A value is parsed as a shape exactly when one way of writing gives the text that shape, and then
only one does (`parseValue_eq_ok_iff_existsUnique`). So the order in which the parser tries the
forms is of no account for the values that it accepts. It only decides how the others fail.

Relation: `parseValue` with any limit, under every policy, on every text, blanks included.
-/

set_option autoImplicit false

namespace DocShape

/-- The ways to write a value. -/
inductive ValueStyle where
  /-- The name of a kind. -/
  | kind
  /-- The name of a kind with rules. -/
  | ruledKind
  /-- The name of a kind with the brackets of an array. -/
  | kinds
  /-- The name of a kind with the brackets of an array and rules. -/
  | ruledKinds
  /-- An object. -/
  | object
  /-- An array of an object. -/
  | objects
deriving DecidableEq

namespace ValueStyle

/-- The text is written in this way. What stands between braces may be anything. -/
def Fits : ValueStyle → Text → Prop
  | .kind, raw => ∃ kind : Primitive, raw = kind.name
  | .ruledKind, raw => ∃ (kind : Primitive) (rules : Text),
      ¬ "[]<".toList <:+: rules ∧ raw = kind.name ++ ('<' :: rules ++ ['>'])
  | .kinds, raw => ∃ kind : Primitive, raw = kind.name ++ "[]".toList
  | .ruledKinds, raw => ∃ (kind : Primitive) (rules : Text),
      raw = kind.name ++ ("[]<".toList ++ rules ++ ['>'])
  | .object, raw => ∃ content : Text, raw = '{' :: content ++ ['}']
  | .objects, raw => ∃ content : Text, raw = "Array<".toList ++ ('{' :: content ++ ['}'] ++ ['>'])

/-- The text is written in this way and stands for the shape, given a parser for objects. -/
def Gives (parser : Text → Parsed Schema) : ValueStyle → Text → Shape → Prop
  | .kind, raw, shape => ∃ kind : Primitive, raw = kind.name ∧ shape = .primitive kind
  | .ruledKind, raw, shape => ∃ (kind : Primitive) (rules : Text),
      ¬ "[]<".toList <:+: rules ∧ raw = kind.name ++ ('<' :: rules ++ ['>']) ∧
        shape = .primitive kind
  | .kinds, raw, shape => ∃ kind : Primitive,
      raw = kind.name ++ "[]".toList ∧ shape = .array (.primitive kind)
  | .ruledKinds, raw, shape => ∃ (kind : Primitive) (rules : Text),
      raw = kind.name ++ ("[]<".toList ++ rules ++ ['>']) ∧ shape = .array (.primitive kind)
  | .object, raw, shape => ∃ (content : Text) (schema : Schema),
      raw = '{' :: content ++ ['}'] ∧ parser raw = .ok schema ∧ shape = .object schema
  | .objects, raw, shape => ∃ (content : Text) (schema : Schema),
      raw = "Array<".toList ++ ('{' :: content ++ ['}'] ++ ['>']) ∧
        parser ('{' :: content ++ ['}']) = .ok schema ∧ shape = .array (.object schema)

theorem Gives.fits {parser : Text → Parsed Schema} {style : ValueStyle} {raw : Text} {shape : Shape}
    (h : style.Gives parser raw shape) : style.Fits raw := by
  cases style with
  | kind =>
    obtain ⟨kind, hraw, -⟩ := h
    exact ⟨kind, hraw⟩
  | ruledKind =>
    obtain ⟨kind, rules, hrules, hraw, -⟩ := h
    exact ⟨kind, rules, hrules, hraw⟩
  | kinds =>
    obtain ⟨kind, hraw, -⟩ := h
    exact ⟨kind, hraw⟩
  | ruledKinds =>
    obtain ⟨kind, rules, hraw, -⟩ := h
    exact ⟨kind, rules, hraw⟩
  | object =>
    obtain ⟨content, schema, hraw, -⟩ := h
    exact ⟨content, hraw⟩
  | objects =>
    obtain ⟨content, schema, hraw, -⟩ := h
    exact ⟨content, hraw⟩

/-! ## One way at most -/

/-- The way of writing that is told by the form a text is taken for and by whether the text ends
with an angle bracket. -/
def told (form : ValueForm) (ruled : Bool) : ValueStyle :=
  match form, ruled with
  | .objects _, _ => .objects
  | .object _, _ => .object
  | .primitives _, false => .kinds
  | .primitives _, true => .ruledKinds
  | .primitive _, false => .kind
  | .primitive _, true => .ruledKind

/-- A text that is written in some way tells it. -/
theorem told_of_fits {style : ValueStyle} {raw : Text} (h : style.Fits raw) :
    told (ValueForm.ofText raw) (raw.getLast? == some '>') = style := by
  cases style with
  | kind =>
    obtain ⟨kind, rfl⟩ := h
    rw [ValueForm.ofText_name]
    cases kind <;> rfl
  | ruledKind =>
    obtain ⟨kind, rules, hrules, rfl⟩ := h
    rw [ValueForm.ofText_rules kind hrules, ← List.append_assoc, List.getLast?_concat]
    rfl
  | kinds =>
    obtain ⟨kind, rfl⟩ := h
    rw [ValueForm.ofText_brackets]
    cases kind <;> rfl
  | ruledKinds =>
    obtain ⟨kind, rules, rfl⟩ := h
    rw [ValueForm.ofText_brackets_rules, ← List.append_assoc, List.getLast?_concat]
    rfl
  | object =>
    obtain ⟨content, rfl⟩ := h
    rw [ValueForm.ofText_braced]
    rfl
  | objects =>
    obtain ⟨content, rfl⟩ := h
    rw [ValueForm.ofText_array_braced]
    rfl

/-- No text is written in two ways. -/
theorem eq_of_fits {style style' : ValueStyle} {raw : Text} (h : style.Fits raw)
    (h' : style'.Fits raw) : style = style' :=
  (told_of_fits h).symm.trans (told_of_fits h')

/-- The rules for the forms of a value, one for each way of writing. -/
theorem exists_gives_iff {parser : Text → Parsed Schema} {raw : Text} {shape : Shape} :
    (∃ style : ValueStyle, style.Gives parser raw shape) ↔
      ValueReads (Accepts parser) raw shape := by
  constructor
  · rintro ⟨style, h⟩
    cases style with
    | kind =>
      obtain ⟨kind, rfl, rfl⟩ := h
      exact .primitive kind
    | ruledKind =>
      obtain ⟨kind, rules, hrules, rfl, rfl⟩ := h
      exact .ruled kind hrules
    | kinds =>
      obtain ⟨kind, rfl, rfl⟩ := h
      exact .primitives kind
    | ruledKinds =>
      obtain ⟨kind, rules, rfl, rfl⟩ := h
      exact .ruledPrimitives kind rules
    | object =>
      obtain ⟨content, schema, rfl, hschema, rfl⟩ := h
      exact .object hschema
    | objects =>
      obtain ⟨content, schema, rfl, hschema, rfl⟩ := h
      exact .objects hschema
  · intro h
    cases h with
    | primitive kind => exact ⟨.kind, kind, rfl, rfl⟩
    | ruled kind hrules => exact ⟨.ruledKind, kind, _, hrules, rfl, rfl⟩
    | primitives kind => exact ⟨.kinds, kind, rfl, rfl⟩
    | ruledPrimitives kind rules => exact ⟨.ruledKinds, kind, rules, rfl, rfl⟩
    | object hschema => exact ⟨.object, _, _, rfl, hschema, rfl⟩
    | objects hschema => exact ⟨.objects, _, _, rfl, hschema, rfl⟩

end ValueStyle

/-- **Values are written in six ways, and in one at a time.** A value is parsed as a shape exactly
when exactly one way of writing gives the text that shape, and no text is written in two ways. -/
theorem parseValue_eq_ok_iff_existsUnique (policy : KeyPolicy) (limit : Nat) (raw : Text)
    (shape : Shape) :
    (parseValue policy (limit + 1) raw = .ok shape ↔
      ∃! style : ValueStyle, style.Gives (parseObject policy limit) raw shape) ∧
    ¬ ∃ style style' : ValueStyle, style ≠ style' ∧ style.Fits raw ∧ style'.Fits raw := by
  constructor
  · rw [parseValue, valueWith_eq_ok_iff, ← ValueStyle.exists_gives_iff]
    constructor
    · rintro ⟨style, h⟩
      refine ⟨style, h, ?_⟩
      intro style' h'
      exact ValueStyle.eq_of_fits h'.fits h.fits
    · exact ExistsUnique.exists
  · rintro ⟨style, style', hne, h, h'⟩
    exact hne (ValueStyle.eq_of_fits h h')

end DocShape
