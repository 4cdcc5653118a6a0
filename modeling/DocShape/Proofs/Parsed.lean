import DocShape.Proofs.Merging
import DocShape.Proofs.Objects

/-!
# What every parsed schema is like

A shape is proper when the keys of each of its objects are distinct and free of colons and blanks,
no array stands directly in an array and its objects nest within a number of levels
(`Shape.Proper`). An object is proper when its keys are and its properties are proper with one level
less (`Shape.proper_object_iff`), so every schema that the parser answers is proper, whatever text
it was read from (`proper_of_parseObject`).

Beside that every key is taken from the text as it stands there (`keysIn_of_parseObject`): what the
parser trims, cuts off and puts together never makes a new key. Together this is what is known of a
schema without knowing the text (`parseWithin_keeps_to_text`).
-/

set_option autoImplicit false

namespace DocShape

/-- Keys are distinct and hold no colon and no blank, no array stands directly in an array, and at
most `levels` objects stand around each other. -/
structure Shape.Proper (levels : Nat) (shape : Shape) : Prop where
  distinct : shape.Distinct
  flat : shape.Flat
  nesting_le : shape.nesting ≤ levels
  keys : ∀ object ∈ shape.objects, ∀ key ∈ object.keys, ':' ∉ key ∧ Text.Blankless key

namespace Shape

theorem proper_primitive (levels : Nat) (kind : Primitive) : (Shape.primitive kind).Proper levels :=
  { distinct := by simp [Distinct]
    flat := by simp [Flat]
    nesting_le := by simp [nesting]
    keys := by simp [objects] }

theorem proper_array_primitive (levels : Nat) (kind : Primitive) :
    (Shape.array (.primitive kind)).Proper levels :=
  { distinct := by simp [Distinct]
    flat := by simp [Flat]
    nesting_le := by simp [nesting]
    keys := by simp [objects] }

theorem proper_array_object_iff {levels : Nat} {properties : Schema} :
    (Shape.array (.object properties)).Proper levels ↔ (Shape.object properties).Proper levels := by
  constructor
  · rintro ⟨hdistinct, hflat, hnesting, hkeys⟩
    rw [Distinct] at hdistinct
    rw [flat_array_object_iff] at hflat
    rw [nesting] at hnesting
    rw [objects] at hkeys
    exact ⟨hdistinct, by rwa [Flat], hnesting, hkeys⟩
  · rintro ⟨hdistinct, hflat, hnesting, hkeys⟩
    rw [Flat] at hflat
    exact ⟨by rwa [Distinct], flat_array_object_iff.2 hflat, by rwa [nesting], by rwa [objects]⟩

/-- An object is proper when its keys are and its properties are proper with one level less. -/
theorem proper_object_iff {levels : Nat} {schema : Schema} :
    (Shape.object schema).Proper (levels + 1) ↔
      schema.keys.Nodup ∧ ∀ property ∈ schema,
        (':' ∉ property.1 ∧ Text.Blankless property.1) ∧ property.2.Proper levels := by
  constructor
  · rintro ⟨hdistinct, hflat, hnesting, hkeys⟩
    have hdistinct := Schema.distinct_iff.1 hdistinct
    rw [Flat, Schema.flat_iff] at hflat
    rw [nesting, Nat.add_le_add_iff_right, Schema.nesting_le_iff] at hnesting
    rw [objects, List.forall_mem_cons] at hkeys
    refine ⟨hdistinct.1, ?_⟩
    intro property hproperty
    refine ⟨?_, ?_⟩
    · exact hkeys.1 property.1 (List.mem_map_of_mem hproperty)
    · exact
        { distinct := hdistinct.2 property hproperty
          flat := hflat property hproperty
          nesting_le := hnesting property hproperty
          keys := fun object hobject =>
            hkeys.2 object (Schema.mem_innerObjects_iff.2 ⟨property, hproperty, hobject⟩) }
  · rintro ⟨hnodup, hproperties⟩
    refine
      { distinct := Schema.distinct_iff.2
          ⟨hnodup, fun property hproperty => (hproperties property hproperty).2.distinct⟩
        flat := ?_
        nesting_le := ?_
        keys := ?_ }
    · rw [Flat, Schema.flat_iff]
      intro property hproperty
      exact (hproperties property hproperty).2.flat
    · rw [nesting, Nat.add_le_add_iff_right, Schema.nesting_le_iff]
      intro property hproperty
      exact (hproperties property hproperty).2.nesting_le
    · rw [objects, List.forall_mem_cons]
      constructor
      · intro key hkey
        obtain ⟨property, hproperty, rfl⟩ := List.mem_map.1 hkey
        exact (hproperties property hproperty).1
      · intro object hobject
        obtain ⟨property, hproperty, hmem⟩ := Schema.mem_innerObjects_iff.1 hobject
        exact (hproperties property hproperty).2.keys object hmem

/-- The object in a proper shape is proper. -/
theorem Proper.inner {levels : Nat} {shape : Shape} {object : Schema} (h : shape.Proper levels)
    (hobject : shape.innerSchema? = some object) : (Shape.object object).Proper levels := by
  cases shape with
  | primitive kind => simp [innerSchema?] at hobject
  | object properties =>
    obtain rfl : properties = object := by simpa [innerSchema?] using hobject
    exact h
  | array items =>
    cases items with
    | primitive kind => simp [innerSchema?] at hobject
    | array items => exact absurd h.flat (by simp [Flat])
    | object properties =>
      obtain rfl : properties = object := by simpa [innerSchema?] using hobject
      exact proper_array_object_iff.1 h

theorem Proper.mono {levels more : Nat} {shape : Shape} (h : shape.Proper levels)
    (hle : levels ≤ more) : shape.Proper more :=
  { distinct := h.distinct
    flat := h.flat
    nesting_le := Nat.le_trans h.nesting_le hle
    keys := h.keys }

end Shape

/-- A value is proper if the objects in it are. -/
theorem ValueReads.proper {levels : Nat} {raw : Text} {shape : Shape}
    (h : ValueReads (fun _ inner => ∃ below < levels, (Shape.object inner).Proper (below + 1))
      raw shape) : shape.Proper levels := by
  cases h with
  | primitive kind => exact Shape.proper_primitive levels kind
  | ruled kind hrules => exact Shape.proper_primitive levels kind
  | primitives kind => exact Shape.proper_array_primitive levels kind
  | ruledPrimitives kind rules => exact Shape.proper_array_primitive levels kind
  | object hinner =>
    obtain ⟨below, hbelow, hproper⟩ := hinner
    exact hproper.mono hbelow
  | objects hinner =>
    obtain ⟨below, hbelow, hproper⟩ := hinner
    exact Shape.proper_array_object_iff.2 (hproper.mono hbelow)

/-- Every schema that is read is proper. -/
theorem proper_of_parseObject {policy : KeyPolicy} {limit : Nat} {text : Text} {schema : Schema}
    (hblank : Text.Blankless text) (h : parseObject policy limit text = .ok schema) :
    (Shape.object schema).Proper (limit + 1) := by
  refine parseObject_induction
    (motive := fun limit _ schema => (Shape.object schema).Proper (limit + 1)) ?_ hblank h
  intro limit segments entries schema hblank _ hreads hmerge
  refine Shape.proper_object_iff.2 ⟨nodup_of_merge hmerge, ?_⟩
  intro property hproperty
  -- What is merged has been declared, so it comes from one of the segments.
  have hentry := mem_of_merge hmerge hproperty
  obtain ⟨segment, hsegment, hkey, raw, rfl, hvalue⟩ := exists_of_mem_right hreads hentry
  have hsegment := hblank _ hsegment
  rw [Text.blankless_append_iff] at hsegment
  -- Whatever is proper below stays so with the limit of this level.
  exact ⟨⟨hkey, hsegment.1⟩, hvalue.proper⟩

/-! ## Keys and the text -/

/-- Every key in the shape stands somewhere in the text. -/
def Shape.KeysIn (shape : Shape) (text : Text) : Prop :=
  ∀ object ∈ shape.objects, ∀ key ∈ object.keys, key <:+: text

theorem Shape.KeysIn.mono {shape : Shape} {text other : Text} (h : shape.KeysIn text)
    (hpiece : text <:+: other) : shape.KeysIn other :=
  fun object hobject key hkey => (h object hobject key hkey).trans hpiece

/-- The keys of an object stand in a text when its own keys and those of its properties do. -/
theorem Shape.keysIn_object_iff {schema : Schema} {text : Text} :
    (Shape.object schema).KeysIn text ↔
      ∀ property ∈ schema, property.1 <:+: text ∧ property.2.KeysIn text := by
  rw [KeysIn, objects, List.forall_mem_cons]
  constructor
  · rintro ⟨hkeys, hinner⟩ property hproperty
    refine ⟨hkeys property.1 (List.mem_map_of_mem hproperty), fun object hobject => ?_⟩
    exact hinner object (Schema.mem_innerObjects_iff.2 ⟨property, hproperty, hobject⟩)
  · intro h
    constructor
    · intro key hkey
      obtain ⟨property, hproperty, rfl⟩ := List.mem_map.1 hkey
      exact (h property hproperty).1
    · intro object hobject
      obtain ⟨property, hproperty, hmem⟩ := Schema.mem_innerObjects_iff.1 hobject
      exact (h property hproperty).2 object hmem

/-- The keys in a value stand in its text if those of the objects in it do. -/
theorem ValueReads.keysIn {inner : Text → Schema → Prop} {raw : Text} {shape : Shape}
    (hinner : ∀ text schema, inner text schema → (Shape.object schema).KeysIn text)
    (h : ValueReads inner raw shape) : shape.KeysIn raw := by
  cases h with
  | primitive kind => simp [Shape.KeysIn, Shape.objects]
  | ruled kind hrules => simp [Shape.KeysIn, Shape.objects]
  | primitives kind => simp [Shape.KeysIn, Shape.objects]
  | ruledPrimitives kind rules => simp [Shape.KeysIn, Shape.objects]
  | object hschema => exact hinner _ _ hschema
  | @objects content schema hschema =>
    have hkeys : (Shape.array (.object schema)).KeysIn ('{' :: content ++ ['}']) := by
      rw [Shape.KeysIn, Shape.objects]
      exact hinner _ _ hschema
    exact hkeys.mono ⟨"Array<".toList, ['>'], List.append_assoc _ _ _⟩

/-- Every key of a schema that is read stands in the text. -/
theorem keysIn_of_parseObject {policy : KeyPolicy} {limit : Nat} {text : Text} {schema : Schema}
    (hblank : Text.Blankless text) (h : parseObject policy limit text = .ok schema) :
    (Shape.object schema).KeysIn text := by
  refine parseObject_induction
    (motive := fun _ text schema => (Shape.object schema).KeysIn text) ?_ hblank h
  intro limit segments entries schema _ _ hreads hmerge
  refine Shape.keysIn_object_iff.2 fun property hproperty => ?_
  obtain ⟨segment, hsegment, -, raw, rfl, hvalue⟩ :=
    exists_of_mem_right hreads (mem_of_merge hmerge hproperty)
  -- The key and the value are the two sides of the first colon of a segment of the text.
  have hinside : property.1 ++ ':' :: raw <:+: objectText segments :=
    (Text.infix_joinWith hsegment).trans ⟨['{'], ['}'], rfl⟩
  have hkey : property.1 <:+: property.1 ++ ':' :: raw := (List.prefix_append _ _).isInfix
  have hraw : raw <:+: property.1 ++ ':' :: raw := ⟨property.1 ++ [':'], [], by simp⟩
  have hkeys : property.2.KeysIn raw := hvalue.keysIn fun _ _ ⟨_, _, hinner⟩ => hinner
  exact ⟨hkey.trans hinside, hkeys.mono (hraw.trans hinside)⟩

/-- **Every parsed schema keeps to its text.** In each of its objects the keys are distinct, and
each key has no colon and no blank and stands as it is in the text without blanks. No array stands
directly in an array, and the schema is written without blanks. -/
theorem parseWithin_keeps_to_text {limit : Nat} {policy : KeyPolicy} {text : Text} {schema : Schema}
    (h : parseWithin limit policy text = .ok schema) :
    (∀ object ∈ schema.objects, object.keys.Nodup ∧
      ∀ key ∈ object.keys, ':' ∉ key ∧ Text.Blankless key ∧ key <:+: Text.removeBlanks text) ∧
    schema.Flat ∧ Text.Blankless schema.written := by
  have hblank := Text.blankless_removeBlanks text
  have hproper := proper_of_parseObject hblank h
  have hkeysIn := keysIn_of_parseObject hblank h
  have hobjects : (Shape.object schema).objects = schema.objects := by
    rw [Shape.objects, Schema.objects]
  have hdistinct := Shape.distinct_iff_forall_objects.1 hproper.distinct
  have hkeys := hproper.keys
  rw [Shape.KeysIn, hobjects] at hkeysIn
  rw [hobjects] at hdistinct hkeys
  refine ⟨fun object hobject => ⟨hdistinct object hobject, fun key hkey => ?_⟩, ?_, ?_⟩
  · obtain ⟨hcolon, hbare⟩ := hkeys object hobject key hkey
    exact ⟨hcolon, hbare, hkeysIn object hobject key hkey⟩
  · have hflat := hproper.flat
    rwa [Shape.Flat] at hflat
  · exact Shape.blankless_written fun object hobject key hkey =>
      (hproper.keys object hobject key hkey).2

/-- Blanks inside a name and a key, a comma and stray braces in a key, and a key that is declared
again. -/
theorem parse_keeps_to_text_stray :
    let text := String.toList
      "\x7b \x7da,b\x7b : Array<\x7bx : str ing[]<n>, x:number\x7d>, c d: number<\x7b1,2\x7d> \x7d"
    ∃ schema, parse .last text = .ok schema ∧
      schema.written = "\x7b\x7da,b\x7b:Array<\x7bx:number\x7d>,cd:number\x7d".toList ∧
      (∀ object ∈ schema.objects, object.keys.Nodup ∧
        ∀ key ∈ object.keys, ':' ∉ key ∧ Text.Blankless key ∧ key <:+: Text.removeBlanks text) ∧
      schema.Flat ∧ Text.Blankless schema.written := by
  intro text
  have hcheck : (parse .last text).toOption.any (fun schema => decide (schema.written =
      "\x7b\x7da,b\x7b:Array<\x7bx:number\x7d>,cd:number\x7d".toList)) = true := by
    decide +kernel
  obtain ⟨schema, hschema, hwritten⟩ := (Option.any_eq_true _ _).1 hcheck
  have hread : parse .last text = .ok schema := by
    cases hparse : parse .last text with
    | error failure => simp [hparse, Except.toOption] at hschema
    | ok found => simpa [hparse, Except.toOption] using hschema
  exact ⟨schema, hread, of_decide_eq_true hwritten, parseWithin_keeps_to_text hread⟩

end DocShape
