import DocShape.Proofs.Merging
import DocShape.Proofs.Objects

/-!
# Reading back what is written

A schema is legible when its keys are distinct, hold no colon and no blank, and the written
properties of each of its objects are separate (`Schema.Legible`). The parser reads the canonical
text of a legible schema back as the schema, keys in the same order, exactly when no array stands
directly in an array (`parseObject_written_iff`). Schemas whose keys are safe texts are separated
(`Schema.separated_of_isSafe`), so the same holds of them.

Relation: `parseWithin` with any limit; `parse` is the case of `nestingLimit`.
-/

set_option autoImplicit false

namespace DocShape

/-! ## Arrays of arrays -/

theorem Shape.getLast?_written_array (items : Shape) :
    (Shape.array items).written.getLast? = some ']' ∨
      (Shape.array items).written.getLast? = some '>' := by
  cases items with
  | primitive kind =>
    rw [written_array_primitive]
    simp
  | array items =>
    rw [written_array_array]
    simp
  | object properties =>
    rw [written_array_object]
    simp [List.getLast?_cons]

/-- The name of a kind ends neither like an array nor like rules. -/
theorem Primitive.getLast?_name_ne (kind : Primitive) :
    kind.name.getLast? ≠ some ']' ∧ kind.name.getLast? ≠ some '>' := by
  cases kind <;> decide

/-- An array of arrays has none of the forms of a value. -/
theorem not_valueReads_array_array {inner : Text → Schema → Prop} {items shape : Shape} :
    ¬ ValueReads inner (Shape.array (.array items)).written shape := by
  rw [Shape.written_array_array]
  intro h
  -- The text ends with a bracket, which leaves one form of a value to be excluded.
  generalize hraw : (Shape.array items).written ++ "[]".toList = raw at h
  have hlast : raw.getLast? = some ']' := by simp [← hraw]
  cases h with
  | primitive kind => exact kind.getLast?_name_ne.1 hlast
  | ruled kind hrules => simp [List.getLast?_cons] at hlast
  | primitives kind =>
    -- Taking the outer brackets off leaves an array where the name of a kind is expected.
    have hname : (Shape.array items).written = kind.name := List.append_cancel_right hraw
    have harray := Shape.getLast?_written_array items
    rw [hname] at harray
    exact harray.elim kind.getLast?_name_ne.1 kind.getLast?_name_ne.2
  | ruledPrimitives kind rules => simp [List.getLast?_cons] at hlast
  | object hschema => simp [List.getLast?_cons] at hlast
  | objects hschema => simp [List.getLast?_cons] at hlast

/-! ## One level -/

/-- An answer that is a given object, if that object is flat, is mapped accordingly. -/
theorem map_eq_ok_iff_flat {answer : Parsed Schema} {object : Schema}
    (h : ∀ schema, answer = .ok schema ↔ object.Flat ∧ schema = object) (wrap : Schema → Shape)
    (result : Shape) : answer.map wrap = .ok result ↔ object.Flat ∧ result = wrap object := by
  simp only [map_eq_ok_iff, h]
  constructor
  · rintro ⟨schema, ⟨hflat, rfl⟩, rfl⟩
    exact ⟨hflat, rfl⟩
  · rintro ⟨hflat, rfl⟩
    exact ⟨object, ⟨hflat, rfl⟩, rfl⟩

/-- A written value is accepted as itself if the object in it is, unless it is an array of
arrays. -/
theorem valueReads_written_iff {nested : Text → Parsed Schema} {shape result : Shape}
    (hnested : ∀ object, shape.innerSchema? = some object → ∀ schema,
      nested object.written = .ok schema ↔ object.Flat ∧ schema = object) :
    ValueReads (Accepts nested) shape.written result ↔ shape.Flat ∧ result = shape := by
  have htoken (kind : Primitive) : parseToken kind.name = .ok (.primitive kind) := by
    rw [parseToken, Primitive.ofName?_name]
  cases shape with
  | primitive kind =>
    rw [← valueWith_eq_ok_iff, Shape.written, valueWith, ValueForm.ofText_name]
    simp only [htoken, Except.ok.injEq, Shape.Flat, true_and, eq_comm]
  | array items =>
    cases items with
    | primitive kind =>
      rw [← valueWith_eq_ok_iff, Shape.written_array_primitive, valueWith,
        ValueForm.ofText_brackets]
      simp only [htoken, Except.map, Except.ok.injEq, Shape.Flat, true_and, eq_comm]
    | array items =>
      rw [Shape.Flat, false_and, iff_false]
      exact not_valueReads_array_array
    | object properties =>
      have hobject := hnested properties rfl
      rw [Schema.written_eq_objectText, objectText] at hobject
      rw [← valueWith_eq_ok_iff, Shape.written_array_object, Schema.written_eq_objectText,
        objectText, valueWith, ValueForm.ofText_array_braced, Shape.flat_array_object_iff]
      exact map_eq_ok_iff_flat hobject (fun schema => .array (.object schema)) result
  | object properties =>
    have hobject := hnested properties rfl
    rw [Schema.written_eq_objectText, objectText] at hobject
    rw [← valueWith_eq_ok_iff, Shape.written, valueWith, ValueForm.ofText_braced, Shape.Flat]
    exact map_eq_ok_iff_flat hobject .object result

/-- The written properties are accepted as themselves if their values are. -/
theorem forall₂_writtenEntries_iff {inner : Text → Schema → Prop} {schema : Schema}
    {entries : List (Text × Shape)} (hkeys : ∀ key ∈ schema.keys, ':' ∉ key)
    (hvalues : ∀ property ∈ schema, ∀ result,
      ValueReads inner property.2.written result ↔ property.2.Flat ∧ result = property.2) :
    List.Forall₂ (PropertyReads inner) schema.writtenEntries entries ↔
      schema.Flat ∧ entries = schema := by
  induction schema generalizing entries with
  | nil => simp [Schema.writtenEntries, Schema.Flat]
  | cons property schema ih =>
    rw [Schema.keys, List.map_cons, List.forall_mem_cons] at hkeys
    rw [List.forall_mem_cons] at hvalues
    rw [Schema.writtenEntries, Schema.Flat, List.forall₂_cons_left_iff]
    simp only [propertyReads_append_iff hkeys.1, hvalues.1, ih hkeys.2 hvalues.2]
    constructor
    · rintro ⟨entry, rest, ⟨hkey, hflat, hshape⟩, ⟨hrest, rfl⟩, rfl⟩
      have hentry : entry = property := Prod.ext hkey hshape
      exact ⟨⟨hflat, hrest⟩, by rw [hentry]⟩
    · rintro ⟨⟨hflat, hrest⟩, rfl⟩
      exact ⟨property, schema, ⟨rfl, hflat, rfl⟩, ⟨hrest, rfl⟩, rfl⟩

/-! ## Legible schemas -/

/-- In every object of the schema the written properties are separate. -/
def Schema.Separated (schema : Schema) : Prop :=
  ∀ object ∈ schema.objects, Brace.Separate object.writtenEntries

instance (schema : Schema) : Decidable schema.Separated :=
  inferInstanceAs (Decidable (∀ object ∈ schema.objects, Brace.Separate object.writtenEntries))

/-- Keys are distinct and hold no colon and no blank, and the written properties of every object are
separate. -/
structure Schema.Legible (schema : Schema) : Prop where
  distinct : schema.Distinct
  colonless : ∀ object ∈ schema.objects, ∀ key ∈ object.keys, ':' ∉ key
  blankless : ∀ object ∈ schema.objects, ∀ key ∈ object.keys, Text.Blankless key
  separated : schema.Separated

/-- The objects inside a legible schema are legible. -/
theorem Schema.Legible.inner {schema object : Schema} {property : Text × Shape}
    (h : schema.Legible) (hproperty : property ∈ schema)
    (hobject : property.2.innerSchema? = some object) : object.Legible := by
  obtain ⟨hobjects, -, hdistinct⟩ := Shape.of_innerSchema? hobject
  have hsub : ∀ inner ∈ object.objects, inner ∈ schema.objects := fun inner hinner =>
    mem_objects_of_property hproperty (hobjects ▸ hinner)
  exact
    { distinct := hdistinct ((distinct_iff.1 h.distinct).2 property hproperty)
      colonless := fun inner hinner => h.colonless inner (hsub inner hinner)
      blankless := fun inner hinner => h.blankless inner (hsub inner hinner)
      separated := fun inner hinner => h.separated inner (hsub inner hinner) }

theorem Schema.writtenEntries_ne_singleton_nil (schema : Schema) :
    schema.writtenEntries ≠ [[]] := by
  cases schema with
  | nil => simp [writtenEntries]
  | cons property schema => simp [writtenEntries]

/-- One level reads a legible schema back if the levels below do so with the objects inside. -/
theorem objectWith_written_iff {policy : KeyPolicy} {nested : Text → Parsed Schema}
    {schema result : Schema} (hlegible : schema.Legible)
    (hnested : ∀ property ∈ schema, ∀ object, property.2.innerSchema? = some object →
      ∀ inner, nested object.written = .ok inner ↔ object.Flat ∧ inner = object) :
    objectWith policy nested schema.written = .ok result ↔ schema.Flat ∧ result = schema := by
  have hblank : Text.Blankless schema.written := Shape.blankless_written hlegible.blankless
  have hkeys := hlegible.colonless schema schema.mem_objects_self
  have hsep := hlegible.separated schema schema.mem_objects_self
  have hmerge := merge_of_nodup policy (Schema.distinct_iff.1 hlegible.distinct).1
  rw [Schema.written_eq_objectText, blankless_objectText_iff] at hblank
  rw [Schema.written_eq_objectText,
    objectWith_objectText_iff hblank hsep schema.writtenEntries_ne_singleton_nil]
  simp only [forall₂_writtenEntries_iff hkeys fun property hproperty result =>
    valueReads_written_iff (hnested property hproperty)]
  constructor
  · rintro ⟨entries, ⟨hflat, rfl⟩, hresult⟩
    rw [hmerge, Except.ok.injEq] at hresult
    exact ⟨hflat, hresult.symm⟩
  · rintro ⟨hflat, rfl⟩
    exact ⟨_, ⟨hflat, rfl⟩, hmerge⟩

/-- The text of a legible schema is read back as the schema, unless there is an array of arrays. -/
theorem parseObject_written_iff {policy : KeyPolicy} {limit : Nat} {schema result : Schema}
    (hlegible : schema.Legible) (hnesting : schema.nesting ≤ limit) :
    parseObject policy limit schema.written = .ok result ↔ schema.Flat ∧ result = schema := by
  induction limit generalizing schema result with
  | zero =>
    rw [parseObject_eq_objectWith]
    apply objectWith_written_iff hlegible
    intro property hproperty object hobject
    -- An object inside would be a level below.
    have hbelow := Schema.nesting_le_iff.1 hnesting property hproperty
    rw [(Shape.of_innerSchema? hobject).2.1] at hbelow
    omega
  | succ limit ih =>
    rw [parseObject_eq_objectWith]
    apply objectWith_written_iff hlegible
    intro property hproperty object hobject inner
    have hbelow := Schema.nesting_le_iff.1 hnesting property hproperty
    rw [(Shape.of_innerSchema? hobject).2.1] at hbelow
    exact ih (hlegible.inner hproperty hobject) (by omega)

/-! ## Safe keys -/

/-- Safe keys keep the properties of every object separate. -/
theorem Schema.separated_of_isSafe {schema : Schema}
    (h : ∀ object ∈ schema.objects, ∀ key ∈ object.keys, Brace.isSafe key = true) :
    schema.Separated := by
  intro object hobject
  apply Brace.separate_of_isSafe
  intro text htext
  rw [writtenEntries_eq_map, List.mem_map] at htext
  obtain ⟨property, hproperty, rfl⟩ := htext
  have hkey : Brace.isSafe property.1 = true :=
    h object hobject property.1 (List.mem_map_of_mem hproperty)
  have hvalue : Brace.isSafe property.2.written = true := by
    refine Shape.isSafe_written fun inner hinner => h inner ?_
    exact mem_objects_trans hobject (mem_objects_of_property hproperty hinner)
  have hcolon : Brace.isSafe [':'] = true := by decide
  exact Brace.isSafe_append hkey (Brace.isSafe_append hcolon hvalue)

/-- **Reading back what is written.** A schema whose keys are distinct, safe and free of colons and
blanks, and which nests within the limit, is read back from its canonical text under every policy
exactly when no array stands directly in an array; nothing else is ever read from that text. -/
theorem parseWithin_written_iff_flat (limit : Nat) (policy : KeyPolicy) (schema : Schema)
    (hdistinct : schema.Distinct)
    (hkeys : ∀ object ∈ schema.objects, ∀ key ∈ object.keys,
      Brace.isSafe key = true ∧ ':' ∉ key ∧ Text.Blankless key)
    (hnesting : schema.nesting ≤ limit) :
    ((∃ result, parseWithin limit policy schema.written = .ok result) ↔ schema.Flat) ∧
      ∀ result, parseWithin limit policy schema.written = .ok result → result = schema := by
  have hlegible : schema.Legible :=
    { distinct := hdistinct
      colonless := fun object hobject key hkey => (hkeys object hobject key hkey).2.1
      blankless := fun object hobject key hkey => (hkeys object hobject key hkey).2.2
      separated := Schema.separated_of_isSafe fun object hobject key hkey =>
        (hkeys object hobject key hkey).1 }
  have hblanks : Text.removeBlanks schema.written = schema.written :=
    Text.removeBlanks_eq_self (Shape.blankless_written hlegible.blankless)
  simp only [parseWithin, hblanks, parseObject_written_iff hlegible hnesting]
  constructor
  · constructor
    · rintro ⟨result, hflat, -⟩
      exact hflat
    · intro hflat
      exact ⟨schema, hflat, rfl⟩
  · rintro result ⟨-, hresult⟩
    exact hresult

/-- A key with a comma and braces in it, and one that begins like an array, are read back. -/
theorem parse_written_braced_key :
    let schema : Schema :=
      [("{,}".toList, .array (.object [("Array<".toList, .primitive .number)])),
        ("b[]".toList, .object [])]
    parse .error schema.written = .ok schema := by
  intro schema
  have hread := parseWithin_written_iff_flat nestingLimit .error schema
    (by simp [schema, Schema.Distinct, Shape.Distinct, Schema.AllDistinct]) (by decide) (by decide)
  obtain ⟨result, hresult⟩ := hread.1.2 (by simp [schema, Schema.Flat, Shape.Flat])
  rw [parse, hresult, hread.2 result hresult]

end DocShape
