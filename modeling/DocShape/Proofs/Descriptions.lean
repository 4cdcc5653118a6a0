import DocShape.Proofs.Alike
import DocShape.Proofs.Violations
import Mathlib.Data.Rat.Defs
import Mathlib.Algebra.Order.Field.Rat

/-!
# Descriptions tell shapes apart

A shape is described by its outline, by its JSON Schema, and by its label with the schema of the
object inside it. None of them loses more than it has to. Outlines are equal exactly for alike
shapes (`Shape.equal_outline_iff`). JSON Schemas list the required keys in order, so they are equal
exactly for the same shape (`Shape.equal_jsonSchema_iff`), that is, for alike shapes with the keys
of every object in the same order (`Shape.alike_and_keys_iff`). Labels leave the properties of an
object out, and with the schema of the object inside they are the same exactly for alike shapes
(`Shape.label_iff`).

Descriptions are compared as values (`Json.equal`): the members of an object in any order, the items
of an array in theirs.
-/

set_option autoImplicit false

namespace DocShape

/-! ## Equal values -/

namespace Json

/-- The value of a number; truth values count as one and zero. -/
def number? : Json → Option ℚ
  | .bool value => some (if value then 1 else 0)
  | .int i => some i
  | .float (.finite negative mantissa exponent) =>
      some ((if negative then -1 else 1) * mantissa * 2 ^ exponent)
  | _ => none

/-- Whether two values without parts are equal, numbers by their value. -/
def leafEqual : Json → Json → Bool
  | .null, .null => true
  | .string text, .string text' => text == text'
  | .float (.infinite negative), .float (.infinite negative') => negative == negative'
  | value, value' =>
      match value.number?, value'.number? with
      | some number, some number' => number == number'
      | _, _ => false

end Json

mutual

/-- Whether two values are equal, whatever the order of the members of their objects. -/
def Json.equal : Json → Json → Bool
  | .array values, .array values' => Json.itemsEqual values values'
  | .object entries, .object entries' =>
      entries.length == entries'.length && Json.foundEqual entries entries'
  | value, value' => value.leafEqual value'

/-- Whether the items of two arrays are equal, one by one. -/
def Json.itemsEqual : List Json → List Json → Bool
  | [], [] => true
  | value :: values, value' :: values' => value.equal value' && Json.itemsEqual values values'
  | _, _ => false

/-- Whether every member stands, equal, among other members. -/
def Json.foundEqual : List (Text × Json) → List (Text × Json) → Bool
  | [], _ => true
  | (key, value) :: entries, others =>
      (match others.lookup key with
        | some value' => value.equal value'
        | none => false) && Json.foundEqual entries others

end

namespace Json

theorem equal_string_iff {text text' : Text} :
    (Json.string text).equal (.string text') = true ↔ text = text' := by
  change (text == text') = true ↔ text = text'
  exact beq_iff_eq

theorem equal_array_iff {values values' : List Json} :
    (Json.array values).equal (.array values') = true ↔
      List.Forall₂ (fun value value' => value.equal value' = true) values values' := by
  change itemsEqual values values' = true ↔ _
  induction values generalizing values' with
  | nil => cases values' <;> simp [itemsEqual]
  | cons value values ih => cases values' <;> simp [itemsEqual, ih]

theorem equal_object_iff {entries entries' : List (Text × Json)} :
    (Json.object entries).equal (.object entries') = true ↔
      entries.length = entries'.length ∧ ∀ entry ∈ entries, ∃ value,
        entries'.lookup entry.1 = some value ∧ entry.2.equal value = true := by
  have hfound : foundEqual entries entries' = true ↔ ∀ entry ∈ entries, ∃ value,
      entries'.lookup entry.1 = some value ∧ entry.2.equal value = true := by
    induction entries with
    | nil => simp [foundEqual]
    | cons entry entries ih =>
      rw [foundEqual, Bool.and_eq_true, ih, List.forall_mem_cons]
      cases entries'.lookup entry.1 <;> simp
  change (entries.length == entries'.length && foundEqual entries entries') = true ↔ _
  rw [Bool.and_eq_true, beq_iff_eq, hfound]

end Json

/-! ## Members made of properties -/

/-- Properties with their shapes described by a function. -/
def described (describe : Shape → Json) (schema : Schema) : List (Text × Json) :=
  schema.map fun property => (property.1, describe property.2)

theorem outlineMembers_eq_described (schema : Schema) :
    schema.outlineMembers = described Shape.outline schema := by
  induction schema with
  | nil => rfl
  | cons property schema ih => rw [Schema.outlineMembers, ih, described, described, List.map_cons]

theorem jsonSchemaMembers_eq_described (schema : Schema) :
    schema.jsonSchemaMembers = described Shape.jsonSchema schema := by
  induction schema with
  | nil => rfl
  | cons property schema ih =>
    rw [Schema.jsonSchemaMembers, ih, described, described, List.map_cons]

theorem lookup_described (describe : Shape → Json) (schema : Schema) (key : Text) :
    (described describe schema).lookup key = (schema.lookup key).map describe := by
  induction schema with
  | nil => rfl
  | cons property schema ih =>
    rw [described] at ih
    rw [described, List.map_cons, List.lookup_cons, List.lookup_cons, ih]
    split <;> rfl

/-- Objects made of properties are equal if those with the same key are described by equal
values. -/
theorem equal_described_iff {describe : Shape → Json} {schema other : Schema} :
    (Json.object (described describe schema)).equal (.object (described describe other)) = true ↔
      schema.length = other.length ∧ ∀ property ∈ schema, ∃ shape,
        other.lookup property.1 = some shape ∧
          (describe property.2).equal (describe shape) = true := by
  have hlength (schema : Schema) : (described describe schema).length = schema.length :=
    List.length_map _
  have hentry (property : Text × Shape) :
      (∃ value, (described describe other).lookup property.1 = some value ∧
        (describe property.2).equal value = true) ↔
      ∃ shape, other.lookup property.1 = some shape ∧
        (describe property.2).equal (describe shape) = true := by
    rw [lookup_described]
    cases other.lookup property.1 <;> simp
  rw [Json.equal_object_iff, hlength, hlength, described, List.forall_mem_map]
  simp only [hentry]

/-! ## Outlines -/

namespace Shape

/-- Outlines are equal exactly for shapes that differ in the order of their keys only. -/
theorem equal_outline_iff {shape other : Shape} :
    shape.outline.equal other.outline = true ↔ shape.alike other = true := by
  induction shape using Shape.rec' generalizing other with
  | primitive kind =>
    cases other with
    | primitive kind' => cases kind <;> cases kind' <;> decide
    | _ => exact iff_of_false Bool.false_ne_true Bool.false_ne_true
  | array items ih =>
    cases other with
    | array items' =>
      rw [outline, outline, Json.equal_array_iff, alike, ← ih]
      simp
    | _ => exact iff_of_false Bool.false_ne_true Bool.false_ne_true
  | object properties ih =>
    cases other with
    | object properties' =>
      have halike : (object properties).alike (object properties') = true ↔ _ := Schema.alike_iff
      rw [halike, outline, outline, outlineMembers_eq_described, outlineMembers_eq_described,
        equal_described_iff]
      refine and_congr_right fun _ => forall_congr' fun property => ?_
      refine imp_congr_right fun hproperty => exists_congr fun shape => ?_
      exact and_congr_right fun _ => ih property hproperty
    | _ => exact iff_of_false Bool.false_ne_true Bool.false_ne_true

/-! ## JSON Schemas -/

theorem equal_jsonSchema_array_iff {items items' : Shape} :
    (array items).jsonSchema.equal (array items').jsonSchema = true ↔
      items.jsonSchema.equal items'.jsonSchema = true := by
  rw [jsonSchema, jsonSchema, Json.equal_object_iff]
  simp [List.lookup_cons, Json.equal_string_iff]

theorem jsonSchema_object (properties : Schema) :
    (object properties).jsonSchema = .object
      [("type".toList, .string "object".toList),
       ("properties".toList, .object (described jsonSchema properties)),
       ("required".toList, .array ((Schema.keys properties).map .string)),
       ("additionalProperties".toList, .bool false)] := by
  rw [jsonSchema, jsonSchemaMembers_eq_described, Schema.keys, List.map_map]
  rfl

/-- Of two JSON Schemas of objects only the properties and the required keys can differ. -/
theorem equal_jsonSchema_object_iff {properties properties' : Schema} :
    (object properties).jsonSchema.equal (object properties').jsonSchema = true ↔
      (Json.object (described jsonSchema properties)).equal
        (.object (described jsonSchema properties')) = true ∧
      Schema.keys properties = Schema.keys properties' := by
  have hrequired (keys keys' : List Text) :
      (Json.array (keys.map .string)).equal (.array (keys'.map .string)) = true ↔ keys = keys' := by
    rw [Json.equal_array_iff, List.forall₂_map_left_iff, List.forall₂_map_right_iff,
      ← List.forall₂_eq_eq_eq]
    simp only [Json.equal_string_iff]
  have hclosed : (Json.bool false).equal (.bool false) = true := by decide
  rw [jsonSchema_object, jsonSchema_object, Json.equal_object_iff]
  simp [List.lookup_cons, Json.equal_string_iff, hrequired, hclosed]

/-- Shapes with equal JSON Schemas are the same. -/
theorem eq_of_equal_jsonSchema {shape other : Shape} (hdistinct : shape.Distinct)
    (h : shape.jsonSchema.equal other.jsonSchema = true) : shape = other := by
  induction shape using Shape.rec' generalizing other with
  | primitive kind =>
    cases other with
    | primitive kind' => cases kind <;> cases kind' <;> first | rfl | exact absurd h (by decide)
    | _ => simp [jsonSchema, Json.equal_object_iff] at h
  | array items ih =>
    cases other with
    | array items' =>
      rw [Distinct] at hdistinct
      rw [ih hdistinct (equal_jsonSchema_array_iff.1 h)]
    | _ => simp [jsonSchema, Json.equal_object_iff] at h
  | object properties ih =>
    cases other with
    | object properties' =>
      obtain ⟨hnodup, hdistinct⟩ := Schema.distinct_iff.1 hdistinct
      obtain ⟨hproperties, hkeys⟩ := equal_jsonSchema_object_iff.1 h
      obtain ⟨-, hfound⟩ := equal_described_iff.1 hproperties
      congr 1
      -- The keys are the same in the same order, so looking each one up tells the rest.
      refine entries_ext hkeys hnodup fun key => ?_
      by_cases hkey : key ∈ Schema.keys properties
      · obtain ⟨property, hproperty, rfl⟩ := List.mem_map.1 hkey
        obtain ⟨shape, hlookup, hequal⟩ := hfound property hproperty
        rw [lookup_eq_some_of_mem hnodup hproperty, hlookup,
          ih property hproperty (hdistinct property hproperty) hequal]
      · rw [Option.not_isSome_iff_eq_none.1 (mt lookup_isSome_iff_mem.1 hkey), eq_comm]
        rw [hkeys] at hkey
        exact Option.not_isSome_iff_eq_none.1 (mt lookup_isSome_iff_mem.1 hkey)
    | _ => simp [jsonSchema, Json.equal_object_iff] at h

/-- A JSON Schema is equal to itself if keys are distinct. -/
theorem equal_jsonSchema_self {shape : Shape} (h : shape.Distinct) :
    shape.jsonSchema.equal shape.jsonSchema = true := by
  induction shape using Shape.rec' with
  | primitive kind => cases kind <;> decide
  | array items ih =>
    rw [Distinct] at h
    exact equal_jsonSchema_array_iff.2 (ih h)
  | object properties ih =>
    obtain ⟨hnodup, hdistinct⟩ := Schema.distinct_iff.1 h
    refine equal_jsonSchema_object_iff.2 ⟨equal_described_iff.2 ⟨rfl, ?_⟩, rfl⟩
    intro property hproperty
    exact ⟨property.2, lookup_eq_some_of_mem hnodup hproperty,
      ih property hproperty (hdistinct property hproperty)⟩

end Shape

/-! ## The order of keys at every level -/

theorem Schema.length_innerObjects (schema : Schema) :
    schema.innerObjects.length = (schema.map fun property => property.2.objects.length).sum := by
  induction schema with
  | nil => rfl
  | cons property schema ih =>
    rw [innerObjects, List.length_append, ih, List.map_cons, List.sum_cons]

/-- Alike shapes have as many objects. -/
theorem Shape.length_objects_of_alike {shape other : Shape} (hdistinct : shape.Distinct)
    (h : shape.alike other = true) : shape.objects.length = other.objects.length := by
  induction shape using Shape.rec' generalizing other with
  | primitive kind =>
    cases other with
    | primitive kind' => rw [objects, objects]
    | _ => simp [alike] at h
  | array items ih =>
    cases other with
    | array items' =>
      rw [Distinct] at hdistinct
      rw [alike] at h
      rw [objects, objects, ih hdistinct h]
    | _ => simp [alike] at h
  | object properties ih =>
    cases other with
    | object properties' =>
      obtain ⟨hnodup, hdistinct⟩ := Schema.distinct_iff.1 hdistinct
      obtain ⟨matched, hperm, hmatched⟩ := Schema.exists_perm_of_alike h hnodup
      have hmembers := (List.forall₂_and_left properties matched).2 ⟨fun _ hp => hp, hmatched⟩
      -- The numbers are added up, so the order of the properties does not matter.
      have hlengths : properties.map (fun property => property.2.objects.length) =
          matched.map fun property => property.2.objects.length := by
        rw [← List.forall₂_eq_eq_eq, List.forall₂_map_left_iff, List.forall₂_map_right_iff]
        refine hmembers.imp ?_
        rintro property property' ⟨hproperty, -, halike⟩
        exact ih property hproperty (hdistinct property hproperty) halike
      rw [objects, objects, List.length_cons, List.length_cons, Schema.length_innerObjects,
        Schema.length_innerObjects, hlengths, (hperm.map _).sum_nat]
    | _ => simp [alike] at h

/-- Lists of keys that agree for all objects inside agree for those of each property, if each has as
many objects as the other. -/
theorem Schema.forall₂_keys_of_innerObjects {schema other : Schema}
    (hlengths : List.Forall₂ (fun property property' =>
      property.2.objects.length = property'.2.objects.length) schema other)
    (hkeys : schema.innerObjects.map keys = other.innerObjects.map keys) :
    List.Forall₂ (fun property property' =>
      property.2.objects.map keys = property'.2.objects.map keys) schema other := by
  induction hlengths with
  | nil => exact .nil
  | cons hlength _ ih =>
    rw [innerObjects, innerObjects, List.map_append, List.map_append] at hkeys
    obtain ⟨hfirst, hrest⟩ := List.append_inj hkeys (by simpa using hlength)
    exact .cons hfirst (ih hrest)

/-- Alike schemas with the keys in the same order have alike properties side by side. -/
theorem Schema.forall₂_alike_of_keys_eq {schema other : Schema} (h : schema.alike other = true)
    (hother : other.keys.Nodup) (hkeys : schema.keys = other.keys) :
    List.Forall₂ (fun property property' =>
      property.1 = property'.1 ∧ property ∈ schema ∧ property' ∈ other ∧
        property.2.alike property'.2 = true) schema other := by
  rw [keys, keys, ← List.forall₂_eq_eq_eq, List.forall₂_map_left_iff, List.forall₂_map_right_iff,
    List.forall₂_iff_zip] at hkeys
  refine List.forall₂_iff_zip.2 ⟨hkeys.1, fun {property property'} hzip => ?_⟩
  have hkey := hkeys.2 hzip
  obtain ⟨hproperty, hproperty'⟩ := List.of_mem_zip hzip
  exact ⟨hkey, hproperty, hproperty', alike_of_mem h hother hproperty hproperty' hkey⟩

/-- Alike shapes with the keys of every object in the same order are the same. -/
theorem Shape.eq_of_alike_of_keys_eq {shape other : Shape} (hdistinct : shape.Distinct)
    (hother : other.Distinct) (h : shape.alike other = true)
    (hkeys : shape.objects.map Schema.keys = other.objects.map Schema.keys) : shape = other := by
  induction shape using Shape.rec' generalizing other with
  | primitive kind =>
    cases other with
    | primitive kind' =>
      rw [alike, beq_iff_eq] at h
      rw [h]
    | _ => simp [alike] at h
  | array items ih =>
    cases other with
    | array items' =>
      rw [Distinct] at hdistinct hother
      rw [alike] at h
      rw [objects, objects] at hkeys
      rw [ih hdistinct hother h hkeys]
    | _ => simp [alike] at h
  | object properties ih =>
    cases other with
    | object properties' =>
      obtain ⟨-, hdistinct⟩ := Schema.distinct_iff.1 hdistinct
      obtain ⟨hnodup, hother⟩ := Schema.distinct_iff.1 hother
      rw [objects, objects, List.map_cons, List.map_cons, List.cons.injEq] at hkeys
      have hbeside := Schema.forall₂_alike_of_keys_eq h hnodup hkeys.1
      have hlengths : List.Forall₂ (fun property property' =>
          property.2.objects.length = property'.2.objects.length) properties properties' := by
        refine hbeside.imp ?_
        rintro property property' ⟨-, hproperty, -, halike⟩
        exact length_objects_of_alike (hdistinct property hproperty) halike
      have hinner := Schema.forall₂_keys_of_innerObjects hlengths hkeys.2
      congr 1
      rw [← List.forall₂_eq_eq_eq]
      refine hbeside.mp ?_ hinner
      rintro property property' ⟨hkey, hproperty, hproperty', halike⟩ hinside
      have hshape := ih property hproperty (hdistinct property hproperty)
        (hother property' hproperty') halike hinside
      exact Prod.ext hkey hshape
    | _ => simp [alike] at h

/-- Being alike with the keys of every object in the same order is being the same. -/
theorem Shape.alike_and_keys_iff {shape other : Shape} (hdistinct : shape.Distinct)
    (hother : other.Distinct) :
    shape.alike other = true ∧
        shape.objects.map Schema.keys = other.objects.map Schema.keys ↔
      shape = other := by
  constructor
  · rintro ⟨halike, hkeys⟩
    exact eq_of_alike_of_keys_eq hdistinct hother halike hkeys
  · rintro rfl
    exact ⟨alike_self hdistinct, rfl⟩

/-- JSON Schemas are equal exactly for the same shape. -/
theorem Shape.equal_jsonSchema_iff {shape other : Shape} (hdistinct : shape.Distinct) :
    shape.jsonSchema.equal other.jsonSchema = true ↔ shape = other := by
  constructor
  · exact eq_of_equal_jsonSchema hdistinct
  · rintro rfl
    exact equal_jsonSchema_self hdistinct

/-! ## Labels -/

namespace Shape

theorem label_primitive (kind : Primitive) : (primitive kind).label = kind.name := rfl

theorem label_object (properties : Schema) : (object properties).label = "object".toList := rfl

theorem label_array_object (properties : Schema) :
    (array (.object properties)).label = "Array<object>".toList := rfl

/-- An array of anything else is labelled with brackets behind the label of its items. -/
theorem label_array {items : Shape} (h : ∀ properties, items ≠ .object properties) :
    (array items).label = items.label ++ "[]".toList := by
  cases items with
  | object properties => exact absurd rfl (h properties)
  | _ => rfl

/-- Brackets end the labels of such arrays, and no others. -/
theorem exists_items_of_label {shape : Shape} {text : Text}
    (h : shape.label = text ++ "[]".toList) :
    ∃ items, shape = .array items ∧ items.label = text ∧
      ∀ properties, items ≠ .object properties := by
  have hlast : shape.label.getLast? = some ']' := by
    rw [h]
    exact List.getLast?_append_of_ne_nil text (List.cons_ne_nil '[' [']'])
  cases shape with
  | primitive kind =>
    rw [label_primitive] at hlast
    cases kind <;> exact absurd hlast (by decide)
  | array items =>
    by_cases hobject : ∃ properties, items = .object properties
    · obtain ⟨properties, rfl⟩ := hobject
      rw [label_array_object] at hlast
      exact absurd hlast (by decide)
    · rw [not_exists] at hobject
      rw [label_array hobject] at h
      exact ⟨items, rfl, List.append_cancel_right h, hobject⟩
  | object properties =>
    rw [label_object] at hlast
    exact absurd hlast (by decide)

/-- The schemas inside two shapes, if there are any, are alike. -/
def InnerAlike (shape other : Shape) : Prop :=
  Option.Rel (fun schema schema' => Schema.alike schema schema' = true)
    shape.innerSchema? other.innerSchema?

/-- Shapes with the same label and alike schemas inside are alike. -/
theorem alike_of_label {shape other : Shape} (hlabel : shape.label = other.label)
    (hinner : shape.InnerAlike other) : shape.alike other = true := by
  -- Brackets end the label of an array unless its items are objects. Without them the same is left
  -- inside, so the induction goes through; objects are told by the schemas.
  induction shape using Shape.rec' generalizing other with
  | primitive kind =>
    cases other with
    | primitive kind' =>
      cases kind <;> cases kind' <;> first | rfl | exact absurd hlabel (by decide)
    | array items =>
      by_cases hobject : ∃ properties, items = .object properties
      · obtain ⟨properties, rfl⟩ := hobject
        cases hinner
      · rw [label_array (not_exists.1 hobject)] at hlabel
        obtain ⟨_, hshape, -⟩ := exists_items_of_label hlabel
        cases hshape
    | object properties => cases hinner
  | array items ih =>
    by_cases hobject : ∃ properties, items = .object properties
    · obtain ⟨properties, rfl⟩ := hobject
      cases other with
      | primitive kind => cases hinner
      | array items' =>
        by_cases hobject' : ∃ properties', items' = .object properties'
        · obtain ⟨properties', rfl⟩ := hobject'
          cases hinner with
          | some halike => exact halike
        · rw [label_array (not_exists.1 hobject')] at hlabel
          obtain ⟨_, hshape, -, hnot⟩ := exists_items_of_label hlabel
          cases hshape
          exact absurd rfl (hnot properties)
      | object properties' =>
        rw [label_array_object, label_object] at hlabel
        exact absurd hlabel (by decide)
    · rw [label_array (not_exists.1 hobject)] at hlabel
      obtain ⟨items', rfl, hlabel', -⟩ := exists_items_of_label hlabel.symm
      exact ih hlabel'.symm hinner
  | object properties =>
    cases other with
    | primitive kind => cases hinner
    | array items =>
      by_cases hobject : ∃ properties', items = .object properties'
      · obtain ⟨properties', rfl⟩ := hobject
        rw [label_object, label_array_object] at hlabel
        exact absurd hlabel (by decide)
      · rw [label_array (not_exists.1 hobject)] at hlabel
        obtain ⟨_, hshape, -⟩ := exists_items_of_label hlabel
        cases hshape
    | object properties' =>
      cases hinner with
      | some halike => exact halike

/-- Alike shapes have the same label and alike schemas inside. -/
theorem label_eq_and_innerAlike_of_alike {shape other : Shape} (h : shape.alike other = true) :
    shape.label = other.label ∧ shape.InnerAlike other := by
  induction shape using Shape.rec' generalizing other with
  | primitive kind =>
    cases other with
    | primitive kind' =>
      rw [alike, beq_iff_eq] at h
      exact ⟨congrArg (fun kind => (primitive kind).label) h, .none⟩
    | _ => simp [alike] at h
  | array items ih =>
    cases other with
    | array items' =>
      rw [alike] at h
      obtain ⟨hlabel, hinner⟩ := ih h
      cases items with
      | object properties =>
        cases items' with
        | object properties' => exact ⟨rfl, .some h⟩
        | _ => simp [alike] at h
      | _ =>
        cases items' with
        | object properties' => simp [alike] at h
        | _ => exact ⟨congrArg (· ++ "[]".toList) hlabel, hinner⟩
    | _ => simp [alike] at h
  | object properties ih =>
    cases other with
    | object properties' => exact ⟨rfl, .some h⟩
    | _ => simp [alike] at h

/-- A label and the schema inside are the same exactly for alike shapes. -/
theorem label_iff {shape other : Shape} :
    shape.label = other.label ∧ shape.InnerAlike other ↔ shape.alike other = true :=
  ⟨fun ⟨hlabel, hinner⟩ => alike_of_label hlabel hinner, label_eq_and_innerAlike_of_alike⟩

/-- **Descriptions tell shapes apart.** Outlines are equal exactly for alike shapes, JSON Schemas
exactly for alike shapes with the keys of every object in the same order, and shapes with the same
label and alike schemas inside are alike. -/
theorem descriptions_tell_apart {shape other : Shape} (hdistinct : shape.Distinct)
    (hother : other.Distinct) :
    (shape.outline.equal other.outline = true ↔ shape.alike other = true) ∧
    (shape.jsonSchema.equal other.jsonSchema = true ↔
      shape.alike other = true ∧
        shape.objects.map Schema.keys = other.objects.map Schema.keys) ∧
    (shape.label = other.label → shape.InnerAlike other → shape.alike other = true) :=
  ⟨equal_outline_iff,
   (equal_jsonSchema_iff hdistinct).trans (alike_and_keys_iff hdistinct hother).symm,
   fun hlabel hinner => label_iff.1 ⟨hlabel, hinner⟩⟩

/-- The keys of an object in another order, behind two arrays, are told apart by the JSON Schema
only. They are named like the members of a JSON Schema. -/
theorem descriptions_tell_apart_reordered :
    let shape : Shape := .array (.array (.object
      [("type".toList, .primitive .string),
       ("required".toList, .object [("items".toList, .primitive .number)])]))
    let other : Shape := .array (.array (.object
      [("required".toList, .object [("items".toList, .primitive .number)]),
       ("type".toList, .primitive .string)]))
    shape.Distinct ∧ other.Distinct ∧ shape.label = other.label ∧ shape.InnerAlike other ∧
      shape.alike other = true ∧ shape.outline.equal other.outline = true ∧
      shape.jsonSchema.equal other.jsonSchema = false := by
  intro shape other
  have hdistinct : shape.Distinct := by simp [shape, Distinct, Schema.AllDistinct]
  have hother : other.Distinct := by simp [other, Distinct, Schema.AllDistinct]
  have hlabel : shape.label = other.label := by rfl
  have hinner : shape.InnerAlike other := .some (by decide)
  have hkeys : shape.objects.map Schema.keys ≠ other.objects.map Schema.keys := by decide
  obtain ⟨houtline, hschema, halike⟩ := descriptions_tell_apart hdistinct hother
  refine ⟨hdistinct, hother, hlabel, hinner, halike hlabel hinner,
    houtline.2 (halike hlabel hinner), ?_⟩
  rw [Bool.eq_false_iff]
  exact fun hequal => hkeys (hschema.1 hequal).2

end Shape

end DocShape
