import DocShape.Shape.Written
import DocShape.Proofs.Level

/-!
# The objects of a schema

Conditions on a schema that concern all its levels are said over the list of its objects, the schema
itself and every object inside it (`Schema.objects`). Beside that list stand how deep the objects
nest (`Schema.nesting`) and whether an array stands directly in an array (`Schema.Flat`).

Each definition that runs through the properties of an object is restated here over the members of
the list of properties, so that later proofs need not follow its recursion.
-/

set_option autoImplicit false

namespace DocShape

/-- The value of an entry is smaller than the list of entries, so recursion may go into it. -/
theorem sizeOf_lt_of_mem_entries {α : Type} [SizeOf α] {entries : List (Text × α)}
    {entry : Text × α} (h : entry ∈ entries) : sizeOf entry.2 < sizeOf entries := by
  have hmem := List.sizeOf_lt_of_mem h
  have hpair : sizeOf entry = 1 + sizeOf entry.1 + sizeOf entry.2 := rfl
  omega

/-- Induction on a shape, with the hypothesis for every property of an object. -/
@[elab_as_elim]
theorem Shape.rec' {motive : Shape → Prop} (primitive : ∀ kind, motive (.primitive kind))
    (array : ∀ items, motive items → motive (.array items))
    (object : ∀ properties : Schema, (∀ property ∈ properties, motive property.2) →
      motive (.object properties)) :
    ∀ shape, motive shape
  | .primitive kind => primitive kind
  | .array items => array items (Shape.rec' primitive array object items)
  | .object properties => object properties fun property _hproperty =>
      Shape.rec' primitive array object property.2
termination_by shape => sizeOf shape
decreasing_by
  · simp only [Shape.array.sizeOf_spec]
    omega
  · have hsize := sizeOf_lt_of_mem_entries _hproperty
    simp only [Shape.object.sizeOf_spec]
    omega

mutual

/-- How many objects stand around the innermost one of a shape, that one included. -/
def Shape.nesting : Shape → Nat
  | .primitive _ => 0
  | .array items => items.nesting
  | .object properties => Schema.nesting properties + 1

/-- How many levels of objects stand inside the properties. -/
def Schema.nesting : Schema → Nat
  | [] => 0
  | (_, shape) :: properties => max shape.nesting (Schema.nesting properties)

end

mutual

/-- No array stands directly in an array. -/
def Shape.Flat : Shape → Prop
  | .primitive _ => True
  | .array (.array _) => False
  | .array items => items.Flat
  | .object properties => Schema.Flat properties

/-- No array stands directly in an array, in any of the properties. -/
def Schema.Flat : Schema → Prop
  | [] => True
  | (_, shape) :: properties => shape.Flat ∧ Schema.Flat properties

end

mutual

/-- The objects of a shape, from the outermost one inwards. -/
def Shape.objects : Shape → List Schema
  | .primitive _ => []
  | .array items => items.objects
  | .object properties => properties :: Schema.innerObjects properties

/-- The objects inside the properties. -/
def Schema.innerObjects : Schema → List Schema
  | [] => []
  | (_, shape) :: properties => shape.objects ++ Schema.innerObjects properties

end

/-- The canonical text of a property. -/
def writtenEntry (property : Text × Shape) : Text := property.1 ++ ':' :: property.2.written

namespace Schema

/-- The objects of a schema: the schema itself and the objects inside it. -/
def objects (schema : Schema) : List Schema := schema :: schema.innerObjects

theorem mem_objects_self (schema : Schema) : schema ∈ schema.objects := List.mem_cons_self

theorem nesting_le_iff {schema : Schema} {limit : Nat} :
    schema.nesting ≤ limit ↔ ∀ property ∈ schema, property.2.nesting ≤ limit := by
  induction schema with
  | nil => simp [nesting]
  | cons property schema ih => rw [nesting, Nat.max_le, ih, List.forall_mem_cons]

theorem flat_iff {schema : Schema} : schema.Flat ↔ ∀ property ∈ schema, property.2.Flat := by
  induction schema with
  | nil => simp [Flat]
  | cons property schema ih => rw [Flat, ih, List.forall_mem_cons]

theorem allDistinct_iff {schema : Schema} :
    schema.AllDistinct ↔ ∀ property ∈ schema, property.2.Distinct := by
  induction schema with
  | nil => simp [AllDistinct]
  | cons property schema ih => rw [AllDistinct, ih, List.forall_mem_cons]

/-- Keys are distinct in a schema and in the shapes of its properties. -/
theorem distinct_iff {schema : Schema} :
    schema.Distinct ↔ schema.keys.Nodup ∧ ∀ property ∈ schema, property.2.Distinct := by
  rw [Distinct, Shape.Distinct, allDistinct_iff]
  rfl

theorem mem_innerObjects_iff {schema object : Schema} :
    object ∈ schema.innerObjects ↔ ∃ property ∈ schema, object ∈ property.2.objects := by
  induction schema with
  | nil => simp [innerObjects]
  | cons property schema ih => rw [innerObjects, List.mem_append, ih, List.exists_mem_cons_iff]

/-- The objects of a property are objects of the schema. -/
theorem mem_objects_of_property {schema object : Schema} {property : Text × Shape}
    (hproperty : property ∈ schema) (h : object ∈ property.2.objects) : object ∈ schema.objects :=
  List.mem_cons_of_mem _ (mem_innerObjects_iff.2 ⟨property, hproperty, h⟩)

theorem writtenEntries_eq_map (schema : Schema) :
    schema.writtenEntries = schema.map writtenEntry := by
  induction schema with
  | nil => rfl
  | cons property schema ih => rw [writtenEntries, ih, List.map_cons, writtenEntry]

/-- A schema is written as its properties between braces. -/
theorem written_eq_objectText (schema : Schema) :
    schema.written = objectText schema.writtenEntries := by
  rw [written, Shape.written, objectText]

end Schema

namespace Shape

theorem written_array_object (properties : Schema) :
    (Shape.array (.object properties)).written =
      "Array<".toList ++ (Schema.written properties ++ ['>']) := by
  rw [written, ← List.append_assoc]
  rfl

theorem written_array_primitive (kind : Primitive) :
    (Shape.array (.primitive kind)).written = kind.name ++ "[]".toList := by
  rw [written, written]
  rfl

theorem written_array_array (items : Shape) :
    (Shape.array (.array items)).written = (Shape.array items).written ++ "[]".toList := by
  rw [written]
  rfl

theorem flat_array_object_iff {properties : Schema} :
    (Shape.array (.object properties)).Flat ↔ properties.Flat := by
  simp [Flat]

/-- What is known of a shape with an object in it: the object is all there is to it. -/
theorem of_innerSchema? {shape : Shape} {inner : Schema} (h : shape.innerSchema? = some inner) :
    shape.objects = inner.objects ∧ shape.nesting = inner.nesting + 1 ∧
      (shape.Distinct → inner.Distinct) := by
  induction shape using Shape.rec' with
  | primitive kind => simp [innerSchema?] at h
  | array items ih =>
    rw [innerSchema?] at h
    obtain ⟨hobjects, hnesting, hdistinct⟩ := ih h
    exact ⟨by rw [objects, hobjects], by rw [nesting, hnesting], by rwa [Distinct]⟩
  | object properties =>
    rw [innerSchema?, Option.some.injEq] at h
    subst h
    exact ⟨by rw [objects, Schema.objects], by rw [nesting], id⟩

/-- Keys are distinct in a shape exactly when they are in each of its objects. -/
theorem distinct_iff_forall_objects {shape : Shape} :
    shape.Distinct ↔ ∀ object ∈ shape.objects, object.keys.Nodup := by
  induction shape using Shape.rec' with
  | primitive kind => simp [Distinct, objects]
  | array items ih => rw [Distinct, objects, ih]
  | object properties ih =>
    rw [objects, List.forall_mem_cons, ← Schema.Distinct, Schema.distinct_iff]
    apply and_congr_right
    intro _
    constructor
    · intro h object hobject
      obtain ⟨property, hproperty, hmem⟩ := Schema.mem_innerObjects_iff.1 hobject
      exact (ih property hproperty).1 (h property hproperty) object hmem
    · intro h property hproperty
      refine (ih property hproperty).2 fun object hobject => ?_
      exact h object (Schema.mem_innerObjects_iff.2 ⟨property, hproperty, hobject⟩)

/-- The objects inside an object of a shape are objects of the shape. -/
theorem mem_objects_trans {shape : Shape} {object inner : Schema} (hobject : object ∈ shape.objects)
    (hinner : inner ∈ object.objects) : inner ∈ shape.objects := by
  induction shape using Shape.rec' with
  | primitive kind => simp [objects] at hobject
  | array items ih =>
    rw [objects] at hobject ⊢
    exact ih hobject
  | object properties ih =>
    rw [objects] at hobject ⊢
    rcases List.mem_cons.1 hobject with rfl | hbelow
    · exact hinner
    · obtain ⟨property, hproperty, hmem⟩ := Schema.mem_innerObjects_iff.1 hbelow
      exact Schema.mem_objects_of_property hproperty (ih property hproperty hmem)

/-- What holds of the keys holds of the whole text, if it is kept by appending and by braces around
a list and holds of the names of the kinds and of the marks between the parts. -/
theorem written_induction {p : Text → Prop} {shape : Shape}
    (append : ∀ s t, p s → p t → p (s ++ t))
    (braced : ∀ texts : List Text, (∀ text ∈ texts, p text) → p (objectText texts))
    (name : ∀ kind : Primitive, p kind.name)
    (marks : ∀ mark ∈ [":", "[]", "Array<", ">"], p mark.toList)
    (h : ∀ object ∈ shape.objects, ∀ key ∈ object.keys, p key) : p shape.written := by
  induction shape using Shape.rec' with
  | primitive kind =>
    rw [written]
    exact name kind
  | array items ih =>
    rw [objects] at h
    rw [written]
    cases items with
    | object properties =>
      exact append _ _ (append _ _ (marks "Array<" (by simp)) (ih h)) (marks ">" (by simp))
    | primitive kind => exact append _ _ (ih h) (marks "[]" (by simp))
    | array items => exact append _ _ (ih h) (marks "[]" (by simp))
  | object properties ih =>
    rw [objects, List.forall_mem_cons] at h
    rw [written]
    apply braced
    intro text htext
    rw [Schema.writtenEntries_eq_map, List.mem_map] at htext
    obtain ⟨property, hproperty, rfl⟩ := htext
    have hkey : p property.1 := h.1 property.1 (List.mem_map_of_mem hproperty)
    have hvalue : p property.2.written := ih property hproperty fun inner hinner =>
      h.2 inner (Schema.mem_innerObjects_iff.2 ⟨property, hproperty, hinner⟩)
    exact append _ _ hkey (append _ _ (marks ":" (by simp)) hvalue)

/-- Keys without blanks make a text without blanks. -/
theorem blankless_written {shape : Shape}
    (h : ∀ object ∈ shape.objects, ∀ key ∈ object.keys, Text.Blankless key) :
    Text.Blankless shape.written := by
  refine written_induction ?_ ?_ ?_ (by decide) h
  · intro s t hs ht
    exact Text.blankless_append_iff.2 ⟨hs, ht⟩
  · intro texts htexts
    exact blankless_objectText_iff.2 htexts
  · intro kind
    cases kind <;> decide

/-- Safe keys make a safe text: no comma of it is exposed. -/
theorem isSafe_written {shape : Shape}
    (h : ∀ object ∈ shape.objects, ∀ key ∈ object.keys, Brace.isSafe key = true) :
    Brace.isSafe shape.written = true := by
  refine written_induction ?_ ?_ ?_ (by decide) h
  · intro s t hs ht
    exact Brace.isSafe_append hs ht
  · intro texts htexts
    exact Brace.isSafe_braced htexts
  · intro kind
    cases kind <;> decide

end Shape

theorem Schema.mem_objects_trans {schema object inner : Schema} (hobject : object ∈ schema.objects)
    (hinner : inner ∈ object.objects) : inner ∈ schema.objects := by
  have hself : (Shape.object schema).objects = schema.objects := by
    rw [Shape.objects, Schema.objects]
  rw [← hself] at hobject ⊢
  exact Shape.mem_objects_trans hobject hinner

end DocShape
