import DocShape.Proofs.Merging
import DocShape.Proofs.Objects
import Mathlib.Data.List.Perm.Basic

/-!
# Shapes alike up to the order of keys

`Shape.alike` looks every property of one object up in the other. Here it is restated over members
of the lists (`Schema.alike_iff`), shown to hold of a shape with distinct keys and itself
(`Shape.alike_self`) and of a schema and its properties in another order (`Schema.alike_of_perm`),
and taken apart: the properties of alike objects match one by one after a permutation
(`Schema.exists_perm_of_alike`). Matching up to order changes no length, so alike shapes
have canonical texts of the same length (`Shape.length_written_of_alike`).
-/

set_option autoImplicit false

namespace DocShape

namespace Schema

theorem foundIn_iff {schema other : Schema} :
    schema.foundIn other = true ↔ ∀ property ∈ schema, ∃ shape,
      other.lookup property.1 = some shape ∧ property.2.alike shape = true := by
  induction schema with
  | nil => simp [foundIn]
  | cons property schema ih =>
    rw [foundIn, Bool.and_eq_true, ih, List.forall_mem_cons]
    cases hlookup : other.lookup property.1 with
    | none => simp
    | some shape => simp

/-- Alike schemas have as many properties, and each one of the first stands alike in the second. -/
theorem alike_iff {schema other : Schema} :
    schema.alike other = true ↔ schema.length = other.length ∧
      ∀ property ∈ schema, ∃ shape,
        other.lookup property.1 = some shape ∧ property.2.alike shape = true := by
  rw [alike, Shape.alike, Bool.and_eq_true, beq_iff_eq, foundIn_iff]

/-- Properties with the same key in alike schemas are alike. -/
theorem alike_of_mem {schema other : Schema} (h : schema.alike other = true)
    (hother : other.keys.Nodup) {property property' : Text × Shape} (hproperty : property ∈ schema)
    (hproperty' : property' ∈ other) (hkey : property.1 = property'.1) :
    property.2.alike property'.2 = true := by
  obtain ⟨shape, hlookup, halike⟩ := (alike_iff.1 h).2 property hproperty
  rw [hkey, lookup_eq_some_of_mem hother hproperty', Option.some.injEq] at hlookup
  exact hlookup ▸ halike

/-- The properties of alike schemas match one by one after a permutation. -/
theorem exists_perm_of_alike {schema other : Schema} (h : schema.alike other = true)
    (hnodup : schema.keys.Nodup) :
    ∃ matched : Schema, matched.Perm other ∧
      List.Forall₂ (fun property property' =>
        property.1 = property'.1 ∧ property.2.alike property'.2 = true) schema matched := by
  obtain ⟨hlength, hfound⟩ := alike_iff.1 h
  -- Every property of the first schema is sent to the one found under its key in the second.
  let matching : Text × Shape → Text × Shape := fun property =>
    (property.1, (other.lookup property.1).getD property.2)
  have hmatching : ∀ property ∈ schema, matching property ∈ other ∧
      property.2.alike (matching property).2 = true := by
    intro property hproperty
    obtain ⟨shape, hlookup, halike⟩ := hfound property hproperty
    simp only [matching, hlookup, Option.getD_some]
    exact ⟨mem_of_lookup_eq_some hlookup, halike⟩
  refine ⟨schema.map matching, ?_, ?_⟩
  · have hkeys : (schema.map matching).map Prod.fst = schema.keys := by
      rw [List.map_map]
      rfl
    have hmatched : (schema.map matching).Nodup := List.Nodup.of_map Prod.fst (hkeys ▸ hnodup)
    have hsub : schema.map matching ⊆ other := by
      intro entry hentry
      obtain ⟨property, hproperty, rfl⟩ := List.mem_map.1 hentry
      exact (hmatching property hproperty).1
    -- No two properties are sent to the same one, and there are as many of the one as of the other.
    exact (List.subperm_of_subset hmatched hsub).perm_of_length_le (by simp [hlength])
  · rw [List.forall₂_map_right_iff, List.forall₂_same]
    intro property hproperty
    exact ⟨rfl, (hmatching property hproperty).2⟩

end Schema

namespace Shape

/-- A shape with distinct keys is alike itself. -/
theorem alike_self {shape : Shape} (h : shape.Distinct) : shape.alike shape = true := by
  induction shape using Shape.rec' with
  | primitive kind => simp [alike]
  | array items ih =>
    rw [Distinct] at h
    rw [alike]
    exact ih h
  | object properties ih =>
    obtain ⟨hnodup, hdistinct⟩ := Schema.distinct_iff.1 h
    refine Schema.alike_iff.2 ⟨rfl, fun property hproperty => ⟨property.2, ?_, ?_⟩⟩
    · exact lookup_eq_some_of_mem hnodup hproperty
    · exact ih property hproperty (hdistinct property hproperty)

end Shape

/-- A schema with distinct keys and its properties in another order are alike. -/
theorem Schema.alike_of_perm {schema other : Schema} (hdistinct : schema.Distinct)
    (hperm : schema.Perm other) : schema.alike other = true := by
  obtain ⟨hnodup, hshapes⟩ := distinct_iff.1 hdistinct
  have hother : (other.map Prod.fst).Nodup := (hperm.map Prod.fst).nodup_iff.1 hnodup
  refine alike_iff.2 ⟨hperm.length_eq, fun property hproperty => ⟨property.2, ?_, ?_⟩⟩
  · exact lookup_eq_some_of_mem hother (hperm.mem_iff.1 hproperty)
  · exact Shape.alike_self (hshapes property hproperty)

/-! ## Lengths -/

/-- The texts with a comma behind each of them. -/
def terminated (texts : List Text) : Text := texts.flatMap fun text => text ++ [',']

theorem terminated_cons (text : Text) (texts : List Text) :
    terminated (text :: texts) = text ++ ',' :: terminated texts := by
  simp [terminated]

theorem length_terminated_perm {texts texts' : List Text} (h : texts.Perm texts') :
    (terminated texts).length = (terminated texts').length :=
  (h.flatMap_right _).length_eq

/-- Commas between texts lack one to commas behind all of them. -/
theorem joinWith_append_comma {texts : List Text} (h : texts ≠ []) :
    Text.joinWith [','] texts ++ [','] = terminated texts := by
  induction texts with
  | nil => contradiction
  | cons text texts ih =>
    rw [terminated_cons]
    by_cases hnil : texts = []
    · subst hnil
      rfl
    · rw [Brace.joinWith_cons hnil, ← ih hnil]
      simp

/-- Objects with the same text have the same properties joined in them. -/
theorem terminated_eq_of_objectText_eq {texts texts' : List Text} (hne : texts ≠ [[]])
    (hne' : texts' ≠ [[]]) (h : objectText texts = objectText texts') :
    terminated texts = terminated texts' := by
  have hjoin : Text.joinWith [','] texts = Text.joinWith [','] texts' := by
    simpa [objectText] using h
  by_cases hnil : texts = []
  · subst hnil
    rw [(Brace.joinWith_eq_nil_iff.1 hjoin.symm).resolve_right hne']
  · have hnil' : texts' ≠ [] := by
      rintro rfl
      exact (Brace.joinWith_eq_nil_iff.1 hjoin).elim hnil hne
    rw [← joinWith_append_comma hnil, ← joinWith_append_comma hnil', hjoin]

/-- An object is as long as its properties with a comma behind each of them and one brace more,
unless there is nothing between the braces. -/
theorem length_objectText (texts : List Text) :
    (objectText texts).length = max (terminated texts).length 1 + 1 := by
  have hjoin : (Text.joinWith [','] texts).length + 1 = max (terminated texts).length 1 := by
    by_cases hnil : texts = []
    · subst hnil
      rfl
    · have hlength := congrArg List.length (joinWith_append_comma hnil)
      rw [List.length_append, List.length_singleton] at hlength
      omega
  simp only [objectText, List.length_append, List.length_cons, List.length_nil]
  omega

/-- How much room the canonical texts of the properties take, commas included. -/
def Schema.extent (schema : Schema) : Nat := (terminated schema.writtenEntries).length

theorem Schema.extent_cons (property : Text × Shape) (schema : Schema) :
    Schema.extent (property :: schema) = (writtenEntry property).length + 1 + schema.extent := by
  rw [extent, extent, writtenEntries, terminated_cons, writtenEntry, List.length_append,
    List.length_cons]
  omega

theorem Schema.extent_append (schema other : Schema) :
    Schema.extent (schema ++ other) = schema.extent + other.extent := by
  simp only [extent, writtenEntries_eq_map, List.map_append, terminated, List.flatMap_append,
    List.length_append]

theorem Schema.extent_perm {schema other : Schema} (h : schema.Perm other) :
    schema.extent = other.extent := by
  rw [extent, extent, writtenEntries_eq_map, writtenEntries_eq_map]
  exact length_terminated_perm (h.map _)

theorem Schema.length_written (schema : Schema) :
    schema.written.length = max schema.extent 1 + 1 := by
  rw [written_eq_objectText, length_objectText, extent]

theorem length_writtenEntry (property : Text × Shape) :
    (writtenEntry property).length = property.1.length + property.2.written.length + 1 := by
  rw [writtenEntry, List.length_append, List.length_cons]
  omega

/-- Matching properties take the same room if each two of them do. -/
theorem Schema.extent_of_forall₂ {schema other : Schema}
    (h : List.Forall₂ (fun property property' =>
      (writtenEntry property).length = (writtenEntry property').length) schema other) :
    schema.extent = other.extent := by
  induction h with
  | nil => rfl
  | cons hproperty _ ih => rw [extent_cons, extent_cons, ih, hproperty]

/-- How many characters are put around an element, which depends only on whether it is an object. -/
def Shape.arrayMarks : (items : Shape) → Nat
  | .object _ => 7
  | _ => 2

theorem Shape.length_written_array (items : Shape) :
    (Shape.array items).written.length = items.written.length + items.arrayMarks := by
  rw [written]
  cases items with
  | primitive kind => exact List.length_append
  | array items => exact List.length_append
  | object properties =>
    have haround (text : Text) :
        ("Array<".toList ++ text ++ ">".toList).length = text.length + 7 := by
      simp
    exact haround _

/-- Alike shapes have canonical texts of the same length. -/
theorem Shape.length_written_of_alike {shape other : Shape} (hdistinct : shape.Distinct)
    (h : shape.alike other = true) : shape.written.length = other.written.length := by
  induction shape using Shape.rec' generalizing other with
  | primitive kind =>
    cases other with
    | primitive kind' =>
      rw [alike, beq_iff_eq] at h
      rw [h]
    | array items => simp [alike] at h
    | object properties => simp [alike] at h
  | array items ih =>
    cases other with
    | primitive kind => simp [alike] at h
    | object properties => simp [alike] at h
    | array items' =>
      rw [Distinct] at hdistinct
      rw [alike] at h
      rw [length_written_array, length_written_array, ih hdistinct h]
      -- Alike elements are both objects or both not, so the same is put around them.
      cases items <;> cases items' <;> simp [alike] at h <;> rfl
  | object properties ih =>
    cases other with
    | primitive kind => simp [alike] at h
    | array items => simp [alike] at h
    | object properties' =>
      obtain ⟨hnodup, hdistinct⟩ := Schema.distinct_iff.1 hdistinct
      obtain ⟨matched, hperm, hmatched⟩ := Schema.exists_perm_of_alike h hnodup
      have hsame : Schema.extent properties = Schema.extent matched := by
        refine Schema.extent_of_forall₂ ?_
        have hmembers := (List.forall₂_and_left properties matched).2 ⟨fun _ hp => hp, hmatched⟩
        refine hmembers.imp ?_
        rintro property property' ⟨hproperty, hkey, halike⟩
        rw [length_writtenEntry, length_writtenEntry, hkey,
          ih property hproperty (hdistinct property hproperty) halike]
      have hextent := hsame.trans (Schema.extent_perm hperm)
      calc (Shape.object properties).written.length
          = max (Schema.extent properties) 1 + 1 := Schema.length_written properties
        _ = max (Schema.extent properties') 1 + 1 := by rw [hextent]
        _ = (Shape.object properties').written.length := (Schema.length_written properties').symm

end DocShape
