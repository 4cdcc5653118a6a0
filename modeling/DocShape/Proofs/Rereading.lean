import DocShape.Proofs.Alike
import DocShape.Proofs.Parsed
import DocShape.Proofs.RoundTrip

/-!
# Reading the canonical text of a parsed schema

A parsed schema is not always read back from its canonical text. The rules and the overwritten
properties of the text it came from are gone, and with them the braces that may have evened out the
braces of a key; then a comma between two properties no longer cuts. The condition under which the
canonical text is read back is exactly that the written properties of every object are separate
(`Schema.Separated`).

One direction is `parseObject_written_iff`, since what is parsed is proper. For the other one the
idea is that reading never gains room: the canonical text of what is read is at most as long as the
text it is read from (`length_written_le_of_parseObject`). A canonical text that is read as a schema
alike the one it was written from leaves no room to spare, so no property is given up, no rules are
there to drop, and the text is cut exactly where it was joined (`writtenEntries_eq_of_terminated`).
-/

set_option autoImplicit false

namespace DocShape

/-! ## Reading gains no room -/

/-- A value is at least as long as the shape it is read as. -/
theorem ValueReads.length_written_le {inner : Text → Schema → Prop} {raw : Text} {shape : Shape}
    (hinner : ∀ text schema, inner text schema → schema.written.length ≤ text.length)
    (h : ValueReads inner raw shape) : shape.written.length ≤ raw.length := by
  cases h with
  | primitive kind =>
    have hwritten : (Shape.primitive kind).written = kind.name := by rw [Shape.written]
    exact Nat.le_of_eq (congrArg List.length hwritten)
  | ruled kind hrules =>
    rw [Shape.written, List.length_append]
    exact Nat.le_add_right _ _
  | primitives kind =>
    exact Nat.le_of_eq (congrArg List.length (Shape.written_array_primitive kind))
  | ruledPrimitives kind rules =>
    rw [Shape.written_array_primitive]
    simp
  | object hschema => exact hinner _ _ hschema
  | objects hschema =>
    have hlength := hinner _ _ hschema
    rw [Shape.written_array_object]
    simp only [List.length_append, List.length_cons] at hlength ⊢
    omega

theorem PropertyReads.length_writtenEntry_le {inner : Text → Schema → Prop} {segment : Text}
    {entry : Text × Shape}
    (hinner : ∀ text schema, inner text schema → schema.written.length ≤ text.length)
    (h : PropertyReads inner segment entry) : (writtenEntry entry).length ≤ segment.length := by
  obtain ⟨-, raw, rfl, hvalue⟩ := h
  have hlength := hvalue.length_written_le hinner
  rw [length_writtenEntry, List.length_append, List.length_cons]
  omega

/-- Properties are at least as long as the entries they are read as. -/
theorem extent_le_of_reads {inner : Text → Schema → Prop} {segments : List Text} {entries : Schema}
    (hinner : ∀ text schema, inner text schema → schema.written.length ≤ text.length)
    (h : List.Forall₂ (PropertyReads inner) segments entries) :
    entries.extent ≤ (terminated segments).length := by
  induction h with
  | nil => exact Nat.le_refl 0
  | cons hread _ ih =>
    have hlength := hread.length_writtenEntry_le hinner
    rw [Schema.extent_cons, terminated_cons, List.length_append, List.length_cons]
    omega

/-- Merging keeps the room of the entries that it gives up out of the result. -/
theorem exists_extent_of_merge {policy : KeyPolicy} {entries schema : Schema}
    (h : merge policy entries = .ok schema) :
    ∃ rest : Schema,
      entries.Perm (schema ++ rest) ∧ entries.extent = schema.extent + rest.extent := by
  obtain ⟨rest, hperm⟩ := exists_perm_of_merge h
  exact ⟨rest, hperm, (Schema.extent_perm hperm).trans (Schema.extent_append schema rest)⟩

/-- The canonical text of what is read is at most as long as the text it is read from. -/
theorem length_written_le_of_parseObject {policy : KeyPolicy} {limit : Nat} {text : Text}
    {schema : Schema} (hblank : Text.Blankless text)
    (h : parseObject policy limit text = .ok schema) : schema.written.length ≤ text.length := by
  refine parseObject_induction
    (motive := fun _ text schema => schema.written.length ≤ text.length) ?_ hblank h
  intro limit segments entries schema _ _ hreads hmerge
  obtain ⟨rest, -, hextent⟩ := exists_extent_of_merge hmerge
  have hle : Schema.extent entries ≤ (terminated segments).length := by
    apply extent_le_of_reads _ hreads
    rintro text inner ⟨below, -, hlength⟩
    exact hlength
  rw [Schema.length_written, length_objectText]
  omega

/-! ## Reading without room to spare -/

/-- A property that is read as an entry of its own length. -/
def PropertyReadsExactly (inner : Text → Schema → Prop) (segment : Text) (entry : Text × Shape) :
    Prop :=
  PropertyReads inner segment entry ∧ segment.length = (writtenEntry entry).length

/-- If the properties take no more room than the entries, none of them does. -/
theorem reads_exactly_of_length_le {inner : Text → Schema → Prop} {segments : List Text}
    {entries : Schema}
    (hinner : ∀ text schema, inner text schema → schema.written.length ≤ text.length)
    (h : List.Forall₂ (PropertyReads inner) segments entries)
    (hroom : (terminated segments).length ≤ entries.extent) :
    List.Forall₂ (PropertyReadsExactly inner) segments entries := by
  induction h with
  | nil => exact .nil
  | cons hread hreads ih =>
    have hfirst := hread.length_writtenEntry_le hinner
    have hrest := extent_le_of_reads hinner hreads
    rw [Schema.extent_cons, terminated_cons, List.length_append, List.length_cons] at hroom
    apply List.Forall₂.cons
    · exact ⟨hread, by omega⟩
    · exact ih (by omega)

theorem length_terminated_ne_one_of_reads {inner : Text → Schema → Prop} {segments : List Text}
    {entries : Schema} (h : List.Forall₂ (PropertyReads inner) segments entries) :
    (terminated segments).length ≠ 1 := by
  cases h with
  | nil => decide
  | cons hread _ =>
    obtain ⟨-, raw, rfl, -⟩ := hread
    rw [terminated_cons]
    simp only [List.length_append, List.length_cons]
    omega

/-- An object that is as long as the canonical text of what is read from it holds nothing else: no
property is given up, and each one has the length of its entry. -/
theorem reads_exactly_of_length_eq {policy : KeyPolicy} {inner : Text → Schema → Prop}
    {segments : List Text} {entries schema : Schema}
    (hinner : ∀ text schema, inner text schema → schema.written.length ≤ text.length)
    (hreads : List.Forall₂ (PropertyReads inner) segments entries)
    (hmerge : merge policy entries = .ok schema)
    (hlength : (objectText segments).length = schema.written.length) :
    List.Forall₂ (PropertyReadsExactly inner) segments schema := by
  obtain ⟨rest, hperm, hextent⟩ := exists_extent_of_merge hmerge
  have hle := extent_le_of_reads hinner hreads
  have hone := length_terminated_ne_one_of_reads hreads
  rw [length_objectText, Schema.length_written] at hlength
  -- The schema and what is given up share the room that the schema alone takes.
  have hrest : rest = [] := by
    cases rest with
    | nil => rfl
    | cons property rest =>
      rw [Schema.extent_cons] at hextent
      omega
  subst hrest
  rw [List.append_nil] at hperm
  obtain rfl := eq_of_merge_of_perm hmerge hperm
  exact reads_exactly_of_length_le hinner hreads (by omega)

/-- Properties that make up the text of a schema are the written properties of the schema, if the
entries they are read as have the lengths that the schema's properties with the same keys have. -/
theorem writtenEntries_eq_of_terminated {inner : Text → Schema → Prop} {segments : List Text}
    {entries schema : Schema} (hkeys : ∀ property ∈ schema, ':' ∉ property.1)
    (hreads : List.Forall₂ (PropertyReadsExactly inner) segments entries)
    (hlengths : ∀ entry ∈ entries, ∀ property ∈ schema, entry.1 = property.1 →
      (writtenEntry entry).length = (writtenEntry property).length)
    (htext : terminated segments = terminated schema.writtenEntries) :
    segments = schema.writtenEntries := by
  induction hreads generalizing schema with
  | nil =>
    cases schema with
    | nil => rfl
    | cons property schema => simp [Schema.writtenEntries, terminated] at htext
  | cons hread hreads ih =>
    rename_i segment entry segments entries
    cases schema with
    | nil => simp [Schema.writtenEntries, terminated] at htext
    | cons property schema =>
      obtain ⟨⟨hkey, raw, rfl, -⟩, hexact⟩ := hread
      rw [List.forall_mem_cons] at hkeys
      rw [Schema.writtenEntries, terminated_cons, terminated_cons] at htext
      -- Both sides begin with a key and a colon, and the first colon is the same.
      have hsame : entry.1 = property.1 := by
        have hcut := Text.cutAt?_append hkey (raw ++ ',' :: terminated segments)
        rw [← List.cons_append, ← List.append_assoc, htext, List.append_assoc, List.cons_append,
          Text.cutAt?_append hkeys.1, Option.some.injEq, Prod.mk.injEq] at hcut
        exact hcut.1.symm
      have hlength := hlengths entry List.mem_cons_self property List.mem_cons_self hsame
      obtain ⟨hfirst, hrest⟩ := List.append_inj htext (hexact.trans hlength)
      rw [Schema.writtenEntries, hfirst]
      congr 1
      apply ih hkeys.2
      · intro entry' hentry property' hproperty
        exact hlengths entry' (List.mem_cons_of_mem _ hentry) property'
          (List.mem_cons_of_mem _ hproperty)
      · exact List.tail_eq_of_cons_eq hrest

/-! ## Reading a canonical text as what it was written from -/

theorem length_written_le_of_innerParser {policy : KeyPolicy} {limit : Nat} {text : Text}
    {schema : Schema} (hblank : Text.Blankless text)
    (h : innerParser policy limit text = .ok schema) : schema.written.length ≤ text.length := by
  cases limit with
  | zero => simp [innerParser] at h
  | succ limit => exact length_written_le_of_parseObject hblank h

/-- If the canonical text of a proper schema is read as a schema alike it, its written properties
are separate and each one is read as a property of that schema. -/
theorem reads_writtenEntries_of_alike {policy : KeyPolicy} {limit levels : Nat}
    {schema result : Schema} (hproper : (Shape.object schema).Proper levels)
    (h : parseObject policy limit schema.written = .ok result)
    (halike : result.alike schema = true) :
    Brace.Separate schema.writtenEntries ∧
      List.Forall₂ (PropertyReads (Accepts (innerParser policy limit))) schema.writtenEntries
        result := by
  have hblank : Text.Blankless schema.written :=
    Shape.blankless_written fun object hobject key hkey => (hproper.keys object hobject key hkey).2
  have hdistinct := (proper_of_parseObject hblank h).distinct
  have hlength : schema.written.length = result.written.length :=
    (Shape.length_written_of_alike hdistinct halike).symm
  rw [parseObject_eq_objectWith, objectWith_eq_ok_iff hblank] at h
  obtain ⟨segments, entries, htext, hsep, hreads, hmerge⟩ := h
  rw [htext] at hblank hlength
  rw [blankless_objectText_iff] at hblank
  -- The parser of the inner objects is kept together with the bound on what it reads.
  have hexact : List.Forall₂ (PropertyReadsExactly fun text inner =>
      Accepts (innerParser policy limit) text inner ∧ inner.written.length ≤ text.length)
      segments result := by
    refine reads_exactly_of_length_eq (fun _ _ hinner => hinner.2) ?_ hmerge hlength
    refine forall₂_propertyReads_imp (fun text inner htext hinner => ⟨hinner, ?_⟩) hblank hreads
    exact length_written_le_of_innerParser htext hinner
  have hsegments : segments = schema.writtenEntries := by
    apply writtenEntries_eq_of_terminated _ hexact
    · intro entry hentry property hproperty hkey
      have hshape := Schema.alike_of_mem halike (Schema.distinct_iff.1 hproper.distinct).1 hentry
        hproperty hkey
      rw [length_writtenEntry, length_writtenEntry, hkey, Shape.length_written_of_alike
        ((Schema.distinct_iff.1 hdistinct).2 entry hentry) hshape]
    · apply terminated_eq_of_objectText_eq (ne_singleton_nil_of_reads hreads)
        schema.writtenEntries_ne_singleton_nil
      rw [← htext, Schema.written_eq_objectText]
    · intro property hproperty
      exact (hproper.keys schema (by simp [Shape.objects]) _ (List.mem_map_of_mem hproperty)).1
  subst hsegments
  -- The lengths have done their part: what is left is that the properties are read.
  have hread := hexact.imp fun segment entry hread => hread.1
  exact ⟨hsep, forall₂_propertyReads_imp (fun _ _ _ hinner => hinner.1) hblank hread⟩

/-- If a written value is read as a shape alike it, so is the object in it. -/
theorem exists_accepts_of_valueReads_written {nested : Text → Parsed Schema} {shape result : Shape}
    {object : Schema} (h : ValueReads (Accepts nested) shape.written result)
    (halike : result.alike shape = true) (hobject : shape.innerSchema? = some object) :
    ∃ inner : Schema, nested object.written = .ok inner ∧ inner.alike object = true := by
  cases shape with
  | primitive kind => simp [Shape.innerSchema?] at hobject
  | object properties =>
    obtain rfl : properties = object := by simpa [Shape.innerSchema?] using hobject
    rw [← valueWith_eq_ok_iff, Shape.written, valueWith, ValueForm.ofText_braced] at h
    obtain ⟨inner, hinner, rfl⟩ := map_eq_ok_iff.1 h
    refine ⟨inner, ?_, halike⟩
    rw [Schema.written_eq_objectText, objectText, hinner]
  | array items =>
    cases items with
    | primitive kind => simp [Shape.innerSchema?] at hobject
    | array items => exact absurd h not_valueReads_array_array
    | object properties =>
      obtain rfl : properties = object := by simpa [Shape.innerSchema?] using hobject
      rw [← valueWith_eq_ok_iff, Shape.written_array_object, Schema.written_eq_objectText,
        objectText, valueWith, ValueForm.ofText_array_braced] at h
      obtain ⟨inner, hinner, rfl⟩ := map_eq_ok_iff.1 h
      rw [Shape.alike] at halike
      refine ⟨inner, ?_, halike⟩
      rw [Schema.written_eq_objectText, objectText, hinner]

/-- A shape with an object somewhere in it is that object or arrays around it. -/
theorem Shape.exists_innerSchema?_of_mem_objects {shape : Shape} {object : Schema}
    (h : object ∈ shape.objects) : ∃ inner, shape.innerSchema? = some inner := by
  induction shape using Shape.rec' with
  | primitive kind => simp [objects] at h
  | array items ih =>
    rw [objects] at h
    exact ih h
  | object properties => exact ⟨properties, rfl⟩

/-- A property of a schema is read as an entry of the result. -/
theorem exists_valueReads_of_writtenEntries {inner : Text → Schema → Prop} {schema result : Schema}
    {property : Text × Shape} (h : List.Forall₂ (PropertyReads inner) schema.writtenEntries result)
    (hkey : ':' ∉ property.1) (hproperty : property ∈ schema) :
    ∃ entry ∈ result, entry.1 = property.1 ∧ ValueReads inner property.2.written entry.2 := by
  rw [Schema.writtenEntries_eq_map, List.forall₂_map_left_iff] at h
  induction h with
  | nil => simp at hproperty
  | cons hread _ ih =>
    rcases List.mem_cons.1 hproperty with rfl | hproperty
    · exact ⟨_, List.mem_cons_self, (propertyReads_append_iff hkey).1 hread⟩
    · obtain ⟨entry, hentry, hvalue⟩ := ih hproperty
      exact ⟨entry, List.mem_cons_of_mem _ hentry, hvalue⟩

/-- A proper schema is separated if its canonical text is read as a schema alike it and the objects
inside are separated whenever the same is true of them. -/
theorem separated_of_inner {policy : KeyPolicy} {limit levels : Nat} {schema result : Schema}
    (hproper : (Shape.object schema).Proper (levels + 1))
    (h : parseObject policy limit schema.written = .ok result) (halike : result.alike schema = true)
    (hinner : ∀ object inner : Schema, (Shape.object object).Proper levels →
      innerParser policy limit object.written = .ok inner → inner.alike object = true →
        object.Separated) : schema.Separated := by
  obtain ⟨hsep, hreads⟩ := reads_writtenEntries_of_alike hproper h halike
  obtain ⟨hnodup, hproperties⟩ := Shape.proper_object_iff.1 hproper
  intro object hobject
  rcases List.mem_cons.1 hobject with rfl | hbelow
  · exact hsep
  · obtain ⟨property, hproperty, hmem⟩ := Schema.mem_innerObjects_iff.1 hbelow
    obtain ⟨⟨hkey, -⟩, hshape⟩ := hproperties property hproperty
    -- The object may be deep inside; the one nearest to the property is read by the level below.
    obtain ⟨nearest, hnearest⟩ := Shape.exists_innerSchema?_of_mem_objects hmem
    obtain ⟨entry, hentry, hsame, hvalue⟩ :=
      exists_valueReads_of_writtenEntries hreads hkey hproperty
    have hvalueAlike := Schema.alike_of_mem halike hnodup hentry hproperty hsame
    obtain ⟨inner, hread, hinnerAlike⟩ :=
      exists_accepts_of_valueReads_written hvalue hvalueAlike hnearest
    apply hinner nearest inner (hshape.inner hnearest) hread hinnerAlike
    rwa [← (Shape.of_innerSchema? hnearest).1]

/-- A proper schema whose canonical text is read as a schema alike it is separated. -/
theorem separated_of_parseObject_written {policy : KeyPolicy} {limit levels : Nat}
    {schema result : Schema} (hproper : (Shape.object schema).Proper (levels + 1))
    (h : parseObject policy limit schema.written = .ok result)
    (halike : result.alike schema = true) : schema.Separated := by
  induction limit generalizing levels schema result with
  | zero =>
    apply separated_of_inner hproper h halike
    intro object inner _ hread
    -- No level is left for an object inside.
    cases hread
  | succ limit ih =>
    apply separated_of_inner hproper h halike
    intro object inner hobject hread
    exact ih (hobject.mono (Nat.le_succ levels)) hread

/-- A proper schema is legible if its written properties are separate. -/
theorem Schema.Separated.legible {levels : Nat} {schema : Schema} (h : schema.Separated)
    (hproper : (Shape.object schema).Proper levels) : schema.Legible :=
  { distinct := hproper.distinct
    colonless := fun object hobject key hkey => (hproper.keys object hobject key hkey).1
    blankless := fun object hobject key hkey => (hproper.keys object hobject key hkey).2
    separated := h }

/-- **Reading a parsed schema again.** The canonical text of a parsed schema is read as an equal
schema exactly when the written properties of each of its objects are separate, and then it is read
as the very same schema, keys in the same order. -/
theorem parseWithin_written_iff_separated (limit : Nat) (policy : KeyPolicy) (text : Text)
    (schema : Schema) (h : parseWithin limit policy text = .ok schema) :
    ((∃ result, parseWithin limit policy schema.written = .ok result ∧
        result.alike schema = true) ↔ schema.Separated) ∧
      (schema.Separated → parseWithin limit policy schema.written = .ok schema) := by
  have hproper := proper_of_parseObject (Text.blankless_removeBlanks text) h
  have hblank : Text.removeBlanks schema.written = schema.written :=
    Text.removeBlanks_eq_self (Shape.blankless_written fun object hobject key hkey =>
      (hproper.keys object hobject key hkey).2)
  have hnesting : schema.nesting ≤ limit := by
    have hlevels := hproper.nesting_le
    rw [Shape.nesting] at hlevels
    exact Nat.le_of_succ_le_succ hlevels
  have hflat : schema.Flat := by
    have hshape := hproper.flat
    rwa [Shape.Flat] at hshape
  have hback (hsep : schema.Separated) : parseWithin limit policy schema.written = .ok schema := by
    rw [parseWithin, hblank, parseObject_written_iff (hsep.legible hproper) hnesting]
    exact ⟨hflat, rfl⟩
  refine ⟨⟨?_, fun hsep => ⟨schema, hback hsep, ?_⟩⟩, hback⟩
  · rintro ⟨result, hresult, halike⟩
    rw [parseWithin, hblank] at hresult
    exact separated_of_parseObject_written hproper hresult halike
  · exact Shape.alike_self hproper.distinct

/-- The rules of a property even out the brace of its key. Without them the comma behind it no
longer cuts, and the canonical text is not read again. -/
theorem parse_written_evened_key :
    let schema : Schema := [(['a', '}'], .primitive .string), (['b'], .primitive .number)]
    parse .last "{a}:string<{>,b:number}".toList = .ok schema ∧
      ¬ ∃ result, parse .last schema.written = .ok result ∧ result.alike schema = true := by
  intro schema
  have hread : parse .last "{a}:string<{>,b:number}".toList = .ok schema := by rfl
  have hagain := parseWithin_written_iff_separated nestingLimit .last _ schema hread
  refine ⟨hread, fun h => ?_⟩
  have hsep : schema.Separated := hagain.1.1 h
  exact absurd hsep (by decide)

end DocShape
