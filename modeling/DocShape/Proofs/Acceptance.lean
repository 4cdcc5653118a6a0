import DocShape.Proofs.Document

/-!
# What the parser accepts

The parser accepts exactly the texts of legible documents and answers the schema that the document
declares (`parseObject_eq_ok_iff`). A document is legible when its objects nest within the limit, no
key holds a colon, the properties of every object are separate, the rules of primitive kinds are not
misleading and, under the error policy, no object declares a key again (`Document.Legible`).

Braces need not be balanced in a legible document. What the properties of an object have to be is
separate, and that is a condition on where commas stand between braces.

Relation: `parseObject`, on texts without blanks.
-/

set_option autoImplicit false

namespace DocShape

namespace Document

/-- The properties of one object can be told apart: no key holds a colon, no comma of a property is
exposed, all properties but the last have as many opening braces as closing ones, and no rules are
taken for those of an array. -/
structure Readable (doc : Document) : Prop where
  colonless : ∀ property ∈ doc, ':' ∉ property.1
  plain : ∀ property ∈ doc, property.2.Plain
  separate : Brace.Separate doc.segments

/-- The document is accepted under a policy when it may have `limit` levels of objects inside. -/
structure Legible (policy : KeyPolicy) (limit : Nat) (doc : Document) : Prop where
  nesting_le : doc.nesting ≤ limit
  readable : ∀ object ∈ doc.objects, object.Readable
  distinct : policy = .error → ∀ object ∈ doc.objects, object.keys.Nodup

/-- The object in a property of a legible document is legible with one level less. -/
theorem Legible.inner {policy : KeyPolicy} {limit : Nat} {doc inner : Document}
    {property : Text × Declared} (h : doc.Legible policy limit) (hproperty : property ∈ doc)
    (hinner : property.2.inner? = some inner) :
    ∃ below, limit = below + 1 ∧ inner.Legible policy below := by
  obtain ⟨hobjects, hnesting, -⟩ := Declared.of_inner? hinner
  have hsub : ∀ object ∈ inner.objects, object ∈ doc.objects := by
    intro object hobject
    apply List.mem_cons_of_mem
    exact mem_innerObjects_iff.2 ⟨property, hproperty, hobjects ▸ hobject⟩
  have hle := nesting_le_iff.1 h.nesting_le property hproperty
  refine ⟨limit - 1, by omega, ?_⟩
  exact
    { nesting_le := by omega
      readable := fun object hobject => h.readable object (hsub object hobject)
      distinct := fun hpolicy object hobject => h.distinct hpolicy object (hsub object hobject) }

/-- A readable object whose keys are as the policy wants them is legible if the objects in its
properties are legible with a level less. -/
theorem legible_of_inner {policy : KeyPolicy} {limit : Nat} {doc : Document} (hread : doc.Readable)
    (hdistinct : policy = .error → doc.keys.Nodup)
    (hinner : ∀ property ∈ doc, ∀ inner, property.2.inner? = some inner →
      ∃ below < limit, inner.Legible policy below) : doc.Legible policy limit := by
  -- An object is the outermost one, or it is an object of a legible one in a property.
  have hobjects {p : Document → Prop} (hself : p doc)
      (hbelow : ∀ inner : Document, (∃ below < limit, inner.Legible policy below) →
        ∀ object ∈ inner.objects, p object) : ∀ object ∈ doc.objects, p object := by
    intro object hobject
    rcases List.mem_cons.1 hobject with rfl | hobject
    · exact hself
    · obtain ⟨property, hproperty, hmem⟩ := mem_innerObjects_iff.1 hobject
      cases hvalue : property.2.inner? with
      | none =>
        rw [(Declared.of_inner?_eq_none hvalue).1] at hmem
        simp at hmem
      | some inner =>
        rw [(Declared.of_inner? hvalue).1] at hmem
        exact hbelow inner (hinner property hproperty inner hvalue) object hmem
  refine ⟨?_, ?_, ?_⟩
  · -- A value without an object takes no level, and one with an object a level more than that.
    rw [nesting_le_iff]
    intro property hproperty
    cases hvalue : property.2.inner? with
    | none =>
      rw [(Declared.of_inner?_eq_none hvalue).2]
      exact Nat.zero_le limit
    | some inner =>
      obtain ⟨below, hbelow, hlegible⟩ := hinner property hproperty inner hvalue
      rw [(Declared.of_inner? hvalue).2.1]
      exact Nat.le_trans (Nat.succ_le_succ hlegible.nesting_le) hbelow
  · apply hobjects hread
    rintro inner ⟨below, -, hlegible⟩
    exact hlegible.readable
  · intro hpolicy
    apply hobjects (p := fun object => object.keys.Nodup) (hdistinct hpolicy)
    rintro inner ⟨below, -, hlegible⟩
    exact hlegible.distinct hpolicy

end Document

/-! ## Accepted texts are documents -/

/-- A value that is accepted has been declared, if the objects in it have. -/
theorem ValueReads.exists_declared {policy : KeyPolicy} {inner : Document → Prop} {raw : Text}
    {shape : Shape}
    (h : ValueReads (fun text schema => ∃ doc : Document, doc.text = text ∧ inner doc ∧
      doc.schema policy = schema) raw shape) :
    ∃ value : Declared, value.text = raw ∧ value.Plain ∧
      (∀ doc, value.inner? = some doc → inner doc) ∧ value.shape policy = shape := by
  cases h with
  | primitive kind =>
    refine ⟨.primitive kind none, ?_, trivial, by simp [Declared.inner?], ?_⟩
    · rw [Declared.text, bracketed, List.append_nil]
    · rw [Declared.shape]
  | ruled kind hrules =>
    refine ⟨.primitive kind (some _), ?_, hrules, by simp [Declared.inner?], ?_⟩
    · rw [Declared.text, bracketed]
    · rw [Declared.shape]
  | primitives kind =>
    refine ⟨.primitiveArray kind none, ?_, trivial, by simp [Declared.inner?], ?_⟩
    · rw [Declared.text, bracketed, List.append_nil]
      rfl
    · rw [Declared.shape]
  | ruledPrimitives kind rules =>
    refine ⟨.primitiveArray kind (some rules), ?_, trivial, by simp [Declared.inner?], ?_⟩
    · rw [Declared.text]
      unfold bracketed kindArrayText
      rw [List.append_assoc]
      rfl
    · rw [Declared.shape]
  | object hdoc =>
    obtain ⟨doc, htext, hinner, rfl⟩ := hdoc
    refine ⟨.object doc, ?_, trivial, ?_, ?_⟩
    · rw [Declared.text, ← Document.text, htext]
    · intro other hother
      obtain rfl : doc = other := by simpa [Declared.inner?] using hother
      exact hinner
    · rw [Declared.shape, Document.schema]
  | objects hdoc =>
    obtain ⟨doc, htext, hinner, rfl⟩ := hdoc
    refine ⟨.objectArray doc, ?_, trivial, ?_, ?_⟩
    · rw [Declared.text, ← Document.text, htext]
      rfl
    · intro other hother
      obtain rfl : doc = other := by simpa [Declared.inner?] using hother
      exact hinner
    · rw [Declared.shape, Document.schema]

/-- Properties that are accepted have been declared, if the objects in them have. -/
theorem exists_document_of_reads {policy : KeyPolicy} {inner : Document → Prop}
    {segments : List Text} {entries : List (Text × Shape)}
    (h : List.Forall₂ (PropertyReads fun text schema => ∃ doc : Document, doc.text = text ∧
      inner doc ∧ doc.schema policy = schema) segments entries) :
    ∃ doc : Document, doc.segments = segments ∧ doc.entries policy = entries ∧
      ∀ property ∈ doc, ':' ∉ property.1 ∧ property.2.Plain ∧
        ∀ object, property.2.inner? = some object → inner object := by
  induction h with
  | nil => exact ⟨[], by rw [Document.segments], by rw [Document.entries], by simp⟩
  | cons hread _ ih =>
    rename_i segment entry segments entries _
    obtain ⟨key, shape⟩ := entry
    obtain ⟨hkey, raw, rfl, hvalue⟩ := hread
    obtain ⟨value, rfl, hplain, hinner, rfl⟩ := hvalue.exists_declared
    obtain ⟨doc, rfl, rfl, hdoc⟩ := ih
    refine ⟨(key, value) :: doc, ?_, ?_, ?_⟩
    · rw [Document.segments]
    · rw [Document.entries]
    · rw [List.forall_mem_cons]
      exact ⟨⟨hkey, hplain, hinner⟩, hdoc⟩

/-- An accepted text is the text of a legible document. -/
theorem exists_document_of_parseObject {policy : KeyPolicy} {limit : Nat} {text : Text}
    {schema : Schema} (hblank : Text.Blankless text)
    (h : parseObject policy limit text = .ok schema) :
    ∃ doc : Document, doc.text = text ∧ doc.Legible policy limit ∧ doc.schema policy = schema := by
  refine parseObject_induction (motive := fun limit text schema =>
    ∃ doc : Document, doc.text = text ∧ doc.Legible policy limit ∧ doc.schema policy = schema)
    ?_ hblank h
  intro limit segments entries schema hblank hsep hreads hmerge
  -- The level below is forgotten but for its being below, which is all that legibility needs.
  have hreads : List.Forall₂ (PropertyReads fun text schema => ∃ doc : Document, doc.text = text ∧
      (∃ below < limit, doc.Legible policy below) ∧ doc.schema policy = schema)
      segments entries := by
    refine forall₂_propertyReads_imp ?_ hblank hreads
    rintro text inner - ⟨below, hbelow, doc, htext, hlegible, hschema⟩
    exact ⟨doc, htext, ⟨below, hbelow, hlegible⟩, hschema⟩
  obtain ⟨doc, rfl, rfl, hdoc⟩ := exists_document_of_reads hreads
  obtain ⟨hnodup, rfl⟩ := merge_eq_ok_iff.1 hmerge
  refine ⟨doc, rfl, ?_, rfl⟩
  apply Document.legible_of_inner
  · exact
      { colonless := fun property hproperty => (hdoc property hproperty).1
        plain := fun property hproperty => (hdoc property hproperty).2.1
        separate := hsep }
  · rwa [Document.map_fst_entries] at hnodup
  · intro property hproperty
    exact (hdoc property hproperty).2.2

/-! ## Documents are accepted -/

/-- The text of a value is accepted as its shape if the objects in it are. -/
theorem valueReads_text {policy : KeyPolicy} {inner : Text → Schema → Prop} {value : Declared}
    (hplain : value.Plain)
    (hinner : ∀ doc, value.inner? = some doc → inner doc.text (doc.schema policy)) :
    ValueReads inner value.text (value.shape policy) := by
  cases value with
  | primitive kind rules =>
    rw [Declared.text, Declared.shape]
    cases rules with
    | none =>
      rw [bracketed, List.append_nil]
      exact .primitive kind
    | some rules => exact .ruled kind hplain
  | primitiveArray kind rules =>
    rw [Declared.text, Declared.shape]
    cases rules with
    | none =>
      rw [bracketed, List.append_nil]
      exact .primitives kind
    | some rules =>
      unfold kindArrayText
      rw [List.append_assoc]
      exact .ruledPrimitives kind rules
  | object properties =>
    rw [Declared.text, Declared.shape]
    exact .object (hinner properties rfl)
  | objectArray properties =>
    rw [Declared.text, Declared.shape]
    exact .objects (hinner properties rfl)

/-- The texts of properties are accepted as their entries if their values are. -/
theorem reads_segments {policy : KeyPolicy} {inner : Text → Schema → Prop} {doc : Document}
    (hkeys : ∀ property ∈ doc, ':' ∉ property.1)
    (hvalues : ∀ property ∈ doc, ValueReads inner property.2.text (property.2.shape policy)) :
    List.Forall₂ (PropertyReads inner) doc.segments (doc.entries policy) := by
  rw [Document.segments_eq_map, Document.entries_eq_map, List.forall₂_map_left_iff,
    List.forall₂_map_right_iff, List.forall₂_same]
  intro property hproperty
  exact ⟨hkeys property hproperty, property.2.text, rfl, hvalues property hproperty⟩

/-- The text of the object in a value has blanks only where the value has. -/
theorem blankless_of_inner? {value : Declared} {inner : Document}
    (hinner : value.inner? = some inner) (h : Text.Blankless value.text) :
    Text.Blankless inner.text := by
  cases value with
  | primitive kind rules => simp [Declared.inner?] at hinner
  | primitiveArray kind rules => simp [Declared.inner?] at hinner
  | object properties =>
    obtain rfl : properties = inner := by simpa [Declared.inner?] using hinner
    rwa [Declared.text] at h
  | objectArray properties =>
    obtain rfl : properties = inner := by simpa [Declared.inner?] using hinner
    rw [Declared.text] at h
    unfold objectArrayText at h
    rw [Text.blankless_append_iff, Text.blankless_append_iff] at h
    exact h.2.1

/-- The text of a legible document is accepted as the schema that the document declares. -/
theorem parseObject_text {policy : KeyPolicy} {limit : Nat} {doc : Document}
    (hlegible : doc.Legible policy limit) (hblank : Text.Blankless doc.text) :
    parseObject policy limit doc.text = .ok (doc.schema policy) := by
  induction limit using Nat.strongRecOn generalizing doc with
  | ind limit ih =>
    have hread := hlegible.readable doc doc.mem_objects_self
    rw [Document.text, blankless_objectText_iff] at hblank
    -- The objects in the properties are accepted one level below, where fewer levels are left.
    have hinner : ∀ property ∈ doc, ∀ inner, property.2.inner? = some inner →
        Accepts (innerParser policy limit) inner.text (inner.schema policy) := by
      intro property hproperty inner hinner
      obtain ⟨below, rfl, hbelow⟩ := hlegible.inner hproperty hinner
      apply ih below (Nat.lt_succ_self below) hbelow
      apply blankless_of_inner? hinner
      have hsegment := hblank (property.1 ++ ':' :: property.2.text) (by
        rw [Document.segments_eq_map]
        exact List.mem_map_of_mem hproperty)
      rw [Text.blankless_append_iff, Text.blankless_cons_iff] at hsegment
      exact hsegment.2.2
    have hreads := reads_segments hread.colonless fun property hproperty =>
      valueReads_text (hread.plain property hproperty) (hinner property hproperty)
    have hmerge : merge policy (doc.entries policy) = .ok (doc.schema policy) := by
      refine merge_eq_ok_iff.2 ⟨fun hpolicy => ?_, rfl⟩
      rw [Document.map_fst_entries]
      exact hlegible.distinct hpolicy doc doc.mem_objects_self
    rw [parseObject_eq_objectWith, Document.text,
      objectWith_objectText_iff hblank hread.separate (ne_singleton_nil_of_reads hreads)]
    exact ⟨doc.entries policy, hreads, hmerge⟩

/-- What is accepted, and as what: the texts of legible documents, as the schemas these declare. -/
theorem parseObject_eq_ok_iff {policy : KeyPolicy} {limit : Nat} {text : Text} {schema : Schema}
    (hblank : Text.Blankless text) :
    parseObject policy limit text = .ok schema ↔
      ∃ doc : Document,
        doc.text = text ∧ doc.Legible policy limit ∧ doc.schema policy = schema := by
  constructor
  · exact exists_document_of_parseObject hblank
  · rintro ⟨doc, rfl, hlegible, rfl⟩
    exact parseObject_text hlegible hblank

end DocShape
