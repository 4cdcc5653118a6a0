import DocShape.Proofs.Records
import Mathlib.Data.List.Nodup
import Mathlib.Data.List.Perm.Subperm

/-!
# The names of fields

A record has one field for each property of its object, in the order of declaration, and every name
can be used for a field (`Record.Usable`). The name comes from the key alone, unless an earlier field
has it: then the fewest underscores that tell it from the earlier names stand behind it
(`Record.exists_underscores`, `Record.freshName_not_mem`).

Underscores could spoil a key that is fit for a name, as they would spoil `model`. But they only ever
stand behind made-up names: an earlier field has a key's name either because it has the same key,
and keys are distinct, or because its own name is made up (`Record.Clear`). A made-up name stays
usable whatever letters, digits and underscores stand behind it (`Record.MadeUp.usable`).

Relation: the record types of schemas with distinct keys, at every level, those that cannot be built
for other reasons included.
-/

set_option autoImplicit false

namespace DocShape

namespace Record

/-- A name can be used for a field: it is an identifier, no reserved word and no attribute that every
record has, and begins neither with an underscore nor with `model_`. -/
structure Usable (name : Text) : Prop where
  identifier : Text.isIdentifier name = true
  not_reserved : name ∉ reservedWords
  not_own : name ∉ ownAttributes
  not_underscore : ¬ ['_'] <+: name
  not_model : ¬ "model_".toList <+: name

theorem isFieldName_iff {name : Text} : isFieldName name = true ↔ Usable name := by
  simp only [isFieldName, Bool.and_eq_true, Bool.not_eq_true', ← Bool.not_eq_true,
    List.contains_iff_mem, List.isPrefixOf_iff_prefix]
  constructor
  · rintro ⟨⟨⟨⟨hidentifier, hreserved⟩, hown⟩, hunderscore⟩, hmodel⟩
    exact ⟨hidentifier, hreserved, hown, hunderscore, hmodel⟩
  · intro h
    exact ⟨⟨⟨⟨h.identifier, h.not_reserved⟩, h.not_own⟩, h.not_underscore⟩, h.not_model⟩

/-! ## Made-up names -/

/-- A made-up name: the beginning of all made-up names and what may stand in an identifier. -/
def MadeUp (name : Text) : Prop :=
  ∃ rest, name = madeUp ++ rest ∧ ∀ c ∈ rest, Text.isIdentifierPart c = true

/-- No reserved word and no attribute of records begins as made-up names do. -/
theorem MadeUp.usable {name : Text} (h : MadeUp name) : Usable name := by
  obtain ⟨rest, rfl, hrest⟩ := h
  have hbegins : madeUp <+: madeUp ++ rest := List.prefix_append _ _
  have hnone : ∀ word ∈ reservedWords ++ ownAttributes, ¬ madeUp <+: word := by decide
  have hparts : ∀ c ∈ madeUp.tail ++ rest, Text.isIdentifierPart c = true := by
    intro c hc
    rcases List.mem_append.1 hc with hc | hc
    · have hfixed : madeUp.tail.all Text.isIdentifierPart = true := by decide
      exact List.all_eq_true.1 hfixed c hc
    · exact hrest c hc
  constructor
  · have hstart : Text.isIdentifierStart 'f' = true := by decide
    have hname : madeUp ++ rest = 'f' :: (madeUp.tail ++ rest) := rfl
    rw [hname, Text.isIdentifier, hstart, Bool.true_and, List.all_eq_true]
    exact hparts
  · exact fun hmem => hnone _ (List.mem_append_left _ hmem) hbegins
  · exact fun hmem => hnone _ (List.mem_append_right _ hmem) hbegins
  · rintro ⟨more, hmore⟩
    have hfirst : '_' = 'f' := Option.some.inj (congrArg List.head? hmore)
    exact absurd hfirst (by decide)
  · rintro ⟨more, hmore⟩
    have hfirst : 'm' = 'f' := Option.some.inj (congrArg List.head? hmore)
    exact absurd hfirst (by decide)

theorem MadeUp.underscored {name : Text} (h : MadeUp name) (count : Nat) :
    MadeUp (name ++ List.replicate count '_') := by
  obtain ⟨rest, rfl, hrest⟩ := h
  refine ⟨rest ++ List.replicate count '_', List.append_assoc _ _ _, fun c hc => ?_⟩
  rcases List.mem_append.1 hc with hc | hc
  · exact hrest c hc
  · rw [List.eq_of_mem_replicate hc]
    decide

/-- Letters and digits may stand in an identifier when they are made lower case. -/
theorem isIdentifierPart_toLower {c : Char} (h : isWordChar c = true) :
    Text.isIdentifierPart c.toLower = true := by
  have hascii : ∀ n < 128, isWordChar (Char.ofNat n) = true →
      Text.isIdentifierPart (Char.ofNat n).toLower = true := by decide
  have hsmall : c.toNat < 128 := by
    delta isWordChar Char.isAlphanum Char.isAlpha Char.isUpper Char.isLower Char.isDigit at h
    simp only [Bool.or_eq_true, Bool.and_eq_true, decide_eq_true_eq, ge_iff_le,
      UInt32.le_iff_toNat_le] at h
    have hcode : c.toNat = c.val.toNat := rfl
    have hupper : 'Z'.val.toNat = 90 := rfl
    have hlower : 'z'.val.toNat = 122 := rfl
    have hdigit : '9'.val.toNat = 57 := rfl
    omega
  rw [← Char.ofNat_toNat c] at h ⊢
  exact hascii c.toNat hsmall h

theorem mem_joinWith {separator : Text} {texts : List Text} {c : Char}
    (h : c ∈ Text.joinWith separator texts) : c ∈ separator ∨ ∃ text ∈ texts, c ∈ text := by
  induction texts with
  | nil => cases h
  | cons text texts ih =>
    cases texts with
    | nil => exact .inr ⟨text, List.mem_singleton_self _, h⟩
    | cons next texts =>
      rw [Text.joinWith, List.append_assoc, List.mem_append, List.mem_append] at h
      rcases h with h | h | h
      · exact .inr ⟨text, List.mem_cons_self, h⟩
      · exact .inl h
      · rcases ih h with hseparator | ⟨other, hother, hc⟩
        · exact .inl hseparator
        · exact .inr ⟨other, List.mem_cons_of_mem _ hother, hc⟩

/-- The name from a key is the key, if that is fit for a name, or it is made up. -/
theorem fieldName_cases (key : Text) :
    (fieldName key = key ∧ Usable key) ∨ MadeUp (fieldName key) := by
  rw [fieldName]
  split
  next hfit => exact .inl ⟨rfl, isFieldName_iff.1 hfit⟩
  next =>
    refine .inr ⟨_, rfl, fun c hc => ?_⟩
    rcases mem_joinWith hc with hseparator | ⟨text, htext, hc⟩
    · rw [List.mem_singleton.1 hseparator]
      decide
    · obtain ⟨word, hword, rfl⟩ := List.mem_map.1 htext
      obtain ⟨d, hd, rfl⟩ := List.mem_map.1 hc
      have hwordChar := isWordChar_of_mem_wordsFrom (fun c hc => by cases hc) hword
      exact isIdentifierPart_toLower (hwordChar d hd)

/-! ## Fresh names -/

/-- A fresh name is the name with some underscores behind it. With fewer of them it is taken, and it is
not taken itself unless all the fuel is spent. -/
theorem exists_underscores (taken : List Text) (fuel : Nat) (name : Text) :
    ∃ count ≤ fuel, freshName taken fuel name = name ++ List.replicate count '_' ∧
      (∀ fewer < count, name ++ List.replicate fewer '_' ∈ taken) ∧
      (count < fuel → freshName taken fuel name ∉ taken) := by
  induction fuel generalizing name with
  | zero => exact ⟨0, Nat.le_refl 0, (List.append_nil _).symm, by simp, by simp⟩
  | succ fuel ih =>
    rw [freshName]
    split
    next htaken =>
      obtain ⟨count, hle, hname, hfewer, hnot⟩ := ih (name ++ ['_'])
      refine ⟨count + 1, Nat.succ_le_succ hle, ?_, fun fewer hlt => ?_, fun hlt => ?_⟩
      · rw [hname, List.replicate_succ, List.append_assoc, List.singleton_append]
      · cases fewer with
        | zero => simpa using htaken
        | succ fewer =>
          rw [List.replicate_succ, ← List.singleton_append, ← List.append_assoc]
          exact hfewer fewer (Nat.lt_of_succ_lt_succ hlt)
      · exact hnot (Nat.lt_of_succ_lt_succ hlt)
    next htaken =>
      refine ⟨0, Nat.zero_le _, (List.append_nil _).symm, by simp, fun _ => ?_⟩
      simpa using htaken

theorem underscored_injective (name : Text) :
    Function.Injective fun count : Nat => name ++ List.replicate count '_' := by
  intro count other h
  have hlength := congrArg List.length h
  simpa using hlength

/-- The search for a fresh name comes to its end: there are more names to try than are taken. -/
theorem freshName_not_mem (taken : List Text) (name : Text) :
    freshName taken taken.length name ∉ taken := by
  obtain ⟨count, hle, hname, hfewer, hnot⟩ := exists_underscores taken taken.length name
  rcases Nat.lt_or_eq_of_le hle with hlt | rfl
  · exact hnot hlt
  · intro hmem
    rw [hname] at hmem
    -- all names that were tried and the last one would be taken, one more than there are
    have hsubset : ((List.range (taken.length + 1)).map fun tried =>
        name ++ List.replicate tried '_') ⊆ taken := by
      intro other hother
      obtain ⟨tried, htried, rfl⟩ := List.mem_map.1 hother
      rcases Nat.lt_or_eq_of_le (Nat.le_of_lt_succ (List.mem_range.1 htried)) with hlt | rfl
      · exact hfewer tried hlt
      · exact hmem
    have hnodup := List.nodup_range (n := taken.length + 1).map (underscored_injective name)
    have hlength := (hnodup.subperm hsubset).length_le
    rw [List.length_map, List.length_range] at hlength
    exact absurd hlength (Nat.not_succ_le_self _)

/-! ## Naming one property after another -/

/-- The names that are taken leave the keys to come alone, but for keys that are made-up names. -/
def Clear (taken keys : List Text) : Prop := ∀ key ∈ keys, key ∈ taken → MadeUp key

/-- A property gets a usable name, and the names that are taken then leave the other keys alone. -/
theorem usable_freshName {taken keys : List Text} {key : Text} (hkey : key ∉ keys)
    (hclear : Clear taken (key :: keys)) :
    Usable (freshName taken taken.length (fieldName key)) ∧
      Clear (freshName taken taken.length (fieldName key) :: taken) keys := by
  obtain ⟨count, -, hname, hfewer, -⟩ := exists_underscores taken taken.length (fieldName key)
  have hrest : Clear taken keys := fun other hother => hclear other (List.mem_cons_of_mem _ hother)
  have hmade (h : MadeUp (freshName taken taken.length (fieldName key))) :
      Clear (freshName taken taken.length (fieldName key) :: taken) keys := by
    intro other hother hmem
    rcases List.mem_cons.1 hmem with rfl | hmem
    · exact h
    · exact hrest other hother hmem
  rcases fieldName_cases key with ⟨hself, husable⟩ | hmadeUp
  · rw [hself] at hname hfewer hmade ⊢
    cases count with
    | zero =>
      rw [List.replicate_zero, List.append_nil] at hname
      rw [hname]
      refine ⟨husable, fun other hother hmem => ?_⟩
      rcases List.mem_cons.1 hmem with rfl | hmem
      · exact absurd hother hkey
      · exact hrest other hother hmem
    | succ count =>
      -- the key itself is taken, so it is a made-up name
      have htaken : key ∈ taken := by simpa using hfewer 0 (Nat.succ_pos count)
      have hmadeUp := (hclear key List.mem_cons_self htaken).underscored (count + 1)
      rw [← hname] at hmadeUp
      exact ⟨hmadeUp.usable, hmade hmadeUp⟩
  · have hmadeUp := hmadeUp.underscored count
    rw [← hname] at hmadeUp
    exact ⟨hmadeUp.usable, hmade hmadeUp⟩

end Record

/-- The names of the fields for properties with distinct keys are usable, and no two of them and
none of them and a taken name are the same. -/
theorem Schema.names_fieldsFrom (name : Text) {taken : List Text} {schema : Schema}
    (hkeys : schema.keys.Nodup) (hclear : Record.Clear taken schema.keys) :
    (∀ field ∈ schema.fieldsFrom name taken, Record.Usable field.1.name ∧ field.1.name ∉ taken) ∧
      ((schema.fieldsFrom name taken).map fun field => field.1.name).Nodup := by
  induction schema generalizing taken with
  | nil => simp [fieldsFrom]
  | cons property schema ih =>
    obtain ⟨hkey, hrest⟩ := List.nodup_cons.1 hkeys
    obtain ⟨husable, hclear⟩ := Record.usable_freshName hkey hclear
    obtain ⟨hfields, hnodup⟩ := ih hrest hclear
    have hfresh := Record.freshName_not_mem taken (Record.fieldName property.1)
    rw [fieldsFrom]
    generalize Record.freshName taken taken.length (Record.fieldName property.1) = first at *
    constructor
    · intro field hfield
      rcases List.mem_cons.1 hfield with rfl | hfield
      · exact ⟨husable, hfresh⟩
      · obtain ⟨husable, hnot⟩ := hfields field hfield
        exact ⟨husable, fun hmem => hnot (List.mem_cons_of_mem _ hmem)⟩
    · rw [List.map_cons, List.nodup_cons]
      refine ⟨fun hmem => ?_, hnodup⟩
      obtain ⟨field, hfield, hname⟩ := List.mem_map.1 hmem
      exact (hfields field hfield).2 (hname ▸ List.mem_cons_self)

/-- A field is named after its key, with the fewest underscores that tell it from the names before. -/
theorem Schema.underscores_fieldsFrom (name : Text) {taken : List Text} {schema : Schema}
    {before after : List (Record.Label × FieldType)} {field : Record.Label × FieldType}
    (h : schema.fieldsFrom name taken = before ++ field :: after) :
    ∃ count, field.1.name = Record.fieldName field.1.key ++ List.replicate count '_' ∧
      ∀ fewer < count, Record.fieldName field.1.key ++ List.replicate fewer '_' ∈
        taken ++ before.map fun earlier => earlier.1.name := by
  induction schema generalizing taken before with
  | nil => simp [fieldsFrom] at h
  | cons property schema ih =>
    rw [fieldsFrom] at h
    cases before with
    | nil =>
      obtain ⟨rfl, -⟩ := List.cons.inj h
      obtain ⟨count, -, hname, hfewer, -⟩ :=
        Record.exists_underscores taken taken.length (Record.fieldName property.1)
      exact ⟨count, hname, fun fewer hlt => List.mem_append_left _ (hfewer fewer hlt)⟩
    | cons first before =>
      obtain ⟨rfl, hrest⟩ := List.cons.inj h
      obtain ⟨count, hname, hfewer⟩ := ih hrest
      refine ⟨count, hname, fun fewer hlt => ?_⟩
      have hmem := hfewer fewer hlt
      simp only [List.cons_append, List.mem_cons, List.mem_append, List.map_cons] at hmem ⊢
      rcases hmem with hmem | hmem | hmem
      · exact .inr (.inl hmem)
      · exact .inl hmem
      · exact .inr (.inr hmem)

/-! ## Every level of a record type -/

mutual

/-- The records in the type of a field, from the outermost one inwards, each with its fields. -/
def FieldType.records : FieldType → List (List (Record.Label × FieldType))
  | .primitive _ => []
  | .list items => items.records
  | .record _ fields => fields :: innerRecords fields

/-- The records in the types of some fields. -/
def innerRecords : List (Record.Label × FieldType) → List (List (Record.Label × FieldType))
  | [] => []
  | (_, type) :: fields => type.records ++ innerRecords fields

end

/-- The records of a record type: the record itself and the records inside it. -/
def RecordType.records (type : RecordType) : List (List (Record.Label × FieldType)) :=
  type.fields :: innerRecords type.fields

/-- What is to be said of the fields for an object. -/
structure Record.FieldsFor (object : Schema) (fields : List (Record.Label × FieldType)) : Prop where
  /-- There is one field for each property, with its key, in the order of declaration. -/
  keys : fields.map (fun field => field.1.key) = object.keys
  /-- No two fields have the same name. -/
  distinct : (fields.map fun field => field.1.name).Nodup
  /-- Every name can be used. -/
  usable : ∀ field ∈ fields, Record.Usable field.1.name
  /-- A name is the one from the key with the fewest underscores that tell it from those before. -/
  named : ∀ before field after, fields = before ++ field :: after →
    ∃ count, field.1.name = Record.fieldName field.1.key ++ List.replicate count '_' ∧
      ∀ fewer < count, Record.fieldName field.1.key ++ List.replicate fewer '_' ∈
        before.map fun earlier => earlier.1.name

theorem Schema.fieldsFor_fieldsFrom (name : Text) {schema : Schema} (hkeys : schema.keys.Nodup) :
    Record.FieldsFor schema (schema.fieldsFrom name []) := by
  have hclear : Record.Clear [] schema.keys := fun key _ hmem => by cases hmem
  obtain ⟨hfields, hnodup⟩ := schema.names_fieldsFrom name hkeys hclear
  exact
    { keys := schema.keys_fieldsFrom name []
      distinct := hnodup
      usable := fun field hfield => (hfields field hfield).1
      named := fun before field after h => schema.underscores_fieldsFrom name h }

theorem forall₂_innerRecords {properties : Schema}
    (h : ∀ property ∈ properties, ∀ name,
      List.Forall₂ Record.FieldsFor property.2.objects (property.2.fieldType name).records)
    (name : Text) (taken : List Text) :
    List.Forall₂ Record.FieldsFor properties.innerObjects
      (innerRecords (properties.fieldsFrom name taken)) := by
  induction properties generalizing taken with
  | nil =>
    rw [Schema.fieldsFrom, innerRecords, Schema.innerObjects]
    exact .nil
  | cons property properties ih =>
    rw [Schema.fieldsFrom, innerRecords, Schema.innerObjects]
    have hrest := ih (fun other hother => h other (List.mem_cons_of_mem _ hother))
    exact List.rel_append (h property List.mem_cons_self _) (hrest _)

/-- Object by object, the records for a shape have the fields for its objects. -/
theorem Shape.forall₂_records {shape : Shape} (hdistinct : shape.Distinct) (name : Text) :
    List.Forall₂ Record.FieldsFor shape.objects (shape.fieldType name).records := by
  induction shape using Shape.rec' generalizing name with
  | primitive kind =>
    rw [objects, fieldType, FieldType.records]
    exact .nil
  | array items ih =>
    rw [objects, fieldType, FieldType.records]
    exact ih hdistinct name
  | object properties ih =>
    obtain ⟨hkeys, hinner⟩ := Schema.distinct_iff.1 hdistinct
    rw [objects, fieldType, FieldType.records]
    refine .cons (Schema.fieldsFor_fieldsFrom name hkeys) (forall₂_innerRecords ?_ name [])
    exact fun property hproperty => ih property hproperty (hinner property hproperty)

/-- **Every property has its own field with a usable name.** A schema has one record type, and that
can be built unless its name has a null character or a key somewhere in the schema is the name kept
for settings. Whether it can be built or not, there is a record for every object of the schema, which
has one field for each property, in the order of declaration and with the property's key; the names
of its fields are usable, no two of them are the same, and each is the first of the names that can
be tried for its key that no earlier field has. -/
theorem recordType_names_fields {schema : Schema} (hdistinct : schema.Distinct) (name : Text) :
    (∀ type, schema.buildRecord name = .ok type ↔
      type = schema.recordType name ∧ '\x00' ∉ name ∧
        ∀ object ∈ schema.objects, Record.settingsName ∉ object.keys) ∧
    List.Forall₂ Record.FieldsFor schema.objects (schema.recordType name).records := by
  constructor
  · intro type
    have hbuilt := @Schema.exists_buildRecord_iff schema name
    simp only [Schema.buildRecord_eq_ok_iff, exists_and_left, exists_eq', and_true] at hbuilt
    rw [Schema.buildRecord_eq_ok_iff, hbuilt, and_comm, eq_comm]
  · have hobjects : (Shape.object schema).objects = schema.objects := by
      rw [Shape.objects, Schema.objects]
    have hrecords : ((Shape.object schema).fieldType name).records =
        (schema.recordType name).records := by
      rw [Shape.fieldType, FieldType.records]
      rfl
    rw [← hobjects, ← hrecords]
    exact Shape.forall₂_records hdistinct name

/-- Keys that make the same name, a key that is that name itself, keys without a letter, and keys that
records or the language have a use for. A record with the key that is kept for settings has a usable
name for it and still cannot be built. -/
theorem recordType_names_clashing :
    let inner : Schema :=
      [("1".toList, .primitive .number), ("!".toList, .primitive .boolean),
        ("field_1".toList, .primitive .string), ("?".toList, .primitive .string)]
    let schema : Schema :=
      [("a-b".toList, .primitive .string), ("field_a_b".toList, .array (.object inner)),
        ("A b".toList, .primitive .number), ("model".toList, .primitive .string),
        ("model_".toList, .primitive .string), ("class".toList, .primitive .string),
        ("copy".toList, .primitive .string)]
    let unbuilt : Schema := [("Config".toList, .primitive .string)]
    schema.Distinct ∧
      (schema.recordType "Schema".toList).records.map
          (fun fields => fields.map fun field => String.ofList field.1.name) =
        [["field_a_b", "field_a_b_", "field_a_b__", "model", "field_model", "field_class",
            "field_copy"],
          ["field_1", "field_", "field_1_", "field__"]] ∧
      List.Forall₂ Record.FieldsFor schema.objects (schema.recordType "Schema".toList).records ∧
      schema.buildRecord "Schema".toList = .ok (schema.recordType "Schema".toList) ∧
      List.Forall₂ Record.FieldsFor unbuilt.objects (unbuilt.recordType "Schema".toList).records ∧
      unbuilt.buildRecord "Schema".toList ≠ .ok (unbuilt.recordType "Schema".toList) := by
  intro inner schema unbuilt
  have hdistinct : schema.Distinct := by
    simp [schema, inner, Schema.Distinct, Shape.Distinct, Schema.AllDistinct]
  have hdistinct' : unbuilt.Distinct := by
    simp [unbuilt, Schema.Distinct, Shape.Distinct, Schema.AllDistinct]
  obtain ⟨hbuilt, hfields⟩ := recordType_names_fields hdistinct "Schema".toList
  obtain ⟨hbuilt', hfields'⟩ := recordType_names_fields hdistinct' "Schema".toList
  refine ⟨hdistinct, by decide +kernel, hfields, (hbuilt _).2 ⟨rfl, by decide, by decide⟩, hfields',
    fun h => ?_⟩
  obtain ⟨-, -, hkeys⟩ := (hbuilt' _).1 h
  exact absurd hkeys (by decide)

end DocShape
