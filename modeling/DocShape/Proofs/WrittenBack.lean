import DocShape.Proofs.DistinctKeys
import DocShape.Proofs.FieldNames
import DocShape.Proofs.MatchedTexts

/-!
# Records are written back as they were taken

A record that is written under the keys of its fields is the document it was taken from: the numbers
are doubles (`Json.inDoubles`), and the members of every object stand in the order of declaration
(`Shape.arranged`). Such a document is taken again, for the same record, and it is valid because all
that is declared is there, in its order and with its type (`Shape.Ordered`).

Written under the names of its fields, the record is the same document with every key replaced by
the name of the field (`FieldType.renamed`). An object would lose a member if two of its fields had
the same name; the names of the fields of one record are distinct, so no object has a key twice
(`Json.Distinct`).

Everything goes by induction on the shape. At an object the record has for each property the value of
the member with its key, and no other member is left over (`Schema.Filled`).

Relation: the records of schemas with distinct keys, and documents without a repeated key.
-/

set_option autoImplicit false

namespace DocShape

/-! ## Documents -/

mutual

/-- A value with every number as a double. -/
def Json.inDoubles : Json → Json
  | .int i => .float (Binary64.ofInt i)
  | .array values => .array (Json.itemsInDoubles values)
  | .object entries => .object (Json.membersInDoubles entries)
  | value => value

/-- The items of an array with every number as a double. -/
def Json.itemsInDoubles : List Json → List Json
  | [] => []
  | value :: values => value.inDoubles :: Json.itemsInDoubles values

/-- The members of an object with every number as a double. -/
def Json.membersInDoubles : List (Text × Json) → List (Text × Json)
  | [] => []
  | (key, value) :: entries => (key, value.inDoubles) :: Json.membersInDoubles entries

end

theorem Json.inDoubles_array (values : List Json) :
    (Json.array values).inDoubles = .array (values.map Json.inDoubles) := by
  rw [inDoubles]
  congr 1
  induction values with
  | nil => rfl
  | cons value values ih => rw [itemsInDoubles, ih, List.map_cons]

theorem Json.inDoubles_object (entries : List (Text × Json)) :
    (Json.object entries).inDoubles =
      .object (entries.map fun entry => (entry.1, entry.2.inDoubles)) := by
  rw [inDoubles]
  congr 1
  induction entries with
  | nil => rfl
  | cons entry entries ih => rw [membersInDoubles, ih, List.map_cons]

/-- A primitive value has no objects in it. -/
theorem Primitive.distinct_of_hasValue {kind : Primitive} {value : Json}
    (h : kind.hasValue value = true) : value.Distinct := by
  apply Json.distinct_of_keyLists_eq_nil
  cases kind <;> cases value <;> first | rfl | cases h

mutual

/-- A value with the members of every object put in the order of declaration, those that are not
declared behind the others. -/
def Shape.arranged : Shape → Json → Json
  | .primitive _, value => value
  | .array items, .array values => .array (values.map items.arranged)
  | .object properties, .object entries =>
      .object (Schema.arrangedMembers properties entries ++
        entries.filter fun entry => !Schema.has properties entry.1)
  | _, value => value

/-- The declared members of an object in the order of declaration. -/
def Schema.arrangedMembers : Schema → List (Text × Json) → List (Text × Json)
  | [], _ => []
  | (key, shape) :: properties, entries =>
      ((entries.filter fun entry => entry.1 == key).map fun entry =>
        (entry.1, shape.arranged entry.2)) ++ Schema.arrangedMembers properties entries

end

mutual

/-- A value with the keys of every object replaced by the names of the fields. -/
def FieldType.renamed : FieldType → Json → Json
  | .primitive _, value => value
  | .list items, .array values => .array (values.map items.renamed)
  | .record _ fields, .object entries => .object (entries.map (renamedEntry fields))
  | _, value => value

/-- A member with its key replaced by the name of the field that has the key. -/
def renamedEntry : List (Record.Label × FieldType) → Text × Json → Text × Json
  | [], entry => entry
  | (label, type) :: fields, entry =>
      if entry.1 = label.key then (label.name, type.renamed entry.2)
      else renamedEntry fields entry

end

/-! ## Records as documents -/

theorem FieldValue.toJson_list (label : Record.Label → Text) (items : List FieldValue) :
    (FieldValue.list items).toJson label = .array (items.map (FieldValue.toJson label)) := by
  rw [toJson]
  congr 1
  induction items with
  | nil => rfl
  | cons item items ih => rw [itemsToJson, ih, List.map_cons]

theorem FieldValue.toJson_record (label : Record.Label → Text)
    (fields : List (Record.Label × FieldValue)) :
    (FieldValue.record fields).toJson label =
      .object (fields.map fun field => (label field.1, field.2.toJson label)) := by
  rw [toJson]
  congr 1
  induction fields with
  | nil => rfl
  | cons field fields ih => rw [fieldsToJson, ih, List.map_cons]

/-! ## What is taken -/

namespace Taken

variable {α β γ : Type}

theorem both_eq_ok_iff {f : α → β → γ} {taken : Taken α} {taken' : Taken β} {c : γ} :
    both f taken taken' = .ok c ↔ ∃ a b, taken = .ok a ∧ taken' = .ok b ∧ f a b = c := by
  cases taken <;> cases taken' <;> simp [both]

theorem under_eq_ok_iff {step : Json.Step} {taken : Taken α} {a : α} :
    taken.under step = .ok a ↔ taken = .ok a := by
  cases taken <;> simp [under]

end Taken

theorem takeItems_eq_ok_iff {item : Json → Taken FieldValue} {start : Nat} {values : List Json}
    {taken : List FieldValue} :
    takeItems item start values = .ok taken ↔
      List.Forall₂ (fun value a => item value = .ok a) values taken := by
  induction values generalizing start taken with
  | nil => simp [takeItems, eq_comm]
  | cons value values ih =>
    simp only [takeItems, Taken.both_eq_ok_iff, Taken.under_eq_ok_iff, ih,
      List.forall₂_cons_left_iff]
    constructor
    · rintro ⟨a, rest, hfirst, hrest, rfl⟩
      exact ⟨a, rest, hfirst, hrest, rfl⟩
    · rintro ⟨a, rest, hfirst, hrest, rfl⟩
      exact ⟨a, rest, hfirst, hrest, rfl⟩

theorem refuseUndeclared_eq_ok_iff {keys : List Text} {entries : List (Text × Json)} {u : Unit} :
    refuseUndeclared keys entries = .ok u ↔ ∀ entry ∈ entries, entry.1 ∈ keys := by
  have hnil : ((entries.map Prod.fst).filter fun key => !keys.contains key) = [] ↔
      ∀ entry ∈ entries, entry.1 ∈ keys := by
    simp [List.filter_eq_nil_iff]
  rw [← hnil, refuseUndeclared]
  split
  next h => exact iff_of_true rfl h
  next h => exact iff_of_false nofun h

/-- The fields of a record have the values that the members of an object give for them. -/
structure Schema.Filled (name : Text) (properties : Schema) (entries : List (Text × Json))
    (fields : List (Record.Label × FieldValue)) : Prop where
  /-- The fields are those of the record type. -/
  labels : fields.map Prod.fst = (properties.fieldsFrom name []).map Prod.fst
  /-- Each field has the value of the member with its key. -/
  values : List.Forall₂ (fun property field => field.1.key = property.1 ∧
    ∃ value, Json.member? entries property.1 = some value ∧
      (property.2.fieldType (name ++ Record.typeName property.1)).take value = .ok field.2)
    properties fields
  /-- There is a field for every member. -/
  declared : ∀ entry ∈ entries, entry.1 ∈ properties.keys

theorem takeFields_fieldsFrom_eq_ok_iff {name : Text} {reserved : List Text} {properties : Schema}
    {entries : List (Text × Json)} {fields : List (Record.Label × FieldValue)} :
    takeFields (properties.fieldsFrom name reserved) entries = .ok fields ↔
      fields.map Prod.fst = (properties.fieldsFrom name reserved).map Prod.fst ∧
        List.Forall₂ (fun property field => field.1.key = property.1 ∧
          ∃ value, Json.member? entries property.1 = some value ∧
            (property.2.fieldType (name ++ Record.typeName property.1)).take value = .ok field.2)
          properties fields := by
  induction properties generalizing reserved fields with
  | nil => cases fields <;> simp [Schema.fieldsFrom, takeFields]
  | cons property properties ih =>
    rw [Schema.fieldsFrom, takeFields, Taken.both_eq_ok_iff]
    simp only [Taken.under_eq_ok_iff, ih]
    constructor
    · rintro ⟨value, rest, hvalue, ⟨hlabels, hrest⟩, rfl⟩
      refine ⟨by simp [hlabels], .cons ⟨rfl, ?_⟩ hrest⟩
      split at hvalue
      next => cases hvalue
      next found hfound => exact ⟨found, hfound, hvalue⟩
    · rintro ⟨hlabels, hfields⟩
      obtain ⟨⟨label, value⟩, rest, ⟨-, found, hfound, hvalue⟩, hrest, rfl⟩ :=
        List.forall₂_cons_left_iff.1 hfields
      obtain ⟨rfl, hothers⟩ := List.cons.inj hlabels
      refine ⟨value, rest, ?_, ⟨hothers, hrest⟩, rfl⟩
      simp only [hfound]
      exact hvalue

/-- A record is taken of an object whose members fill its fields. -/
theorem Shape.take_object_eq_ok_iff {name : Text} {properties : Schema} {value : Json}
    {taken : FieldValue} :
    ((Shape.object properties).fieldType name).take value = .ok taken ↔
      ∃ entries fields, value = .object entries ∧ taken = .record fields ∧
        properties.Filled name entries fields := by
  have hkeys : ((Schema.fieldsFrom name [] properties).map fun field => field.1.key) =
      Schema.keys properties := Schema.keys_fieldsFrom name [] properties
  rw [fieldType]
  cases value with
  | object entries =>
    rw [FieldType.take, hkeys, Taken.both_eq_ok_iff]
    constructor
    · rintro ⟨fields, u, hfields, hdeclared, rfl⟩
      obtain ⟨hlabels, hvalues⟩ := takeFields_fieldsFrom_eq_ok_iff.1 hfields
      exact ⟨entries, fields, rfl, rfl, hlabels, hvalues, refuseUndeclared_eq_ok_iff.1 hdeclared⟩
    · rintro ⟨entries', fields, hentries, rfl, hlabels, hvalues, hdeclared⟩
      cases hentries
      exact ⟨fields, (), takeFields_fieldsFrom_eq_ok_iff.2 ⟨hlabels, hvalues⟩,
        refuseUndeclared_eq_ok_iff.2 hdeclared, rfl⟩
  | _ => simp [FieldType.take, Taken.fail]

/-- A list is taken of an array, item by item. -/
theorem Shape.take_array_eq_ok_iff {name : Text} {items : Shape} {value : Json}
    {taken : FieldValue} :
    ((Shape.array items).fieldType name).take value = .ok taken ↔
      ∃ values list, value = .array values ∧ taken = .list list ∧
        List.Forall₂ (fun value a => (items.fieldType name).take value = .ok a) values list := by
  rw [fieldType]
  cases value with
  | array values =>
    rw [FieldType.take]
    constructor
    · intro h
      cases hitems : takeItems (items.fieldType name).take 0 values with
      | error issues => simp [hitems, Except.map] at h
      | ok list =>
        rw [hitems] at h
        cases h
        exact ⟨values, list, rfl, rfl, takeItems_eq_ok_iff.1 hitems⟩
    · rintro ⟨values', list, hvalues, rfl, hlist⟩
      cases hvalues
      rw [takeItems_eq_ok_iff.2 hlist]
      rfl
  | _ => simp [FieldType.take, Taken.fail]

/-- A primitive value is taken as it is, whole numbers as doubles. -/
theorem Primitive.take_eq_ok {kind : Primitive} {value : Json} {taken : FieldValue}
    (h : kind.take value = .ok taken) :
    (∀ label, taken.toJson label = value.inDoubles) ∧ kind.hasValue value.inDoubles = true ∧
      kind.take value.inDoubles = .ok taken := by
  cases kind with
  | string =>
    cases value with
    | string text =>
      cases h
      exact ⟨fun _ => rfl, rfl, rfl⟩
    | _ => cases h
  | number =>
    cases value with
    | int i =>
      rw [take] at h
      split at h
      next negative mantissa exponent hdouble =>
        cases h
        rw [Json.inDoubles, hdouble]
        exact ⟨fun _ => rfl, rfl, rfl⟩
      next => cases h
    | float x =>
      cases h
      exact ⟨fun _ => rfl, rfl, rfl⟩
    | _ => cases h
  | boolean =>
    cases value with
    | bool b =>
      cases h
      exact ⟨fun _ => rfl, rfl, rfl⟩
    | _ => cases h

/-- A primitive value is written back as it was taken, and taken again. -/
theorem Shape.take_primitive_eq_ok {kind : Primitive} {name : Text} {value : Json}
    {taken : FieldValue} (h : ((Shape.primitive kind).fieldType name).take value = .ok taken) :
    (∀ label, taken.toJson label = value.inDoubles) ∧ kind.hasValue value.inDoubles = true ∧
      ((Shape.primitive kind).fieldType name).take value.inDoubles = .ok taken := by
  rw [fieldType, FieldType.take] at h ⊢
  exact Primitive.take_eq_ok h

/-! ## What a filled record is written as -/

/-- With distinct keys one entry has a key that is found. -/
theorem filter_eq_singleton {entries : List (Text × Json)} (hkeys : (entries.map Prod.fst).Nodup)
    {key : Text} {value : Json} (h : Json.member? entries key = some value) :
    (entries.filter fun entry => entry.1 == key) = [(key, value)] := by
  obtain ⟨front, back, rfl, hfront⟩ := List.lookup_eq_some_iff.1 h
  rw [List.map_append, List.map_cons, List.nodup_append, List.nodup_cons] at hkeys
  obtain ⟨-, ⟨hback, -⟩, -⟩ := hkeys
  have hnoneFront : (front.filter fun entry => entry.1 == key) = [] := by
    rw [List.filter_eq_nil_iff]
    intro entry hentry
    have hne := bne_iff_ne.1 (hfront entry hentry)
    exact fun heq => hne (beq_iff_eq.1 heq).symm
  have hnoneBack : (back.filter fun entry => entry.1 == key) = [] := by
    rw [List.filter_eq_nil_iff]
    intro entry hentry heq
    exact hback (List.mem_map.2 ⟨entry, hentry, beq_iff_eq.1 heq⟩)
  rw [List.filter_append, hnoneFront, List.nil_append, List.filter_cons,
    if_pos (beq_self_eq_true key), hnoneBack]

/-- Members with the declared keys are put in order one by one. -/
theorem Schema.arrangedMembers_eq {properties : Schema} {entries entries' : List (Text × Json)}
    (hkeys : (entries.map Prod.fst).Nodup)
    (h : List.Forall₂ (fun property entry => ∃ value, Json.member? entries property.1 = some value ∧
      entry = (property.1, property.2.arranged value)) properties entries') :
    properties.arrangedMembers entries = entries' := by
  induction h with
  | nil => rfl
  | @cons property entry properties entries' hfirst hrest ih =>
    obtain ⟨value, hfound, rfl⟩ := hfirst
    rw [arrangedMembers, filter_eq_singleton hkeys hfound, ih]
    rfl

/-- Fields with the labels of a record type have the keys of the schema. -/
theorem keys_eq_of_labels {name : Text} {reserved : List Text} {properties : Schema}
    {fields : List (Record.Label × FieldValue)}
    (h : fields.map Prod.fst = (properties.fieldsFrom name reserved).map Prod.fst) :
    fields.map (fun field => field.1.key) = properties.keys := by
  have hkeys := congrArg (List.map Record.Label.key) h
  rw [List.map_map, List.map_map] at hkeys
  exact hkeys.trans (properties.keys_fieldsFrom name reserved)

namespace Schema.Filled

variable {name : Text} {properties : Schema} {entries : List (Text × Json)}
  {fields : List (Record.Label × FieldValue)}

/-- Written under their keys, the fields have the keys of the schema. -/
theorem keys_toJson (h : properties.Filled name entries fields) :
    (fields.map fun field => (field.1.key, field.2.byKey)).map Prod.fst = properties.keys := by
  rw [List.map_map]
  exact keys_eq_of_labels h.labels

/-- Written under their keys, the fields are found under them. -/
theorem member?_toJson (h : properties.Filled name entries fields) (hnodup : properties.keys.Nodup)
    {field : Record.Label × FieldValue} (hfield : field ∈ fields) :
    Json.member? (fields.map fun field => (field.1.key, field.2.byKey)) field.1.key =
      some field.2.byKey :=
  lookup_eq_some_of_mem (h.keys_toJson.symm ▸ hnodup)
    (List.mem_map_of_mem (f := fun field : Record.Label × FieldValue =>
      (field.1.key, field.2.byKey)) hfield)

/-- Among the members in doubles none is undeclared. -/
theorem filter_undeclared (h : properties.Filled name entries fields) :
    ((entries.map fun entry => (entry.1, entry.2.inDoubles)).filter fun entry =>
      !properties.has entry.1) = [] := by
  rw [List.filter_eq_nil_iff]
  intro entry hentry
  obtain ⟨source, hsource, rfl⟩ := List.mem_map.1 hentry
  have hdeclared := lookup_isSome_iff_mem.2 (h.declared source hsource)
  simpa [Schema.has, Schema.get?] using hdeclared

/-- The members of the document stand in order as the fields do, if what is taken of each is the
arranged value. -/
theorem arrangedMembers_inDoubles (h : properties.Filled name entries fields)
    (hkeys : (entries.map Prod.fst).Nodup)
    (harranged : ∀ property ∈ properties, ∀ entry ∈ entries, ∀ name taken,
      (property.2.fieldType name).take entry.2 = .ok taken →
        taken.byKey = property.2.arranged entry.2.inDoubles) :
    properties.arrangedMembers (entries.map fun entry => (entry.1, entry.2.inDoubles)) =
      fields.map fun field => (field.1.key, field.2.byKey) := by
  have hkeys' : ((entries.map fun entry => (entry.1, entry.2.inDoubles)).map Prod.fst).Nodup := by
    rwa [List.map_map]
  apply arrangedMembers_eq hkeys'
  rw [List.forall₂_map_right_iff]
  refine ((List.forall₂_and_left _ _).2 ⟨harranged, h.values⟩).imp ?_
  rintro property field ⟨harranged, hkey, value, hfound, htake⟩
  -- the member that was taken is the only one with its key, in doubles too
  have hentry := mem_of_lookup_eq_some hfound
  refine ⟨value.inDoubles, ?_, ?_⟩
  · exact lookup_eq_some_of_mem hkeys' (List.mem_map_of_mem hentry)
  · rw [hkey, harranged _ hentry _ _ htake]

end Schema.Filled

/-! ## Records as the documents they were taken from -/

namespace Shape

variable {shape : Shape} {name : Text} {value : Json} {taken : FieldValue}

/-- A record under its keys is the document in doubles and in the order of declaration. -/
theorem byKey_eq_arranged (hvalue : value.Distinct)
    (h : (shape.fieldType name).take value = .ok taken) :
    taken.byKey = shape.arranged value.inDoubles := by
  rw [FieldValue.byKey]
  induction shape using Shape.rec' generalizing name value taken with
  | primitive kind =>
    rw [arranged]
    exact (take_primitive_eq_ok h).1 Record.Label.key
  | array items ih =>
    obtain ⟨values, list, rfl, rfl, hlist⟩ := take_array_eq_ok_iff.1 h
    rw [Json.inDoubles_array, arranged, FieldValue.toJson_list, List.map_map]
    congr 1
    have hitems := (List.forall₂_and_left _ _).2 ⟨Json.distinct_array_iff.1 hvalue, hlist⟩
    refine (map_eq_map_of_forall₂ (hitems.imp ?_)).symm
    rintro value item ⟨hvalue, htake⟩
    exact (ih hvalue htake).symm
  | object properties ih =>
    obtain ⟨entries, fields, rfl, rfl, hfilled⟩ := take_object_eq_ok_iff.1 h
    obtain ⟨hkeys, hentries⟩ := Json.distinct_object_iff.1 hvalue
    have hmembers := hfilled.arrangedMembers_inDoubles hkeys fun property hproperty entry hentry
      name taken htake => ih property hproperty (hentries entry hentry) htake
    -- nothing stands behind the declared members, because an undeclared one would be refused
    have hnone := hfilled.filter_undeclared
    rw [Json.inDoubles_object, arranged, hmembers, hnone, List.append_nil, FieldValue.toJson_record]
    rfl

/-- A record under its keys has the declared types and the keys in the order of declaration. -/
theorem ordered_byKey (h : (shape.fieldType name).take value = .ok taken) :
    shape.Ordered taken.byKey := by
  rw [FieldValue.byKey]
  induction shape using Shape.rec' generalizing name value taken with
  | primitive kind =>
    obtain ⟨hjson, hkind, -⟩ := take_primitive_eq_ok h
    rw [hjson]
    exact .primitive hkind
  | array items ih =>
    obtain ⟨values, list, rfl, rfl, hlist⟩ := take_array_eq_ok_iff.1 h
    rw [FieldValue.toJson_list]
    refine .array fun value hvalue => ?_
    obtain ⟨item, hitem, rfl⟩ := List.mem_map.1 hvalue
    obtain ⟨_, _, htake⟩ := exists_of_mem_right hlist hitem
    exact ih htake
  | object properties ih =>
    obtain ⟨entries, fields, rfl, rfl, hfilled⟩ := take_object_eq_ok_iff.1 h
    rw [FieldValue.toJson_record]
    have hplaces : List.Forall₂ (fun property entry =>
        entry.1 = property.1 ∧ property.2.Ordered entry.2) properties
          (fields.map fun field => (field.1.key, field.2.toJson Record.Label.key)) := by
      rw [List.forall₂_map_right_iff]
      refine ((List.forall₂_and_left _ _).2 ⟨ih, hfilled.values⟩).imp ?_
      rintro property field ⟨ih, hkey, value, -, htake⟩
      exact ⟨hkey, ih htake⟩
    obtain ⟨hkeys, hvalues⟩ := forall₂_keyed_iff.1 hplaces
    exact .object hkeys hvalues

/-- A record under its keys is taken again for the same record. -/
theorem take_byKey (hshape : shape.Distinct) (h : (shape.fieldType name).take value = .ok taken) :
    (shape.fieldType name).take taken.byKey = .ok taken := by
  induction shape using Shape.rec' generalizing name value taken with
  | primitive kind =>
    obtain ⟨hjson, -, hagain⟩ := take_primitive_eq_ok h
    rwa [FieldValue.byKey, hjson]
  | array items ih =>
    obtain ⟨values, list, rfl, rfl, hlist⟩ := take_array_eq_ok_iff.1 h
    refine take_array_eq_ok_iff.2 ⟨_, list, FieldValue.toJson_list _ list, rfl, ?_⟩
    rw [List.forall₂_map_left_iff, List.forall₂_same]
    intro item hitem
    obtain ⟨_, _, htake⟩ := exists_of_mem_right hlist hitem
    exact ih hshape htake
  | object properties ih =>
    obtain ⟨hnodup, hinside⟩ := Schema.distinct_iff.1 hshape
    obtain ⟨entries, fields, rfl, rfl, hfilled⟩ := take_object_eq_ok_iff.1 h
    refine take_object_eq_ok_iff.2 ⟨_, fields, FieldValue.toJson_record _ fields, rfl, ?_⟩
    refine ⟨hfilled.labels, ?_, fun entry hentry => ?_⟩
    · -- which property a field is for, with what is known of both
      have hfields := (List.forall₂_and_left _ _).2 ⟨fun field hfield => hfield,
        hfilled.values.flip⟩
      have hplaces := (List.forall₂_and_left _ _).2 ⟨fun property hproperty =>
        And.intro (@ih property hproperty) (hinside property hproperty), hfields.flip⟩
      refine hplaces.imp ?_
      rintro property field ⟨⟨ih, hdistinct⟩, hfield, hkey, value, -, htake⟩
      refine ⟨hkey, field.2.byKey, ?_, ih hdistinct htake⟩
      rw [← hkey]
      exact hfilled.member?_toJson hnodup hfield
    · rw [← hfilled.keys_toJson]
      exact List.mem_map_of_mem hentry

end Shape

/-! ## Names in place of keys -/

/-- The members of a record are renamed field by field. -/
theorem renamedEntry_fieldsFrom {name : Text} {reserved : List Text} {properties : Schema}
    {fields : List (Record.Label × FieldValue)} (hnodup : properties.keys.Nodup)
    (hlabels : fields.map Prod.fst = (properties.fieldsFrom name reserved).map Prod.fst)
    (h : List.Forall₂ (fun property field => field.2.byName =
      (property.2.fieldType (name ++ Record.typeName property.1)).renamed field.2.byKey)
      properties fields) :
    ∀ field ∈ fields, renamedEntry (properties.fieldsFrom name reserved)
      (field.1.key, field.2.byKey) = (field.1.name, field.2.byName) := by
  induction h generalizing reserved with
  | nil => exact fun field hfield => nomatch hfield
  | @cons property field properties fields hfirst hrest ih =>
    obtain ⟨hkey, hnodup⟩ := List.nodup_cons.1 hnodup
    rw [Schema.fieldsFrom] at hlabels ⊢
    obtain ⟨hlabel, hothers⟩ := List.cons.inj hlabels
    rintro other hother
    rw [renamedEntry]
    rcases List.mem_cons.1 hother with rfl | hother
    · rw [hlabel, if_pos rfl, hfirst]
    · -- the later fields have the keys of the later properties
      have hne : other.1.key ≠ property.1 := by
        intro heq
        have hmem : other.1.key ∈ fields.map fun field => field.1.key :=
          List.mem_map_of_mem (f := fun field : Record.Label × FieldValue => field.1.key) hother
        rw [keys_eq_of_labels hothers, heq] at hmem
        exact hkey hmem
      rw [if_neg hne]
      exact ih hnodup hothers other hother

/-- A record under its names is the record under its keys with the keys replaced. -/
theorem Shape.byName_eq_renamed {shape : Shape} {name : Text} {value : Json} {taken : FieldValue}
    (hshape : shape.Distinct) (h : (shape.fieldType name).take value = .ok taken) :
    taken.byName = (shape.fieldType name).renamed taken.byKey := by
  induction shape using Shape.rec' generalizing name value taken with
  | primitive kind =>
    obtain ⟨hjson, -, -⟩ := take_primitive_eq_ok h
    rw [FieldValue.byName, FieldValue.byKey, hjson, hjson, fieldType, FieldType.renamed]
  | array items ih =>
    obtain ⟨values, list, rfl, rfl, hlist⟩ := take_array_eq_ok_iff.1 h
    rw [FieldValue.byName, FieldValue.byKey, FieldValue.toJson_list, FieldValue.toJson_list,
      fieldType, FieldType.renamed, List.map_map]
    congr 1
    apply List.map_congr_left
    intro item hitem
    obtain ⟨_, _, htake⟩ := exists_of_mem_right hlist hitem
    exact ih hshape htake
  | object properties ih =>
    obtain ⟨hnodup, hinside⟩ := Schema.distinct_iff.1 hshape
    obtain ⟨entries, fields, rfl, rfl, hfilled⟩ := take_object_eq_ok_iff.1 h
    rw [FieldValue.byName, FieldValue.byKey, FieldValue.toJson_record, FieldValue.toJson_record,
      fieldType, FieldType.renamed, List.map_map]
    congr 1
    apply List.map_congr_left
    intro field hfield
    refine (renamedEntry_fieldsFrom hnodup hfilled.labels ?_ field hfield).symm
    have hplaces := (List.forall₂_and_left _ _).2 ⟨fun property hproperty =>
      And.intro (@ih property hproperty) (hinside property hproperty), hfilled.values⟩
    refine hplaces.imp ?_
    rintro property field ⟨⟨ih, hdistinct⟩, -, value, -, htake⟩
    exact ih hdistinct htake

/-- If the fields of every record have distinct labels, no object has a key twice. -/
theorem Shape.distinct_toJson {label : Record.Label → Text}
    (hlabel : ∀ (name : Text) (object : Schema), object.keys.Nodup →
      ((object.fieldsFrom name []).map fun field => label field.1).Nodup)
    {shape : Shape} {name : Text} {value : Json} {taken : FieldValue} (hshape : shape.Distinct)
    (h : (shape.fieldType name).take value = .ok taken) : (taken.toJson label).Distinct := by
  induction shape using Shape.rec' generalizing name value taken with
  | primitive kind =>
    obtain ⟨hjson, hkind, -⟩ := take_primitive_eq_ok h
    rw [hjson]
    exact Primitive.distinct_of_hasValue hkind
  | array items ih =>
    obtain ⟨values, list, rfl, rfl, hlist⟩ := take_array_eq_ok_iff.1 h
    rw [FieldValue.toJson_list, Json.distinct_array_iff, List.forall_mem_map]
    intro item hitem
    obtain ⟨_, _, htake⟩ := exists_of_mem_right hlist hitem
    exact ih hshape htake
  | object properties ih =>
    obtain ⟨hnodup, hinside⟩ := Schema.distinct_iff.1 hshape
    obtain ⟨entries, fields, rfl, rfl, hfilled⟩ := take_object_eq_ok_iff.1 h
    rw [FieldValue.toJson_record, Json.distinct_object_iff, List.forall_mem_map, List.map_map]
    constructor
    · have hlabels := congrArg (List.map label) hfilled.labels
      rw [List.map_map, List.map_map] at hlabels
      exact hlabels.symm ▸ hlabel name properties hnodup
    · intro field hfield
      obtain ⟨property, hproperty, -, _, -, htake⟩ := exists_of_mem_right hfilled.values hfield
      exact ih property hproperty (hinside property hproperty) htake

/-! ## The record of a document -/

/-- **A record gives its document back.** Let a record be taken of a document that has no key twice.
Written under the keys, it is the document with every number as a double and every object in the
order of declaration. That is taken again for the same record, so it is written the same way again,
and it is valid. Written under the names, it is that document with every key replaced by the name of
its field, and as no object gets a name twice, no member is lost. What is taken of a text is taken of
a document that has no key twice. -/
theorem take_written_back {schema : Schema} (hschema : schema.Distinct) {name : Text}
    {type : RecordType} (htype : schema.buildRecord name = .ok type) :
    (∀ (document : Json) (record : FieldValue), document.Distinct →
      type.take document = .ok record →
        record.byKey = (Shape.object schema).arranged document.inDoubles ∧
          (Shape.object schema).Ordered record.byKey ∧
          type.take record.byKey = .ok record ∧
          (schema.judge record.byKey).isValid = true ∧
          (∀ text, Json.read Json.documentDialect text = .ok record.byKey →
            schema.validate text = .ok (schema.judge record.byKey)) ∧
          record.byName = (FieldType.record type.name type.fields).renamed record.byKey ∧
          record.byKey.Distinct ∧ record.byName.Distinct) ∧
    ∀ (text : Text) (record : FieldValue), type.takeText text = .ok record →
      ∃ document, Json.read Record.textDialect text = .ok document ∧ document.Distinct ∧
        type.take document = .ok record := by
  obtain rfl := (Schema.buildRecord_eq_ok_iff.1 htype).2
  have hfieldType : FieldType.record (schema.recordType name).name (schema.recordType name).fields =
      (Shape.object schema).fieldType name := by
    rw [Shape.fieldType]
    rfl
  have hnames (name : Text) (object : Schema) (hkeys : object.keys.Nodup) :=
    (Schema.fieldsFor_fieldsFrom name hkeys).distinct
  have hkeys (name : Text) (object : Schema) (hkeys : object.keys.Nodup) :
      ((object.fieldsFrom name []).map fun field => field.1.key).Nodup := by
    rwa [Schema.keys_fieldsFrom]
  constructor
  · intro document record hdocument htake
    rw [RecordType.take, hfieldType] at htake
    rw [RecordType.take, hfieldType]
    have hordered := Shape.ordered_byKey htake
    exact ⟨Shape.byKey_eq_arranged hdocument htake, hordered, Shape.take_byKey hschema htake,
      hordered.isValid_judge hschema, fun text hread => by rw [Schema.validate, hread],
      Shape.byName_eq_renamed hschema htake, Shape.distinct_toJson hkeys hschema htake,
      Shape.distinct_toJson hnames hschema htake⟩
  · intro text record htake
    rw [RecordType.takeText] at htake
    split at htake
    next document hread => exact ⟨document, hread, Json.distinct_of_read hread, htake⟩
    next => cases htake

/-- Keys that make the same name, in an object and in the objects of a list, members in another order
than declared, and whole numbers beside doubles. -/
theorem take_written_back_clashing :
    let schema : Schema :=
      [("a-b".toList, .primitive .number),
        ("a b".toList, .array (.object
          [("1".toList, .primitive .number), ("field_1".toList, .primitive .boolean)])),
        ("field_a_b".toList, .primitive .string)]
    let one : Binary64 := Binary64.ofInt 1
    let document : Json := .object
      [("field_a_b".toList, Json.ofString "x"),
        ("a b".toList, .array [.object [("field_1".toList, .bool true), ("1".toList, .int 1)]]),
        ("a-b".toList, .float one)]
    let byKey : Json := .object
      [("a-b".toList, .float one),
        ("a b".toList, .array [.object [("1".toList, .float one), ("field_1".toList, .bool true)]]),
        ("field_a_b".toList, Json.ofString "x")]
    let byName : Json := .object
      [("field_a_b".toList, .float one),
        ("field_a_b_".toList,
          .array [.object [("field_1".toList, .float one), ("field_1_".toList, .bool true)]]),
        ("field_a_b__".toList, Json.ofString "x")]
    schema.Distinct ∧ document.Distinct ∧
      ∃ type record, schema.buildRecord "Schema".toList = .ok type ∧
        type.take document = .ok record ∧ record.byKey = byKey ∧ type.take byKey = .ok record ∧
        (schema.judge byKey).isValid = true ∧ record.byName = byName ∧ byName.Distinct := by
  intro schema one document byKey byName
  have hschema : schema.Distinct := by
    simp [schema, Schema.Distinct, Shape.Distinct, Schema.AllDistinct]
  have hdocument : document.Distinct := by decide
  obtain ⟨type, htype⟩ := Schema.exists_buildRecord_iff.2
    (⟨by decide, by decide⟩ : '\x00' ∉ "Schema".toList ∧
      ∀ object ∈ schema.objects, Record.settingsName ∉ object.keys)
  have htaken : ∃ record, type.take document = .ok record := by
    obtain rfl := (Schema.buildRecord_eq_ok_iff.1 htype).2
    exact ⟨_, rfl⟩
  obtain ⟨record, htake⟩ := htaken
  obtain ⟨hbyKey, -, hagain, hvalid, -, hbyName, -, hdistinct⟩ :=
    (take_written_back hschema htype).1 document record hdocument htake
  have hkey : record.byKey = byKey := hbyKey
  have hname : record.byName = byName := by
    obtain rfl := (Schema.buildRecord_eq_ok_iff.1 htype).2
    rw [hbyName, hkey]
    rfl
  rw [hkey] at hagain hvalid
  rw [hname] at hdistinct
  exact ⟨hschema, hdocument, type, record, htype, htake, hkey, hagain, hvalid, hname, hdistinct⟩

end DocShape
