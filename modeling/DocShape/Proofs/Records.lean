import DocShape.Record.Value
import DocShape.Proofs.Objects
import Mathlib.Data.List.Basic

/-!
# Which record types can be built

The fields of a record have the keys of the schema, in their order (`Schema.keys_fieldsFrom`). A
field has the name kept for settings exactly when its key is that name: made-up names begin
otherwise, and a name that was taken gets an underscore behind it.

A record type can be built unless a key somewhere in the schema is the name kept for settings, or
the record's own name holds a null character (`Schema.exists_buildRecord_iff`). The names of the
records inside cannot be at fault by themselves, because only letters and digits are put behind the
name outside.

Relation: the records of a schema by itself, without a document. Keys need not be distinct.
-/

set_option autoImplicit false

namespace DocShape

namespace Record

/-! ## Names -/

/-- A name that is not taken is kept. -/
theorem freshName_of_not_mem {taken : List Text} {name : Text} (h : name ∉ taken) (fuel : Nat) :
    freshName taken fuel name = name := by
  cases fuel with
  | zero => rfl
  | succ fuel => rw [freshName, if_neg (by simpa using h)]

/-- A fresh name is the name itself or ends with an underscore. -/
theorem freshName_cases (taken : List Text) (fuel : Nat) (name : Text) :
    freshName taken fuel name = name ∨
      ∃ stem, freshName taken fuel name = stem ++ ['_'] := by
  induction fuel generalizing name with
  | zero => exact .inl rfl
  | succ fuel ih =>
    rw [freshName]
    split
    · rcases ih (name ++ ['_']) with h | h
      · exact .inr ⟨name, h⟩
      · exact .inr h
    · exact .inl rfl

/-- Only the name kept for settings gives a field that name. -/
theorem fieldName_eq_settingsName_iff {key : Text} :
    fieldName key = settingsName ↔ key = settingsName := by
  constructor
  · intro h
    rw [fieldName] at h
    split at h
    · exact h
    · -- a made-up name begins with another letter
      have hhead := congrArg List.head? h
      have hmade : (madeUp ++ Text.joinWith ['_'] ((words key).map Text.lower)).head? = some 'f' :=
        rfl
      rw [hmade] at hhead
      exact absurd hhead (by decide)
  · rintro rfl
    exact if_pos (by decide +kernel)

theorem freshName_eq_settingsName_iff {taken : List Text} (htaken : settingsName ∉ taken)
    (fuel : Nat) (key : Text) :
    freshName taken fuel (fieldName key) = settingsName ↔ key = settingsName := by
  constructor
  · intro h
    rw [← fieldName_eq_settingsName_iff]
    rcases freshName_cases taken fuel (fieldName key) with hname | ⟨stem, hstem⟩
    · exact hname.symm.trans h
    · -- the name kept for settings does not end with an underscore
      have hlast := congrArg List.getLast? (hstem.symm.trans h)
      rw [List.getLast?_concat] at hlast
      exact absurd hlast (by decide)
  · intro h
    rw [fieldName_eq_settingsName_iff.2 h]
    exact freshName_of_not_mem htaken fuel

/-- A field has the name kept for settings exactly when a key is that name. -/
theorem settingsName_mem_names_iff (name : Text) {taken : List Text}
    (htaken : settingsName ∉ taken) (schema : Schema) :
    settingsName ∈ (schema.fieldsFrom name taken).map (fun field => field.1.name) ↔
      settingsName ∈ schema.keys := by
  induction schema generalizing taken with
  | nil => rfl
  | cons property schema ih =>
    have hname := freshName_eq_settingsName_iff htaken taken.length property.1
    rw [Schema.fieldsFrom, List.map_cons, List.mem_cons, Schema.keys, List.map_cons, List.mem_cons,
      eq_comm, hname, eq_comm]
    by_cases hkey : settingsName = property.1
    · simp only [hkey, true_or]
    · -- no field is named so up to here
      have htaken' : settingsName ∉ freshName taken taken.length (fieldName property.1) :: taken :=
        List.not_mem_cons_of_ne_of_not_mem (fun h => hkey (hname.1 h.symm).symm) htaken
      rw [ih htaken', Schema.keys]

/-! ## The names of records inside -/

/-- The words of a text have nothing but letters and digits in them. -/
theorem isWordChar_of_mem_wordsFrom {run : Text} (hrun : ∀ c ∈ run, isWordChar c = true)
    {text word : Text} (hword : word ∈ wordsFrom run text) : ∀ c ∈ word, isWordChar c = true := by
  induction text generalizing run with
  | nil =>
    rw [wordsFrom] at hword
    split at hword
    · cases hword
    · rw [List.mem_singleton.1 hword]
      exact hrun
  | cons first text ih =>
    have hnil : ∀ c ∈ ([] : Text), isWordChar c = true := fun c hc => by cases hc
    rw [wordsFrom] at hword
    split at hword
    next hfirst =>
      refine ih (fun c hc => ?_) hword
      rcases List.mem_append.1 hc with hc | hc
      · exact hrun c hc
      · rw [List.mem_singleton.1 hc]
        exact hfirst
    next =>
      split at hword
      · exact ih hnil hword
      · rcases List.mem_cons.1 hword with rfl | hword
        · exact hrun
        · exact ih hnil hword

theorem toUpper_ne_null {c : Char} (h : isWordChar c = true) : c.toUpper ≠ '\x00' := by
  intro hupper
  delta Char.toUpper at hupper
  split at hupper
  next hlower =>
    -- a small letter is moved to the capital letters
    have hval := congrArg Char.val hupper
    dsimp only at hval
    have hcode := congrArg UInt32.toNat hval
    rw [UInt32.toNat_add] at hcode
    have hshift : ('A'.val - 'a'.val).toNat = 4294967264 := by decide
    have hnull : '\x00'.val.toNat = 0 := by decide
    have hfirst : 'a'.val.toNat = 97 := by decide
    have hlast : 'z'.val.toNat = 122 := by decide
    have hge := UInt32.le_iff_toNat_le.1 hlower.1
    have hle := UInt32.le_iff_toNat_le.1 hlower.2
    omega
  next =>
    rw [hupper] at h
    exact absurd h (by decide)

theorem null_not_mem_typeName (key : Text) : '\x00' ∉ typeName key := by
  intro hnull
  obtain ⟨word, hword, hmem⟩ := List.mem_flatMap.1 hnull
  have hchars := isWordChar_of_mem_wordsFrom (fun c hc => by cases hc) hword
  cases word with
  | nil => cases hmem
  | cons first word =>
    rcases List.mem_cons.1 hmem with h | h
    · exact toUpper_ne_null (hchars first List.mem_cons_self) h.symm
    · exact absurd (hchars _ (List.mem_cons_of_mem _ h)) (by decide)

/-- A record by itself is without fault exactly when no field has the name kept for settings and
its own name has no null character. -/
theorem fault?_eq_none_iff {name : Text} {labels : List Label} :
    fault? name labels = none ↔
      settingsName ∉ labels.map Label.name ∧ '\x00' ∉ name := by
  rw [fault?]
  by_cases hsettings : settingsName ∈ labels.map Label.name
  · obtain ⟨label, hlabel, hname⟩ := List.mem_map.1 hsettings
    have hany : (labels.any fun label => label.name == settingsName) = true :=
      List.any_eq_true.2 ⟨label, hlabel, beq_iff_eq.2 hname⟩
    simp [hany, hsettings]
  · have hany : ¬ (labels.any fun label => label.name == settingsName) = true := by
      rw [List.any_eq_true]
      rintro ⟨label, hlabel, hname⟩
      exact hsettings (List.mem_map.2 ⟨label, hlabel, beq_iff_eq.1 hname⟩)
    rw [if_neg hany]
    simp [hsettings]

end Record

/-! ## Fields -/

/-- The fields have the keys of the schema. -/
theorem Schema.keys_fieldsFrom (name : Text) (taken : List Text) (schema : Schema) :
    (schema.fieldsFrom name taken).map (fun field => field.1.key) = schema.keys := by
  induction schema generalizing taken with
  | nil => rfl
  | cons property schema ih =>
    rw [fieldsFrom, List.map_cons, ih]
    rfl

theorem fieldsFault?_fieldsFrom_eq_none_iff {name : Text} {taken : List Text} {schema : Schema} :
    fieldsFault? (schema.fieldsFrom name taken) = none ↔
      ∀ property ∈ schema,
        (property.2.fieldType (name ++ Record.typeName property.1)).fault? = none := by
  induction schema generalizing taken with
  | nil => simp [Schema.fieldsFrom, fieldsFault?]
  | cons property schema ih =>
    rw [Schema.fieldsFrom, fieldsFault?, Option.or_eq_none_iff, ih, List.forall_mem_cons]

/-- The records for a shape are without fault exactly when no key in the shape is the name kept for
settings and, if there are records at all, their name has no null character. -/
theorem Shape.fault?_fieldType_eq_none_iff {name : Text} {shape : Shape} :
    (shape.fieldType name).fault? = none ↔
      ∀ object ∈ shape.objects, Record.settingsName ∉ object.keys ∧ '\x00' ∉ name := by
  induction shape using Shape.rec' generalizing name with
  | primitive kind => simp [fieldType, FieldType.fault?, objects]
  | array items ih =>
    rw [fieldType, FieldType.fault?, objects]
    exact ih
  | object properties ih =>
    have hnames : (Schema.fieldsFrom name [] properties).map (fun field => field.1.name) =
        ((Schema.fieldsFrom name [] properties).map fun field => field.1).map
          Record.Label.name := List.map_map.symm
    rw [fieldType, FieldType.fault?, Option.or_eq_none_iff, fieldsFault?_fieldsFrom_eq_none_iff,
      Record.fault?_eq_none_iff, ← hnames,
      Record.settingsName_mem_names_iff name (List.not_mem_nil) properties, objects,
      List.forall_mem_cons, and_comm]
    apply and_congr_right
    rintro ⟨-, hname⟩
    have hinner : ∀ key : Text, '\x00' ∉ name ++ Record.typeName key := fun key =>
      fun h => (List.mem_append.1 h).elim hname (Record.null_not_mem_typeName key)
    simp only [Schema.mem_innerObjects_iff]
    constructor
    · rintro h object ⟨property, hproperty, hobject⟩
      exact ⟨((ih property hproperty).1 (h property hproperty) object hobject).1, hname⟩
    · intro h property hproperty
      refine (ih property hproperty).2 fun object hobject => ⟨?_, hinner property.1⟩
      exact (h object ⟨property, hproperty, hobject⟩).1

/-! ## Building -/

theorem Schema.buildRecord_eq_ok_iff {schema : Schema} {name : Text} {type : RecordType} :
    schema.buildRecord name = .ok type ↔
      ((Shape.object schema).fieldType name).fault? = none ∧ schema.recordType name = type := by
  rw [buildRecord]
  split
  next fault hfault => simp [hfault]
  next hfault => simp [hfault]

/-- A record type can be built unless its name holds a null character or a key somewhere in the
schema is the name kept for settings. -/
theorem Schema.exists_buildRecord_iff {schema : Schema} {name : Text} :
    (∃ type, schema.buildRecord name = .ok type) ↔
      '\x00' ∉ name ∧ ∀ object ∈ schema.objects, Record.settingsName ∉ object.keys := by
  simp only [buildRecord_eq_ok_iff, exists_and_left, exists_eq', and_true,
    Shape.fault?_fieldType_eq_none_iff]
  constructor
  · intro h
    exact ⟨(h schema schema.mem_objects_self).2, fun object hobject => (h object hobject).1⟩
  · rintro ⟨hname, h⟩ object hobject
    exact ⟨h object hobject, hname⟩

end DocShape
