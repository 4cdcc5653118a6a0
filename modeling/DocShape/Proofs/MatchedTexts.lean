import DocShape.Proofs.Decoding

/-!
# Texts that are matched are documents

The expression of a schema, the reader of JSON texts and the verdict on a document each describe the
same language in their own words. A text that the expression matches is made of the tokens of the
shape (`Shape.matches_regex_iff`), and those are read token by token: what is read has the types that
are declared, and its keys stand in the order of declaration (`Shape.value_answers`). Such a value is
admitted by the schema (`Shape.Ordered.admits`). So a matched text is valid as soon as it can be read
(`Schema.isValid_of_isMatch`).

Reading may only stop at a character that the expression lets through and JSON does not: a control
character in a string, or a blank other than a space between tokens. Reading also stops beyond the
limits of a dialect, which a text keeps if it has not too many digits and the shape is not too deep.

Relation: `Regex.isMatch` on the expression of the schema, whose text is the pattern, and `Json.read`
in every dialect. Keys are distinct at every level.
-/

set_option autoImplicit false

namespace DocShape

/-! ## Values in the order of declaration -/

/-- A value has the types that a shape declares, and the keys of every object in the order of their
declaration. -/
inductive Shape.Ordered : Shape → Json → Prop
  | primitive {kind : Primitive} {value : Json} :
      kind.hasValue value = true → Ordered (.primitive kind) value
  | array {items : Shape} {values : List Json} :
      (∀ value ∈ values, Ordered items value) → Ordered (.array items) (.array values)
  | object {properties : Schema} {entries : List (Text × Json)} :
      entries.map Prod.fst = properties.keys →
        (∀ place ∈ properties.zip entries, Ordered place.1.2 place.2.2) →
          Ordered (.object properties) (.object entries)

/-- What stands in order is admitted. -/
theorem Shape.Ordered.admits {shape : Shape} (hdistinct : shape.Distinct) {value : Json}
    (h : shape.Ordered value) : shape.Admits value := by
  induction shape using Shape.rec' generalizing value with
  | primitive kind =>
    obtain ⟨hvalue⟩ := h
    exact .primitive hvalue
  | array items ih =>
    cases h with
    | array hvalues => exact .array fun value hvalue => ih hdistinct (hvalues value hvalue)
  | object properties ih =>
    obtain ⟨hnodup, hinside⟩ := Schema.distinct_iff.1 hdistinct
    cases h with
    | @object _ entries hkeys hvalues =>
      refine .object (fun key => by rw [hkeys]) fun property hproperty value hvalue => ?_
      have hplaces : List.Forall₂ (fun property entry =>
          entry.1 = property.1 ∧ property.2.Ordered entry.2) properties entries :=
        forall₂_keyed_iff.2 ⟨hkeys, hvalues⟩
      obtain ⟨entry, hentry, hkey, hordered⟩ := exists_of_mem_left hplaces hproperty
      -- a distinct key is found with the value at its own place
      have hfound : Json.member? entries entry.1 = some entry.2 :=
        lookup_eq_some_of_mem (hkeys ▸ hnodup) hentry
      rw [hkey, hvalue, Option.some.injEq] at hfound
      exact ih property hproperty (hinside property hproperty) (hfound ▸ hordered)

/-- A document in order is valid. -/
theorem Shape.Ordered.isValid_judge {schema : Schema} (hdistinct : schema.Distinct)
    {document : Json} (h : (Shape.object schema).Ordered document) :
    (schema.judge document).isValid = true := by
  rw [Verdict.isValid, List.isEmpty_iff, schema.reports_judge, List.map_eq_nil_iff,
    Shape.findings_eq_nil_iff]
  exact h.admits hdistinct

/-! ## How deep a shape is -/

mutual

/-- How many containers stand around the innermost value of a shape. -/
def Shape.depth : Shape → Nat
  | .primitive _ => 0
  | .array items => items.depth + 1
  | .object properties => Schema.innerDepth properties + 1

/-- How deep the deepest property is. -/
def Schema.innerDepth : Schema → Nat
  | [] => 0
  | (_, shape) :: properties => max shape.depth (Schema.innerDepth properties)

end

theorem Schema.depth_le_innerDepth {properties : Schema} {property : Text × Shape}
    (h : property ∈ properties) : property.2.depth ≤ properties.innerDepth := by
  induction properties with
  | nil => cases h
  | cons first properties ih =>
    rw [innerDepth]
    rcases List.mem_cons.1 h with rfl | h
    · exact le_max_left _ _
    · exact (ih h).trans (le_max_right _ _)

/-! ## Reading the tokens of a shape -/

theorem Shape.Reads.head?_ne_closing {shape : Shape} {tokens : List Text} (h : shape.Reads tokens) :
    tokens.head? ≠ some [Json.Container.array.closing] := by
  obtain ⟨token, more, rfl, hne⟩ := h.head_ne
  exact fun heq => hne (Option.some.inj heq)

theorem ReadsProperty.head?_ne_closing {property : Text × Shape} {part : List Text}
    (h : ReadsProperty property part) : part.head? ≠ some [Json.Container.object.closing] := by
  obtain ⟨value, -, rfl⟩ := h
  exact fun heq => (Json.stringBody_flatMap property.1).atomic.2 '}' (by decide) (Option.some.inj heq)

theorem ReadsProperty.lexical {property : Text × Shape} {part : List Text}
    (h : ReadsProperty property part) : Lexical part := by
  obtain ⟨value, hvalue, rfl⟩ := h
  exact lexical_propertyTokens property.1 hvalue.lexical

/-- In a dialect, the tokens of a shape are read as a value with its types, the keys in the order of
declaration, unless the text has what no reader takes or the shape is too deep. -/
def Shape.ReadIn (shape : Shape) (dialect : Json.Dialect) : Prop :=
  ∀ (nesting : Nat) {tokens : List Text} {s rest : Text}, shape.Reads tokens → LaidOut tokens s →
    (∀ c ∈ rest.head?, delimits c = true) →
      Json.Answers (Json.value dialect nesting (s ++ rest))
        (Json.Legible dialect s ∧ shape.depth ≤ nesting) shape.Ordered rest

theorem Shape.readIn_primitive (kind : Primitive) (dialect : Json.Dialect) :
    (Shape.primitive kind).ReadIn dialect := by
  rintro nesting _ s rest ⟨token, htoken, rfl⟩ hlaid hrest
  obtain rfl : s = token := by
    cases hlaid with
    | last => rfl
    | cons _ _ _ hnone => cases hnone
  have hread := Json.value_primitive_answers dialect nesting htoken hrest
  exact (hread.mono And.left).imp fun value hvalue => .primitive hvalue

theorem Shape.readIn_array {items : Shape} {dialect : Json.Dialect} (h : items.ReadIn dialect) :
    (Shape.array items).ReadIn dialect := by
  rintro nesting _ s rest ⟨parts, hparts, rfl⟩ hlaid _
  have hlaid : LaidOut (enclosed Json.Container.array.opening Json.Container.array.closing parts)
      s := hlaid
  have htokens (part : List Text) (hpart : part ∈ parts) : part ≠ [] ∧ Lexical part ∧
      part.head? ≠ some [Json.Container.array.closing] :=
    ⟨(hparts part hpart).ne_nil, (hparts part hpart).lexical, (hparts part hpart).head?_ne_closing⟩
  rw [depth]
  refine Json.value_container_answers hlaid htokens (fun hdeep hzero => absurd hdeep (by omega))
    (fun _ => .array (List.forall_mem_nil _)) ?_
  rintro hne inner rfl t gap ht hgap
  -- inside the brackets one level of nesting is spent
  have hitem : ∀ source ∈ parts, ∀ part s rest, items.Reads part → LaidOut part s →
      (∀ c ∈ rest.head?, delimits c = true) →
        Json.Answers (Json.value dialect inner (s ++ rest))
          (Json.Legible dialect s ∧ items.depth + 1 ≤ inner + 1) items.Ordered rest :=
    fun _ _ part s rest hreads hlaid hrest =>
      (h inner hreads hlaid hrest).mono (And.imp_right Nat.le_of_succ_le_succ)
  have hitems := Json.elements_answers .expectedValue ']' (by decide) (by decide)
    (fun _ part (hpart : items.Reads part) => ⟨hpart.ne_nil, hpart.lexical⟩)
    (Json.value_haltedByBlanks dialect inner) (List.forall₂_same.2 hparts) hitem hne ht hgap rest
    (Nat.lt_succ_self _)
  rw [Json.filled, Json.items_eq_elements]
  refine hitems.map fun values hvalues => .array fun value hvalue => ?_
  obtain ⟨_, _, hordered⟩ := exists_of_mem_right hvalues hvalue
  exact hordered

/-- Entries are kept as they are read, because no key is met again. -/
theorem Shape.ordered_lastOfEach {properties : Schema} (hnodup : properties.keys.Nodup)
    {entries : List (Text × Json)}
    (h : List.Forall₂ (fun property entry => entry.1 = property.1 ∧ property.2.Ordered entry.2)
      properties entries) : (Shape.object properties).Ordered (.object (lastOfEach entries)) := by
  obtain ⟨hkeys, hvalues⟩ := forall₂_keyed_iff.1 h
  rw [lastOfEach_of_nodup (hkeys ▸ hnodup)]
  exact .object hkeys hvalues

theorem Shape.readIn_object {properties : Schema} {dialect : Json.Dialect}
    (hnodup : properties.keys.Nodup) (h : ∀ property ∈ properties, property.2.ReadIn dialect) :
    (Shape.object properties).ReadIn dialect := by
  rintro nesting _ s rest ⟨parts, hparts, rfl⟩ hlaid _
  have hmembers := Schema.readsMembers_iff.1 hparts
  have hlaid : LaidOut (enclosed Json.Container.object.opening Json.Container.object.closing parts)
      s := hlaid
  have htokens (part : List Text) (hpart : part ∈ parts) : part ≠ [] ∧ Lexical part ∧
      part.head? ≠ some [Json.Container.object.closing] := by
    obtain ⟨property, _, hreads⟩ := exists_of_mem_right hmembers hpart
    exact ⟨hreads.ne_nil, hreads.lexical, hreads.head?_ne_closing⟩
  have hempty (hnil : parts = []) : (Shape.object properties).Ordered (.object []) := by
    subst hnil
    cases hmembers
    exact .object rfl (List.forall_mem_nil _)
  rw [depth]
  refine Json.value_container_answers hlaid htokens (fun hdeep hzero => absurd hdeep (by omega))
    hempty ?_
  rintro hne inner rfl t gap ht hgap
  have hmember : ∀ property ∈ properties, ∀ part s rest, ReadsProperty property part →
      LaidOut part s → (∀ c ∈ rest.head?, delimits c = true) →
        Json.Answers (Json.quotedMember dialect (Json.value dialect inner) (s ++ rest))
          (Json.Legible dialect s ∧ properties.innerDepth + 1 ≤ inner + 1)
          (fun entry => entry.1 = property.1 ∧ property.2.Ordered entry.2) rest := by
    rintro property hproperty _ s rest ⟨value, hvalue, rfl⟩ hlaid hrest
    have hdepth := Schema.depth_le_innerDepth hproperty
    refine Json.quotedMember_answers (Json.value_haltedByBlanks dialect inner) hvalue.ne_nil
      hvalue.lexical (fun s rest hlaid hrest => ?_) hlaid hrest
    exact (h property hproperty inner hvalue hlaid hrest).mono
      (And.imp_right fun hdeep => hdepth.trans (Nat.le_of_succ_le_succ hdeep))
  have hentries := Json.elements_answers .expectedName '}' (by decide) (by decide)
    (fun _ part (hpart : ReadsProperty _ part) => ⟨hpart.ne_nil, hpart.lexical⟩)
    (Json.quotedMember_haltedByBlanks dialect _) hmembers hmember hne ht hgap rest
    (Nat.lt_succ_self _)
  rw [Json.filled, Json.members_eq_elements]
  exact hentries.map fun entries hplaces => Shape.ordered_lastOfEach hnodup hplaces

theorem Shape.readIn {shape : Shape} (hdistinct : shape.Distinct) (dialect : Json.Dialect) :
    shape.ReadIn dialect := by
  induction shape using Shape.rec' with
  | primitive kind => exact readIn_primitive kind dialect
  | array items ih => exact readIn_array (ih hdistinct)
  | object properties ih =>
    obtain ⟨hnodup, hinside⟩ := Schema.distinct_iff.1 hdistinct
    exact readIn_object hnodup fun property hproperty =>
      ih property hproperty (hinside property hproperty)

/-! ## Whole texts -/

/-- A text of the tokens of an object is read to its end. -/
theorem Schema.read_of_laidOut {schema : Schema} (hdistinct : schema.Distinct)
    {tokens : List Text} (hreads : (Shape.object schema).Reads tokens) {text : Text}
    (hlaid : LaidOut tokens text) (dialect : Json.Dialect) :
    (∀ document, Json.read dialect text = .ok document →
        (Shape.object schema).Ordered document) ∧
      (Json.Legible dialect text → (Shape.object schema).depth ≤ dialect.nesting →
        ∃ document, Json.read dialect text = .ok document) := by
  have hnone : ∀ c ∈ ([] : Text).head?, delimits c = true := fun c hc => nomatch hc
  have hanswers := Shape.readIn hdistinct dialect dialect.nesting hreads hlaid hnone
  obtain ⟨parts, _, rfl⟩ := hreads
  obtain ⟨token, more, rest, htokens, rfl⟩ := hlaid.head
  obtain ⟨rfl, -⟩ := List.cons.inj htokens
  -- the text begins with a brace, neither with a blank nor with a byte order mark
  have hskip : Json.skipGap ('{' :: rest) = '{' :: rest :=
    Json.skipGap_eq_self (Json.isBlank_head_mark (by decide) rest)
  rw [List.append_nil, List.singleton_append] at hanswers
  rw [List.singleton_append, Json.read, Json.whole, hskip]
  · generalize Json.value dialect dialect.nesting ('{' :: rest) = answer at hanswers ⊢
    rcases answer with halt | ⟨document, rest'⟩
    · constructor
      · rintro _ ⟨⟩
      · exact fun hlegible hdepth => absurd ⟨hlegible, hdepth⟩ hanswers
    · obtain ⟨hordered, rfl⟩ := hanswers
      constructor
      · rintro _ ⟨⟩
        exact hordered
      · exact fun _ _ => ⟨document, rfl⟩
  · intro _ heq
    exact absurd (List.cons.inj heq).1 (by decide)

/-- A text that the expression of a schema matches is valid if it can be read, and the keys of every
object in it stand in the order of declaration. It can be read in every dialect whose limits it
keeps, unless it has a control character or a blank that is no space. -/
theorem Schema.isValid_of_isMatch (schema : Schema) (hdistinct : schema.Distinct) {text : Text}
    (hmatch : schema.regex.isMatch text = true) :
    (∀ shorten, schema.pattern shorten = schema.regex.text) ∧
      (∀ dialect document, Json.read dialect text = .ok document →
        (schema.judge document).isValid = true ∧ (Shape.object schema).Ordered document) ∧
      (∀ document, Json.read Json.documentDialect text = .ok document →
        ∃ verdict, schema.validate text = .ok verdict ∧ verdict.isValid = true) ∧
      (Json.Plain text → ∀ dialect : Json.Dialect, (Shape.object schema).depth ≤ dialect.nesting →
        dialect.Affords text → ∃ document, Json.read dialect text = .ok document) := by
  obtain ⟨tokens, hreads, hlaid⟩ :=
    Shape.matches_regex_iff.1 (Regex.isMatch_iff_matches.1 hmatch)
  have hread (dialect : Json.Dialect) := schema.read_of_laidOut hdistinct hreads hlaid dialect
  refine ⟨schema.pattern_eq_text, fun dialect document hdocument => ?_,
    fun document hdocument => ?_, fun hplain dialect hdepth hdigits => ?_⟩
  · have hordered := (hread dialect).1 document hdocument
    exact ⟨hordered.isValid_judge hdistinct, hordered⟩
  · have hordered := (hread Json.documentDialect).1 document hdocument
    exact ⟨schema.judge document, by rw [validate, hdocument],
      hordered.isValid_judge hdistinct⟩
  · exact (hread dialect).2 ⟨hplain, hdigits⟩ hdepth

/-- An escaped key, an exponent with a sign, and spaces where none are written. -/
theorem Schema.isValid_of_isMatch_spaced :
    let schema : Schema :=
      [("a\"".toList, .array (.object [("x".toList, .primitive .number)])),
        ("b".toList, .primitive .string), ("c".toList, .primitive .boolean)]
    let text := "\x7b \"a\\\"\" : [\x7b\"x\":-0.5E+3\x7d ,\x7b\"x\" :12\x7d],\"b\":\"y z\", \"c\":true \x7d".toList
    schema.Distinct ∧ schema.regex.isMatch text = true ∧ Json.Plain text ∧
      (Shape.object schema).depth ≤ Json.documentDialect.nesting ∧
      Json.documentDialect.Affords text ∧
      ∃ document verdict, Json.read Json.documentDialect text = .ok document ∧
        schema.validate text = .ok verdict ∧ verdict.isValid = true ∧
        (Shape.object schema).Ordered document := by
  intro schema text
  have hdistinct : schema.Distinct := by
    simp only [schema, Schema.Distinct, Shape.Distinct, Schema.AllDistinct]
    decide
  have hmatch : schema.regex.isMatch text = true := by decide +kernel
  have hcheck : text.all (fun c =>
      decide (0x20 ≤ c.toNat) && (!Text.isBlank c || decide (c = ' '))) = true := by
    decide +kernel
  have hplain : Json.Plain text := by
    intro c hc
    have hchar := List.all_eq_true.1 hcheck c hc
    simp only [Bool.and_eq_true, Bool.or_eq_true, Bool.not_eq_true', decide_eq_true_eq] at hchar
    exact ⟨hchar.1, fun hblank => hchar.2.resolve_left (by simp [hblank])⟩
  have hdepth : (Shape.object schema).depth ≤ Json.documentDialect.nesting := by decide
  have hlength : text.length ≤ 100 := by decide
  have hdigits : Json.documentDialect.Affords text := by
    intro run hrun _
    have hshort := hrun.length_le.trans hlength
    simp only [Json.documentDialect, Bool.false_eq_true, if_false]
    omega
  obtain ⟨-, hread, hvalidate, hlegible⟩ := schema.isValid_of_isMatch hdistinct hmatch
  obtain ⟨document, hdocument⟩ := hlegible hplain Json.documentDialect hdepth hdigits
  obtain ⟨verdict, hverdict, hvalid⟩ := hvalidate document hdocument
  exact ⟨hdistinct, hmatch, hplain, hdepth, hdigits, document, verdict, hdocument, hverdict, hvalid,
    (hread _ document hdocument).2⟩

end DocShape
