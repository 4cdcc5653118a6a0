import DocShape.Proofs.Pattern

/-!
# The expression of a schema decides conformance

A value conforms to a shape if its objects have exactly the declared keys in the declared order, its
strings are written without escapes, its numbers are whole or finite, and every item of an array
conforms (`Shape.Conforms`). The expression of a schema matches the text of a value exactly when the
value conforms to the schema, and so it is with every other text that has the value's tokens and any
blanks between them (`matchInstances_iff_conforms`).

Relation: the expression matches a text exactly when the text is made of tokens that the shape reads
(`Shape.matches_regex_iff`), and a text has its tokens in one way (`LaidOut.unique`). What is left
is said without blanks: the tokens of a value are read by a shape exactly when the value conforms to
it (`Shape.reads_tokens_iff`). There the items and members of a container have to be told apart,
which the brackets and commas do because no value goes on where another one ends
(`Shape.endsAlike`).

Keys may be any texts and need not be distinct. Whole numbers may be of any size, as the writer has
no limit on their digits.
-/

set_option autoImplicit false

namespace DocShape

/-- A value conforms to a shape, with the keys of every object in the order of their declaration. A
string conforms if it is written without escapes, and a double if it is finite. -/
inductive Shape.Conforms : Shape → Json → Prop
  | string {text : Text} :
      (∀ c ∈ text, c ≠ '"' ∧ c ≠ '\\' ∧ 0x20 ≤ c.toNat) →
        Conforms (.primitive .string) (.string text)
  | int (i : Int) : Conforms (.primitive .number) (.int i)
  | float {x : Binary64} : x.isFinite = true → Conforms (.primitive .number) (.float x)
  | bool (b : Bool) : Conforms (.primitive .boolean) (.bool b)
  | array {items : Shape} {values : List Json} :
      (∀ value ∈ values, Conforms items value) → Conforms (.array items) (.array values)
  | object {properties : Schema} {entries : List (Text × Json)} :
      entries.map Prod.fst = properties.keys →
        (∀ place ∈ properties.zip entries, Conforms place.1.2 place.2.2) →
          Conforms (.object properties) (.object entries)

/-! ## The tokens of a value are read in one way -/

/-- A value has one token of its own, or it is a container. -/
theorem Json.atomic_or (value : Json) :
    (∃ token, value.tokens = [token] ∧ Atomic token) ∨
      (∃ values, value = .array values) ∨ ∃ entries, value = .object entries := by
  cases value with
  | null =>
    have hnull : Bare "null".toList := bare_of_any (by decide) (by decide)
    exact .inl ⟨_, rfl, hnull.atomic⟩
  | bool b => exact .inl ⟨_, rfl, (bare_write_bool b).atomic⟩
  | int i => exact .inl ⟨_, rfl, (bare_of_matches_numberValue (matches_ofInt i)).atomic⟩
  | float x => exact .inl ⟨_, rfl, (bare_write x).atomic⟩
  | string text => exact .inl ⟨_, rfl, (Json.stringBody_flatMap text).atomic⟩
  | array values => exact .inr (.inl ⟨values, rfl⟩)
  | object entries => exact .inr (.inr ⟨entries, rfl⟩)

/-- No value begins with a closing bracket. -/
theorem Json.head_tokens_ne (value : Json) :
    ∃ token more, value.tokens = token :: more ∧ token ≠ [']'] := by
  rcases value.atomic_or with ⟨token, htokens, hatomic⟩ | ⟨values, rfl⟩ | ⟨entries, rfl⟩
  · exact ⟨token, [], htokens, hatomic.2 ']' (by decide)⟩
  · exact ⟨['['], _, rfl, by decide⟩
  · exact ⟨['{'], _, rfl, by decide⟩

theorem Shape.Reads.head_ne {shape : Shape} {tokens : List Text} (h : shape.Reads tokens) :
    ∃ token more, tokens = token :: more ∧ token ≠ [']'] := by
  cases shape with
  | primitive kind =>
    obtain ⟨token, htoken, rfl⟩ := h
    exact ⟨token, [], rfl, (atomic_of_matches htoken).2 ']' (by decide)⟩
  | array items =>
    obtain ⟨parts, _, rfl⟩ := h
    exact ⟨['['], _, rfl, by decide⟩
  | object properties =>
    obtain ⟨parts, _, rfl⟩ := h
    exact ⟨['{'], _, rfl, by decide⟩

/-- Tokens of a shape are told apart from what follows a value as the value's own tokens are. -/
def Shape.EndsAlike (shape : Shape) : Prop :=
  ∀ (tokens rest rest' : List Text) (value : Json), shape.Reads tokens →
    tokens ++ rest = value.tokens ++ rest' → tokens = value.tokens

/-- The items of an array are read as the items of the shape. -/
theorem parts_eq_map_tokens {items : Shape} (hitems : items.EndsAlike) {parts : List (List Text)}
    {values : List Json} {rest rest' : List Text} (hparts : ∀ part ∈ parts, items.Reads part)
    (h : enclosed '[' ']' parts ++ rest = (Json.array values).tokens ++ rest') :
    parts = values.map Json.tokens := by
  rw [Json.tokens, Json.itemTokens_eq_map, enclosed, enclosed, List.cons_append, List.cons_append,
    List.append_assoc, List.append_assoc] at h
  have hvalues : ∀ part ∈ values.map Json.tokens, ∃ value : Json, part = value.tokens := by
    intro part hpart
    obtain ⟨value, _, rfl⟩ := List.mem_map.1 hpart
    exact ⟨value, rfl⟩
  have hends : ∀ (part part' s t : List Text), items.Reads part →
      (∃ value : Json, part' = value.tokens) → part ++ s = part' ++ t → part = part' := by
    rintro part _ s t hpart ⟨value, rfl⟩ heq
    exact hitems part s t value hpart heq
  have hhead : ∀ part : List Text, (∃ value : Json, part = value.tokens) →
      ∃ token more, part = token :: more ∧ token ≠ [']'] := by
    rintro _ ⟨value, rfl⟩
    exact value.head_tokens_ne
  exact (commaJoined_append_inj (by decide) hparts hvalues hends (fun part hpart => hpart.head_ne)
    hhead (List.cons.inj h).2).1

/-- The members of an object are read as the properties of the shape, key by key. -/
theorem parts_eq_map_entryTokens {properties : Schema}
    (hproperties : ∀ property ∈ properties, property.2.EndsAlike) {parts : List (List Text)}
    {entries : List (Text × Json)} {rest rest' : List Text}
    (hparts : List.Forall₂ ReadsProperty properties parts)
    (h : enclosed '{' '}' parts ++ rest = (Json.object entries).tokens ++ rest') :
    parts = entries.map Json.entryTokens := by
  rw [Json.tokens, Json.memberTokens_eq_map, enclosed, enclosed, List.cons_append, List.cons_append,
    List.append_assoc, List.append_assoc] at h
  have hkey (key : Text) : Json.writeString false key ≠ ['}'] :=
    (Json.stringBody_flatMap key).atomic.2 '}' (by decide)
  have hentries : ∀ part ∈ entries.map Json.entryTokens,
      ∃ entry, part = Json.entryTokens entry := by
    intro part hpart
    obtain ⟨entry, _, rfl⟩ := List.mem_map.1 hpart
    exact ⟨entry, rfl⟩
  have hends : ∀ (part part' s t : List Text),
      (∃ property ∈ properties, ReadsProperty property part) →
      (∃ entry, part' = Json.entryTokens entry) → part ++ s = part' ++ t → part = part' := by
    rintro _ _ s t ⟨property, hproperty, value, hvalue, rfl⟩ ⟨entry, rfl⟩ heq
    -- the keys are the same, and behind the colon stand the tokens of two values
    obtain ⟨hkeys, hrest⟩ := List.cons.inj heq
    have hvalues := (List.cons.inj hrest).2
    rw [propertyTokens, Json.entryTokens, hkeys,
      hproperties property hproperty value s t entry.2 hvalue hvalues]
  have hheadProperty : ∀ part, (∃ property ∈ properties, ReadsProperty property part) →
      ∃ token more, part = token :: more ∧ token ≠ ['}'] := by
    rintro _ ⟨property, _, value, _, rfl⟩
    exact ⟨_, _, rfl, hkey property.1⟩
  have hheadEntry : ∀ part, (∃ entry, part = Json.entryTokens entry) →
      ∃ token more, part = token :: more ∧ token ≠ ['}'] := by
    rintro _ ⟨entry, rfl⟩
    exact ⟨_, _, rfl, hkey entry.1⟩
  exact (commaJoined_append_inj (by decide) (fun part => exists_of_mem_right hparts) hentries
    hends hheadProperty hheadEntry (List.cons.inj h).2).1

/-- Where tokens of a shape and the tokens of a value begin the same list, they are the same. -/
theorem Shape.endsAlike (shape : Shape) : shape.EndsAlike := by
  induction shape using Shape.rec' with
  | primitive kind =>
    rintro _ rest rest' value ⟨token, htoken, rfl⟩ h
    -- the first token is the only one on the side of the shape, and it opens no container
    have hatomic := atomic_of_matches htoken
    rcases value.atomic_or with ⟨other, htokens, _⟩ | ⟨values, rfl⟩ | ⟨entries, rfl⟩
    · rw [htokens] at h ⊢
      rw [(List.cons.inj h).1]
    · exact absurd (List.cons.inj h).1 (hatomic.2 '[' (by decide))
    · exact absurd (List.cons.inj h).1 (hatomic.2 '{' (by decide))
  | array items ih =>
    rintro _ rest rest' value ⟨parts, hparts, rfl⟩ h
    rcases value.atomic_or with ⟨other, htokens, hatomic⟩ | ⟨values, rfl⟩ | ⟨entries, rfl⟩
    · rw [htokens] at h
      exact absurd (List.cons.inj h).1.symm (hatomic.2 '[' (by decide))
    · rw [parts_eq_map_tokens ih hparts h, Json.tokens, Json.itemTokens_eq_map]
    · exact absurd (List.cons.inj h).1 (by decide)
  | object properties ih =>
    rintro _ rest rest' value ⟨parts, hparts, rfl⟩ h
    rcases value.atomic_or with ⟨other, htokens, hatomic⟩ | ⟨values, rfl⟩ | ⟨entries, rfl⟩
    · rw [htokens] at h
      exact absurd (List.cons.inj h).1.symm (hatomic.2 '{' (by decide))
    · exact absurd (List.cons.inj h).1 (by decide)
    · rw [parts_eq_map_entryTokens ih (Schema.readsMembers_iff.1 hparts) h, Json.tokens,
        Json.memberTokens_eq_map]

/-! ## Which values are read -/

/-- A text without quotation marks, backslashes and control characters is written as it is. -/
theorem flatMap_stringChar_eq_self {text : Text}
    (h : ∀ c ∈ text, c ≠ '"' ∧ c ≠ '\\' ∧ 0x20 ≤ c.toNat) :
    text.flatMap (Json.stringChar false) = text := by
  induction text with
  | nil => rfl
  | cons c text ih =>
    rw [List.forall_mem_cons] at h
    obtain ⟨⟨hquote, hbackslash, hlow⟩, htext⟩ := h
    have hc : Json.stringChar false c = [c] := by
      rcases Json.stringChar_cases c with ⟨heq, _⟩ | ⟨_, _, _, hspecial⟩ | ⟨_, hcontrol⟩
      · exact heq
      · rcases hspecial with rfl | rfl | hcontrol
        · exact absurd rfl hquote
        · exact absurd rfl hbackslash
        · exact absurd hcontrol (Nat.not_lt.2 hlow)
      · exact absurd hcontrol (Nat.not_lt.2 hlow)
    rw [List.flatMap_cons, hc, ih htext, List.singleton_append]

theorem reads_string_iff {value : Json} :
    (Shape.primitive .string).Reads value.tokens ↔ (Shape.primitive .string).Conforms value := by
  constructor
  · rintro ⟨token, htoken, htokens⟩
    obtain ⟨body, hplain, rfl⟩ := matches_stringValue_iff.1 htoken
    -- a bare word does not begin with a quotation mark
    have hbare {word : Text} (hword : Bare word) (heq : [word] = ['"' :: (body ++ ['"'])]) :
        False := by
      rw [(List.cons.inj heq).1] at hword
      exact not_bare_quote _ hword
    cases value with
    | null => exact (hbare (bare_of_any (by decide) (by decide)) htokens).elim
    | bool b => exact (hbare (bare_write_bool b) htokens).elim
    | int i => exact (hbare (bare_of_matches_numberValue (matches_ofInt i)) htokens).elim
    | float x => exact (hbare (bare_write x) htokens).elim
    | string text =>
      have hbody : text.flatMap (Json.stringChar false) = body :=
        List.append_cancel_right (List.cons.inj (List.cons.inj htokens).1).2
      refine .string fun c hc => ?_
      have hmem {d : Char} (hd : d ∈ Json.stringChar false c) : d ≠ '\\' := by
        have hd' : d ∈ body := hbody ▸ List.mem_flatMap.2 ⟨c, hc, hd⟩
        exact (hplain d hd').2
      rcases Json.stringChar_cases c with ⟨_, hquote, hbackslash, hlow⟩ | ⟨e, heq, _⟩ | ⟨heq, _⟩
      · exact ⟨hquote, hbackslash, hlow⟩
      · exact absurd rfl (hmem (heq ▸ List.mem_cons_self))
      · exact absurd rfl (hmem (heq ▸ List.mem_cons_self))
    | array values => exact absurd htokens (enclosed_ne_singleton _ _ _ _)
    | object entries => exact absurd htokens (enclosed_ne_singleton _ _ _ _)
  · intro h
    cases h with
    | @string text hplain =>
      refine ⟨Json.writeString false text, matches_stringValue_iff.2 ⟨text, ?_, ?_⟩, rfl⟩
      · exact fun c hc => ⟨(hplain c hc).1, (hplain c hc).2.1⟩
      · rw [Json.writeString, flatMap_stringChar_eq_self hplain]
        rfl

theorem reads_number_iff {value : Json} :
    (Shape.primitive .number).Reads value.tokens ↔ (Shape.primitive .number).Conforms value := by
  constructor
  · rintro ⟨token, htoken, htokens⟩
    have hbare := bare_of_matches_numberValue htoken
    have hword {word : Text} (hword : Regex.numberValue.isMatch word = false)
        (heq : [word] = [token]) : False := by
      have hmatch := Regex.isMatch_iff_matches.2 htoken
      rw [← (List.cons.inj heq).1] at hmatch
      exact Bool.false_ne_true (hword.symm.trans hmatch)
    cases value with
    | null => exact (hword (by decide) htokens).elim
    | bool b =>
      cases b with
      | true => exact (hword (by decide) htokens).elim
      | false => exact (hword (by decide) htokens).elim
    | int i => exact .int i
    | float x =>
      rcases x with ⟨negative, mantissa, exponent⟩ | negative | _
      · exact .float rfl
      · cases negative with
        | true => exact (hword (by decide) htokens).elim
        | false => exact (hword (by decide) htokens).elim
      · exact (hword (by decide) htokens).elim
    | string text =>
      rw [← (List.cons.inj htokens).1] at hbare
      exact absurd hbare (not_bare_quote _)
    | array values => exact absurd htokens (enclosed_ne_singleton _ _ _ token)
    | object entries => exact absurd htokens (enclosed_ne_singleton _ _ _ token)
  · intro h
    cases h with
    | int i => exact ⟨_, matches_ofInt i, rfl⟩
    | float hfinite => exact ⟨_, matches_write hfinite, rfl⟩

theorem reads_boolean_iff {value : Json} :
    (Shape.primitive .boolean).Reads value.tokens ↔ (Shape.primitive .boolean).Conforms value := by
  constructor
  · rintro ⟨token, htoken, htokens⟩
    have hbool := matches_booleanValue_iff.1 htoken
    have hnumber {word : Text} (hword : Regex.numberValue.Matches word)
        (heq : [word] = [token]) : False := by
      have hmatch := Regex.isMatch_iff_matches.2 hword
      rw [(List.cons.inj heq).1] at hmatch
      rcases hbool with rfl | rfl
      · exact absurd hmatch (by decide)
      · exact absurd hmatch (by decide)
    have hother {word : Text} (hword : word ≠ "true".toList ∧ word ≠ "false".toList)
        (heq : [word] = [token]) : False := by
      rw [← (List.cons.inj heq).1] at hbool
      exact hbool.elim hword.1 hword.2
    cases value with
    | null => exact (hother (by decide) htokens).elim
    | bool b => exact .bool b
    | int i => exact (hnumber (matches_ofInt i) htokens).elim
    | float x =>
      rcases x with ⟨negative, mantissa, exponent⟩ | negative | _
      · exact (hnumber (matches_write rfl) htokens).elim
      · cases negative with
        | true => exact (hother (by decide) htokens).elim
        | false => exact (hother (by decide) htokens).elim
      · exact (hother (by decide) htokens).elim
    | string text =>
      have hbare : Bare token := by
        rcases hbool with rfl | rfl
        · exact bare_write_bool true
        · exact bare_write_bool false
      rw [← (List.cons.inj htokens).1] at hbare
      exact absurd hbare (not_bare_quote _)
    | array values => exact absurd htokens (enclosed_ne_singleton _ _ _ token)
    | object entries => exact absurd htokens (enclosed_ne_singleton _ _ _ token)
  · intro h
    cases h with
    | bool b =>
      refine ⟨_, matches_booleanValue_iff.2 ?_, rfl⟩
      cases b with
      | true => exact .inl rfl
      | false => exact .inr rfl

/-- Entries with the keys of other entries in their order, and related place by place. -/
theorem forall₂_keyed_iff {α β : Type} {related : Text × α → Text × β → Prop}
    {properties : List (Text × α)} {entries : List (Text × β)} :
    List.Forall₂ (fun property entry => entry.1 = property.1 ∧ related property entry)
        properties entries ↔
      entries.map Prod.fst = properties.map Prod.fst ∧
        ∀ place ∈ properties.zip entries, related place.1 place.2 := by
  induction properties generalizing entries with
  | nil => cases entries <;> simp
  | cons property properties ih =>
    rcases entries with _ | ⟨entry, entries⟩
    · simp
    · rw [List.forall₂_cons, ih, List.zip_cons_cons, List.forall_mem_cons, List.map_cons,
        List.map_cons, List.cons.injEq]
      constructor
      · rintro ⟨⟨hkey, hvalue⟩, hkeys, hvalues⟩
        exact ⟨⟨hkey, hkeys⟩, hvalue, hvalues⟩
      · rintro ⟨⟨hkey, hkeys⟩, hvalue, hvalues⟩
        exact ⟨⟨hkey, hvalue⟩, hkeys, hvalues⟩

theorem readsProperty_entryTokens_iff (property : Text × Shape) (entry : Text × Json) :
    ReadsProperty property (Json.entryTokens entry) ↔
      entry.1 = property.1 ∧ property.2.Reads entry.2.tokens := by
  constructor
  · rintro ⟨value, hvalue, heq⟩
    obtain ⟨hkey, hrest⟩ := List.cons.inj heq
    exact ⟨Json.writeString_injective hkey, (List.cons.inj hrest).2 ▸ hvalue⟩
  · rintro ⟨hkey, hvalue⟩
    exact ⟨entry.2.tokens, hvalue, by rw [Json.entryTokens, propertyTokens, hkey]⟩

/-- Members with the declared keys in their order, and values of the shapes, place by place. -/
theorem forall₂_reads_iff {properties : Schema} {entries : List (Text × Json)} :
    List.Forall₂ ReadsProperty properties (entries.map Json.entryTokens) ↔
      entries.map Prod.fst = properties.keys ∧
        ∀ place ∈ properties.zip entries, place.1.2.Reads place.2.2.tokens := by
  rw [List.forall₂_map_right_iff]
  simp only [readsProperty_entryTokens_iff]
  exact forall₂_keyed_iff

/-- The tokens of a value are those of a shape exactly when the value conforms to it. -/
theorem Shape.reads_tokens_iff {shape : Shape} {value : Json} :
    shape.Reads value.tokens ↔ shape.Conforms value := by
  induction shape using Shape.rec' generalizing value with
  | primitive kind =>
    cases kind with
    | string => exact reads_string_iff
    | number => exact reads_number_iff
    | boolean => exact reads_boolean_iff
  | array items ih =>
    constructor
    · rintro ⟨parts, hparts, htokens⟩
      rcases value.atomic_or with ⟨token, htoken, hatomic⟩ | ⟨values, rfl⟩ | ⟨entries, rfl⟩
      · rw [htoken] at htokens
        exact absurd (List.cons.inj htokens).1 (hatomic.2 '[' (by decide))
      · -- nothing follows on either side
        have heq := congrArg (· ++ []) htokens
        rw [parts_eq_map_tokens items.endsAlike hparts heq.symm] at hparts
        exact .array fun value hvalue => ih.1 (hparts _ (List.mem_map_of_mem hvalue))
      · exact absurd (List.cons.inj htokens).1 (by decide)
    · intro h
      cases h with
      | @array _ values hvalues =>
        refine ⟨values.map Json.tokens, fun part hpart => ?_, ?_⟩
        · obtain ⟨value, hvalue, rfl⟩ := List.mem_map.1 hpart
          exact ih.2 (hvalues value hvalue)
        · rw [Json.tokens, Json.itemTokens_eq_map]
  | object properties ih =>
    constructor
    · rintro ⟨parts, hparts, htokens⟩
      have hmembers := Schema.readsMembers_iff.1 hparts
      rcases value.atomic_or with ⟨token, htoken, hatomic⟩ | ⟨values, rfl⟩ | ⟨entries, rfl⟩
      · rw [htoken] at htokens
        exact absurd (List.cons.inj htokens).1 (hatomic.2 '{' (by decide))
      · exact absurd (List.cons.inj htokens).1 (by decide)
      · have heq := congrArg (· ++ []) htokens
        rw [parts_eq_map_entryTokens (fun property _ => property.2.endsAlike) hmembers heq.symm,
          forall₂_reads_iff] at hmembers
        refine .object hmembers.1 fun place hplace => ?_
        exact (ih place.1 (List.of_mem_zip hplace).1).1 (hmembers.2 place hplace)
    · intro h
      cases h with
      | @object _ entries hkeys hvalues =>
        refine ⟨entries.map Json.entryTokens, Schema.readsMembers_iff.2 ?_, ?_⟩
        · refine forall₂_reads_iff.2 ⟨hkeys, fun place hplace => ?_⟩
          exact (ih place.1 (List.of_mem_zip hplace).1).2 (hvalues place hplace)
        · rw [Json.tokens, Json.memberTokens_eq_map]

/-! ## Matching instances -/

/-- The expression of a shape matches a text of a value, with any blanks between its tokens, exactly
when the value conforms. -/
theorem Shape.isMatch_regex_iff_conforms {shape : Shape} {value : Json} {text : Text}
    (h : LaidOut value.tokens text) : shape.regex.isMatch text = true ↔ shape.Conforms value := by
  rw [Regex.isMatch_iff_matches, matches_regex_iff, ← reads_tokens_iff]
  constructor
  · rintro ⟨tokens, hreads, hlaid⟩
    rwa [h.unique hlaid value.lexical_tokens hreads.lexical]
  · intro hreads
    exact ⟨value.tokens, hreads, h⟩

theorem mem_matched_iff {schema : Schema} {instances : List Json} {text : Text} :
    text ∈ (schema.matchInstances instances).matched ↔
      text ∈ instances.map instanceText ∧ schema.regex.isMatch text = true :=
  List.mem_filter

/-- An instance is matched exactly when it conforms to the schema: a value that is no text by the
text it is written as, and any value by a text of its tokens with any blanks between them. The
pattern that goes with the matches is the text of the expression that decides them. -/
theorem matchInstances_iff_conforms (schema : Schema) (value : Json) :
    (∀ instances, (schema.matchInstances instances).pattern = schema.regex.text) ∧
      ((∀ text, value ≠ .string text) →
        (value.write Json.compact ∈ (schema.matchInstances [value]).matched ↔
          (Shape.object schema).Conforms value)) ∧
      ∀ text, LaidOut value.tokens text →
        (text ∈ (schema.matchInstances [.string text]).matched ↔
          (Shape.object schema).Conforms value) := by
  refine ⟨fun instances => schema.pattern_eq_text true, ?_, ?_⟩
  · intro hstring
    have hinstance : instanceText value = value.write Json.compact := by
      cases value with
      | string text => exact absurd rfl (hstring text)
      | _ => rfl
    rw [mem_matched_iff, List.map_singleton, List.mem_singleton, hinstance,
      ← Shape.isMatch_regex_iff_conforms (laidOut_write value)]
    exact and_iff_right rfl
  · intro text hlaid
    rw [mem_matched_iff, List.map_singleton, List.mem_singleton, instanceText,
      ← Shape.isMatch_regex_iff_conforms hlaid]
    exact and_iff_right rfl

/-- A key with a quotation mark in it, and blanks where none are written. -/
theorem matchInstances_iff_conforms_blanks :
    let schema : Schema :=
      [("a\"".toList, .array (.primitive .number)), ("b".toList, .primitive .string)]
    let value : Json :=
      .object [("a\"".toList, .array [.int 1, .int (-2)]), ("b".toList, .string ['x'])]
    let text : Text := "\x7b \"a\\\"\" :[1,\t-2] , \"b\":\"x\"\x7d".toList
    (∀ text, value ≠ .string text) ∧ LaidOut value.tokens text ∧
      (Shape.object schema).Conforms value ∧
      value.write Json.compact ∈ (schema.matchInstances [value]).matched ∧
      text ∈ (schema.matchInstances [.string text]).matched := by
  intro schema value text
  have hstring : ∀ text, value ≠ .string text := fun text heq => nomatch heq
  have hlaid : LaidOut value.tokens text := by
    have hnone := allBlank_nil
    have hspace := allBlank_space
    have htab : AllBlank ['\t'] := List.forall_mem_singleton.2 rfl
    have hclose := (LaidOut.last ['\x7d']).cons "\"x\"".toList [] hnone
    have hsecond := (hclose.cons [':'] [] hnone).cons "\"b\"".toList [] hnone
    have harray := ((hsecond.cons [','] [' '] hspace).cons [']'] [' '] hspace).cons
      "-2".toList [] hnone
    have hitems := ((harray.cons [','] ['\t'] htab).cons "1".toList [] hnone).cons ['['] [] hnone
    have hfirst := (hitems.cons [':'] [] hnone).cons "\"a\\\"\"".toList [' '] hspace
    exact hfirst.cons ['\x7b'] [' '] hspace
  have hconforms : (Shape.object schema).Conforms value := by
    apply Shape.Conforms.object (by decide)
    rintro place hplace
    rcases List.mem_cons.1 hplace with rfl | hplace
    · apply Shape.Conforms.array
      rintro item hitem
      rcases List.mem_cons.1 hitem with rfl | hitem
      · exact .int 1
      · rw [List.mem_singleton.1 hitem]
        exact .int (-2)
    · rw [List.mem_singleton.1 hplace]
      exact .string (List.forall_mem_singleton.2 (by decide))
  obtain ⟨_, hwritten, hgiven⟩ := matchInstances_iff_conforms schema value
  exact ⟨hstring, hlaid, hconforms, (hwritten hstring).2 hconforms,
    (hgiven text hlaid).2 hconforms⟩

end DocShape
