import DocShape.Proofs.ValueTokens

/-!
# The tokens an expression matches

The expression of a shape matches the texts that are made of certain tokens with any blanks between
them (`Shape.matches_regex_iff`). Which tokens these are is said along the shape and without blanks
(`Shape.Reads`): one token for a primitive kind, the tokens of the items between commas and brackets
for an array, and for an object the tokens of its members, each with the declared key, in the order
of declaration. The tokens can be told apart (`Shape.Reads.lexical`).
-/

set_option autoImplicit false

namespace DocShape

/-- The tokens of a member: its key, a colon, and those of its value. -/
def propertyTokens (key : Text) (value : List Text) : List Text :=
  Json.writeString false key :: [':'] :: value

mutual

/-- The tokens that the expression of a shape matches when blanks may stand between them. -/
def Shape.Reads : Shape → List Text → Prop
  | .primitive kind, tokens =>
      ∃ token, (Shape.primitive kind).regex.Matches token ∧ tokens = [token]
  | .array items, tokens =>
      ∃ parts, (∀ part ∈ parts, items.Reads part) ∧ tokens = enclosed '[' ']' parts
  | .object properties, tokens =>
      ∃ parts, Schema.ReadsMembers properties parts ∧ tokens = enclosed '{' '}' parts

/-- The tokens that the expressions of properties match, one list for each property. -/
def Schema.ReadsMembers : Schema → List (List Text) → Prop
  | [], parts => parts = []
  | (key, shape) :: properties, parts =>
      ∃ value others, shape.Reads value ∧ Schema.ReadsMembers properties others ∧
        parts = propertyTokens key value :: others

end

/-- The tokens of a property. -/
def ReadsProperty (property : Text × Shape) (part : List Text) : Prop :=
  ∃ value, property.2.Reads value ∧ part = propertyTokens property.1 value

theorem Schema.readsMembers_iff {properties : Schema} {parts : List (List Text)} :
    properties.ReadsMembers parts ↔ List.Forall₂ ReadsProperty properties parts := by
  induction properties generalizing parts with
  | nil => rw [ReadsMembers, List.forall₂_nil_left_iff]
  | cons property properties ih =>
    rw [ReadsMembers, List.forall₂_cons_left_iff]
    constructor
    · rintro ⟨value, others, hvalue, hothers, rfl⟩
      exact ⟨_, others, ⟨value, hvalue, rfl⟩, ih.1 hothers, rfl⟩
    · rintro ⟨part, others, ⟨value, hvalue, rfl⟩, hothers, rfl⟩
      exact ⟨value, others, hvalue, ih.2 hothers, rfl⟩

/-! ## Expressions with blanks in them -/

theorem matches_blanks_iff {s : Text} : Regex.blanks.Matches s ↔ AllBlank s :=
  Regex.matches_star_oneOf_iff

theorem matches_spaced_iff {c : Char} {s : Text} :
    (Regex.spaced c).Matches s ↔
      ∃ gap gap' : Text, AllBlank gap ∧ AllBlank gap' ∧ s = gap ++ c :: gap' := by
  rw [Regex.spaced, Regex.matches_sequence_cons_iff]
  simp only [Regex.matches_sequence_cons_iff, Regex.matches_sequence_nil_iff,
    Regex.matches_literal_iff, matches_blanks_iff]
  constructor
  · rintro ⟨gap, _, hgap, ⟨_, _, rfl, ⟨gap', _, hgap', rfl, rfl⟩, rfl⟩, rfl⟩
    exact ⟨gap, gap', hgap, hgap', by simp⟩
  · rintro ⟨gap, gap', hgap, hgap', rfl⟩
    exact ⟨gap, c :: gap', hgap, ⟨[c], gap', rfl, ⟨gap', [], hgap', rfl, by simp⟩, rfl⟩, rfl⟩

/-- Two expressions with a mark and any blanks between them. -/
theorem matches_around_iff {first second : Regex} {c : Char} {s : Text} :
    (Regex.sequence [first, Regex.spaced c, second]).Matches s ↔
      ∃ u gap gap' v : Text, first.Matches u ∧ AllBlank gap ∧ AllBlank gap' ∧
        second.Matches v ∧ s = u ++ (gap ++ ([c] ++ (gap' ++ v))) := by
  simp only [Regex.matches_sequence_cons_iff, Regex.matches_sequence_nil_iff, matches_spaced_iff]
  constructor
  · rintro ⟨u, _, hu, ⟨_, _, ⟨gap, gap', hgap, hgap', rfl⟩, ⟨v, _, hv, rfl, rfl⟩, rfl⟩, rfl⟩
    exact ⟨u, gap, gap', v, hu, hgap, hgap', hv, by simp⟩
  · rintro ⟨u, gap, gap', v, hu, hgap, hgap', hv, rfl⟩
    exact ⟨u, _, hu, ⟨_, _, ⟨gap, gap', hgap, hgap', rfl⟩, ⟨v, [], hv, rfl, rfl⟩, rfl⟩, by simp⟩

/-- An expression in brackets, with any blanks inside them. -/
theorem matches_bracketed_iff {opening closing : Char} {inner : Regex} {s : Text} :
    (Regex.sequence [.escaped opening, Regex.blanks, inner, Regex.blanks,
      .escaped closing]).Matches s ↔
      ∃ gap t gap' : Text, AllBlank gap ∧ inner.Matches t ∧ AllBlank gap' ∧
        s = [opening] ++ (gap ++ (t ++ (gap' ++ [closing]))) := by
  simp only [Regex.matches_sequence_cons_iff, Regex.matches_sequence_nil_iff,
    Regex.matches_escaped_iff, matches_blanks_iff]
  constructor
  · rintro ⟨_, _, rfl, ⟨gap, _, hgap, ⟨t, _, ht, ⟨gap', _, hgap', ⟨_, _, rfl, rfl, rfl⟩, rfl⟩, rfl⟩,
      rfl⟩, rfl⟩
    exact ⟨gap, t, gap', hgap, ht, hgap', by simp⟩
  · rintro ⟨gap, t, gap', hgap, ht, hgap', rfl⟩
    exact ⟨_, _, rfl, ⟨gap, _, hgap, ⟨t, _, ht, ⟨gap', _, hgap', ⟨_, _, rfl, rfl, rfl⟩, rfl⟩, rfl⟩,
      rfl⟩, by simp⟩

/-- The expression of a key matches its text and nothing else. -/
theorem matches_exactly_iff {text s : Text} : (Regex.exactly text).Matches s ↔ s = text := by
  rw [Regex.exactly]
  induction text generalizing s with
  | nil => exact Regex.matches_sequence_nil_iff
  | cons c text ih =>
    have hchar {u : Text} :
        Regex.Matches (if Regex.special.contains c then .escaped c else .literal c) u ↔
          u = [c] := by
      split
      · exact Regex.matches_escaped_iff
      · exact Regex.matches_literal_iff
    rw [List.map_cons, Regex.matches_sequence_cons_iff]
    simp only [ih, hchar]
    constructor
    · rintro ⟨u, v, rfl, rfl, rfl⟩
      rfl
    · rintro rfl
      exact ⟨[c], text, rfl, rfl, rfl⟩

/-! ## Tokens with blanks between them -/

/-- Tokens with a mark between them. -/
theorem laidOut_append_mark_iff {front back : List Text} {c : Char} {s : Text} (hfront : front ≠ [])
    (hback : back ≠ []) :
    LaidOut (front ++ [c] :: back) s ↔
      ∃ u gap gap' v : Text, LaidOut front u ∧ AllBlank gap ∧ AllBlank gap' ∧ LaidOut back v ∧
        s = u ++ (gap ++ ([c] ++ (gap' ++ v))) := by
  constructor
  · intro h
    obtain ⟨u, gap, t, hu, hgap, ht, rfl⟩ := h.split hfront (List.cons_ne_nil [c] back)
    cases ht with
    | last => exact absurd rfl hback
    | cons _ gap' hgap' hv => exact ⟨u, gap, gap', _, hu, hgap, hgap', hv, rfl⟩
  · rintro ⟨u, gap, gap', v, hu, hgap, hgap', hv, rfl⟩
    exact hu.append hgap (hv.cons [c] gap' hgap')

theorem laidOut_enclosed_nil_iff {opening closing : Char} {s : Text} :
    LaidOut (enclosed opening closing []) s ↔
      ∃ gap : Text, AllBlank gap ∧ s = [opening] ++ (gap ++ [closing]) := by
  constructor
  · intro h
    cases h with
    | cons _ gap hgap ht =>
      cases ht with
      | last => exact ⟨gap, hgap, rfl⟩
      | cons _ _ _ hnone => cases hnone
  · rintro ⟨gap, hgap, rfl⟩
    exact (LaidOut.last [closing]).cons [opening] gap hgap

theorem laidOut_enclosed_iff {opening closing : Char} {parts : List (List Text)} {s : Text}
    (hparts : commaJoined parts ≠ []) :
    LaidOut (enclosed opening closing parts) s ↔
      ∃ gap t gap' : Text, AllBlank gap ∧ LaidOut (commaJoined parts) t ∧ AllBlank gap' ∧
        s = [opening] ++ (gap ++ (t ++ (gap' ++ [closing]))) := by
  constructor
  · intro h
    generalize htokens : enclosed opening closing parts = tokens at h
    cases h with
    | last => exact absurd htokens (enclosed_ne_singleton opening closing parts s)
    | cons _ gap hgap ht =>
      obtain ⟨rfl, rfl⟩ := List.cons.inj htokens
      obtain ⟨t, gap', u, hitems, hgap', hu, rfl⟩ :=
        ht.split hparts (List.cons_ne_nil [closing] [])
      cases hu with
      | last => exact ⟨gap, t, gap', hgap, hitems, hgap', rfl⟩
      | cons _ _ _ hnone => cases hnone
  · rintro ⟨gap, t, gap', hgap, ht, hgap', rfl⟩
    exact (ht.append hgap' (.last [closing])).cons [opening] gap hgap

theorem commaJoined_ne_nil {part : List Text} (hpart : part ≠ []) (parts : List (List Text)) :
    commaJoined (part :: parts) ≠ [] := by
  rcases parts with _ | ⟨next, parts⟩
  · exact hpart
  · exact List.append_ne_nil_of_right_ne_nil part (List.cons_ne_nil _ _)

/-! ## What the expression of a shape matches -/

/-- One value and any number of others behind commas. -/
theorem matches_items_iff {item : Regex} {p : List Text → Prop} {s : Text}
    (hp : ∀ tokens, p tokens → tokens ≠ [])
    (hitem : ∀ s, item.Matches s ↔ ∃ tokens, p tokens ∧ LaidOut tokens s) :
    Regex.Matches (.seq item (.star (.group (.seq (Regex.spaced ',') item)))) s ↔
      ∃ part parts, (∀ tokens ∈ part :: parts, p tokens) ∧
        LaidOut (commaJoined (part :: parts)) s := by
  constructor
  · intro h
    obtain ⟨u, v, hu, hv, rfl⟩ := Regex.matches_seq_iff.1 h
    obtain ⟨part, hpart, hlaid⟩ := (hitem u).1 hu
    clear h hu
    generalize hr : Regex.star (.group (.seq (Regex.spaced ',') item)) = r at hv
    -- each repetition takes one more item from the text
    induction hv generalizing part u with
    | starDone =>
      rw [List.append_nil]
      exact ⟨part, [], List.forall_mem_singleton.2 hpart, hlaid⟩
    | @starMore inner x y hx hy _ ih =>
      cases hr
      obtain ⟨comma, w, hcomma, hw, rfl⟩ := Regex.matches_seq_iff.1 (Regex.matches_group_iff.1 hx)
      obtain ⟨gap, gap', hgap, hgap', rfl⟩ := matches_spaced_iff.1 hcomma
      obtain ⟨next, hnext, hlaidNext⟩ := (hitem w).1 hw
      obtain ⟨next, parts, hparts, hrest⟩ := ih w next hnext hlaidNext rfl
      refine ⟨part, next :: parts, List.forall_mem_cons.2 ⟨hpart, hparts⟩, ?_⟩
      have hboth := hlaid.append hgap (hrest.cons [','] gap' hgap')
      rw [commaJoined]
      simpa using hboth
    | _ => cases hr
  · rintro ⟨part, parts, hparts, hlaid⟩
    -- the text is cut behind the first item and the comma, and the rest is matched by induction
    induction parts generalizing part s with
    | nil =>
      have hmatch := (hitem s).2 ⟨part, hparts part List.mem_cons_self, hlaid⟩
      exact Regex.matches_seq_iff.2 ⟨s, [], hmatch, .starDone, (List.append_nil s).symm⟩
    | cons next parts ih =>
      rw [List.forall_mem_cons] at hparts
      have hnext := hp next (hparts.2 next List.mem_cons_self)
      obtain ⟨u, gap, gap', v, hu, hgap, hgap', hv, rfl⟩ :=
        (laidOut_append_mark_iff (hp part hparts.1) (commaJoined_ne_nil hnext parts)).1 hlaid
      obtain ⟨w, x, hw, hx, rfl⟩ := Regex.matches_seq_iff.1 (ih next hparts.2 hv)
      have hmatch := (hitem u).2 ⟨part, hparts.1, hu⟩
      have hcomma : (Regex.spaced ',').Matches (gap ++ ',' :: gap') :=
        matches_spaced_iff.2 ⟨gap, gap', hgap, hgap', rfl⟩
      have hstar := (Regex.Matches.group (hcomma.seq hw)).starMore hx
      have hseq := hmatch.seq hstar
      simpa using hseq

theorem matches_arrayOf_iff {item : Regex} {p : List Text → Prop} {s : Text}
    (hp : ∀ tokens, p tokens → tokens ≠ [])
    (hitem : ∀ s, item.Matches s ↔ ∃ tokens, p tokens ∧ LaidOut tokens s) :
    (Regex.arrayOf item).Matches s ↔
      ∃ parts, (∀ part ∈ parts, p part) ∧ LaidOut (enclosed '[' ']' parts) s := by
  rw [Regex.arrayOf, matches_bracketed_iff]
  constructor
  · rintro ⟨gap, t, gap', hgap, ht, hgap', rfl⟩
    rcases Regex.matches_optional_iff.1 ht with rfl | ht
    · -- an empty array has the blanks of both ends in its one gap
      refine ⟨[], List.forall_mem_nil _, laidOut_enclosed_nil_iff.2 ⟨gap ++ gap', ?_, by simp⟩⟩
      exact hgap.append hgap'
    · obtain ⟨part, parts, hparts, hlaid⟩ :=
        (matches_items_iff hp hitem).1 (Regex.matches_group_iff.1 ht)
      have hne := commaJoined_ne_nil (hp part (hparts part List.mem_cons_self)) parts
      exact ⟨part :: parts, hparts,
        (laidOut_enclosed_iff hne).2 ⟨gap, t, gap', hgap, hlaid, hgap', rfl⟩⟩
  · rintro ⟨_ | ⟨part, parts⟩, hparts, hlaid⟩
    · obtain ⟨gap, hgap, rfl⟩ := laidOut_enclosed_nil_iff.1 hlaid
      exact ⟨gap, [], [], hgap, .optionalNone, allBlank_nil, by simp⟩
    · have hne := commaJoined_ne_nil (hp part (hparts part List.mem_cons_self)) parts
      obtain ⟨gap, t, gap', hgap, ht, hgap', rfl⟩ := (laidOut_enclosed_iff hne).1 hlaid
      have hitems := (matches_items_iff hp hitem).2 ⟨part, parts, hparts, ht⟩
      exact ⟨gap, t, gap', hgap, .optionalSome (.group hitems), hgap', rfl⟩

/-- No shape is read from no tokens. -/
theorem Shape.Reads.ne_nil {shape : Shape} {tokens : List Text} (h : shape.Reads tokens) :
    tokens ≠ [] := by
  cases shape with
  | primitive kind =>
    obtain ⟨token, _, rfl⟩ := h
    exact List.cons_ne_nil token []
  | array items =>
    obtain ⟨parts, _, rfl⟩ := h
    exact List.cons_ne_nil _ _
  | object properties =>
    obtain ⟨parts, _, rfl⟩ := h
    exact List.cons_ne_nil _ _

theorem ReadsProperty.ne_nil {property : Text × Shape} {part : List Text}
    (h : ReadsProperty property part) : part ≠ [] := by
  obtain ⟨value, _, rfl⟩ := h
  exact List.cons_ne_nil _ _

/-- The expression of a property. -/
def propertyRegex (property : Text × Shape) : Regex :=
  Regex.sequence
    [Regex.exactly (Json.writeString false property.1), Regex.spaced ':', property.2.regex]

theorem Schema.regexEntries_eq_map (properties : Schema) :
    properties.regexEntries = properties.map propertyRegex := by
  induction properties with
  | nil => rfl
  | cons property properties ih => rw [regexEntries, ih, List.map_cons, propertyRegex]

theorem matches_propertyRegex_iff {property : Text × Shape} {s : Text}
    (hvalue : ∀ s,
      property.2.regex.Matches s ↔ ∃ tokens, property.2.Reads tokens ∧ LaidOut tokens s) :
    (propertyRegex property).Matches s ↔ ∃ part, ReadsProperty property part ∧ LaidOut part s := by
  have hkey : [Json.writeString false property.1] ≠ [] := List.cons_ne_nil _ _
  rw [propertyRegex, matches_around_iff]
  constructor
  · rintro ⟨u, gap, gap', v, hu, hgap, hgap', hv, rfl⟩
    obtain rfl := matches_exactly_iff.1 hu
    obtain ⟨value, hreads, hlaid⟩ := (hvalue v).1 hv
    refine ⟨propertyTokens property.1 value, ⟨value, hreads, rfl⟩, ?_⟩
    exact (laidOut_append_mark_iff hkey hreads.ne_nil).2
      ⟨_, gap, gap', v, .last _, hgap, hgap', hlaid, rfl⟩
  · rintro ⟨part, ⟨value, hreads, rfl⟩, hlaid⟩
    obtain ⟨u, gap, gap', v, hu, hgap, hgap', hv, rfl⟩ :=
      (laidOut_append_mark_iff hkey hreads.ne_nil).1 hlaid
    have hmatch := (hvalue v).2 ⟨value, hreads, hv⟩
    refine ⟨u, gap, gap', v, matches_exactly_iff.2 ?_, hgap, hgap', hmatch, rfl⟩
    cases hu with
    | last => rfl
    | cons _ _ _ hnone => cases hnone

/-- Some members with commas between them. -/
theorem matches_commaSeparated_iff {properties : Schema} {s : Text} (hne : properties ≠ [])
    (hvalues : ∀ property ∈ properties, ∀ s,
      property.2.regex.Matches s ↔ ∃ tokens, property.2.Reads tokens ∧ LaidOut tokens s) :
    (Regex.commaSeparated (properties.map propertyRegex)).Matches s ↔
      ∃ parts, List.Forall₂ ReadsProperty properties parts ∧ LaidOut (commaJoined parts) s := by
  induction properties generalizing s with
  | nil => exact absurd rfl hne
  | cons property properties ih =>
    rw [List.forall_mem_cons] at hvalues
    rcases properties with _ | ⟨next, properties⟩
    · rw [List.map_singleton, Regex.commaSeparated, matches_propertyRegex_iff hvalues.1]
      constructor
      · rintro ⟨part, hpart, hlaid⟩
        exact ⟨[part], .cons hpart .nil, hlaid⟩
      · rintro ⟨parts, hparts, hlaid⟩
        obtain ⟨part, _, hpart, hnone, rfl⟩ := List.forall₂_cons_left_iff.1 hparts
        obtain rfl := List.forall₂_nil_left_iff.1 hnone
        exact ⟨part, hpart, hlaid⟩
    · rw [List.map_cons, List.map_cons, Regex.commaSeparated, matches_around_iff, ← List.map_cons]
      constructor
      · rintro ⟨u, gap, gap', v, hu, hgap, hgap', hv, rfl⟩
        obtain ⟨part, hpart, hlaid⟩ := (matches_propertyRegex_iff hvalues.1).1 hu
        obtain ⟨parts, hparts, hlaid'⟩ := (ih (List.cons_ne_nil next properties) hvalues.2).1 hv
        refine ⟨part :: parts, .cons hpart hparts, ?_⟩
        obtain ⟨nextPart, others, hnext, hothers, rfl⟩ := List.forall₂_cons_left_iff.1 hparts
        exact hlaid.append hgap (hlaid'.cons [','] gap' hgap')
      · rintro ⟨parts, hparts, hlaid⟩
        obtain ⟨part, _, hpart, hmore, rfl⟩ := List.forall₂_cons_left_iff.1 hparts
        obtain ⟨nextPart, others, hnext, hothers, rfl⟩ := List.forall₂_cons_left_iff.1 hmore
        obtain ⟨u, gap, gap', v, hu, hgap, hgap', hv, rfl⟩ :=
          (laidOut_append_mark_iff hpart.ne_nil (commaJoined_ne_nil hnext.ne_nil others)).1 hlaid
        refine ⟨u, gap, gap', v, (matches_propertyRegex_iff hvalues.1).2 ⟨part, hpart, hu⟩, hgap,
          hgap', ?_, rfl⟩
        exact (ih (List.cons_ne_nil next properties) hvalues.2).2 ⟨_, hmore, hv⟩

theorem matches_objectOf_iff {properties : Schema} {s : Text}
    (hvalues : ∀ property ∈ properties, ∀ s,
      property.2.regex.Matches s ↔ ∃ tokens, property.2.Reads tokens ∧ LaidOut tokens s) :
    (Regex.objectOf (properties.map propertyRegex)).Matches s ↔
      ∃ parts, List.Forall₂ ReadsProperty properties parts ∧
        LaidOut (enclosed '{' '}' parts) s := by
  rcases properties with _ | ⟨property, properties⟩
  · have hempty : (Regex.objectOf []).Matches s ↔ ∃ gap : Text,
        AllBlank gap ∧ s = ['{'] ++ (gap ++ ['}']) := by
      simp only [Regex.objectOf, Regex.matches_sequence_cons_iff, Regex.matches_sequence_nil_iff,
        Regex.matches_escaped_iff, matches_blanks_iff]
      constructor
      · rintro ⟨_, _, rfl, ⟨gap, _, hgap, ⟨_, _, rfl, rfl, rfl⟩, rfl⟩, rfl⟩
        exact ⟨gap, hgap, rfl⟩
      · rintro ⟨gap, hgap, rfl⟩
        exact ⟨_, _, rfl, ⟨gap, _, hgap, ⟨_, _, rfl, rfl, rfl⟩, rfl⟩, rfl⟩
    rw [List.map_nil, hempty, ← laidOut_enclosed_nil_iff]
    constructor
    · intro hlaid
      exact ⟨[], .nil, hlaid⟩
    · rintro ⟨parts, hparts, hlaid⟩
      obtain rfl := List.forall₂_nil_left_iff.1 hparts
      exact hlaid
  · have hobject : Regex.objectOf ((property :: properties).map propertyRegex) =
        Regex.sequence [.escaped '{', Regex.blanks,
          Regex.commaSeparated ((property :: properties).map propertyRegex), Regex.blanks,
          .escaped '}'] := rfl
    rw [hobject, matches_bracketed_iff]
    simp only [matches_commaSeparated_iff (List.cons_ne_nil property properties) hvalues]
    constructor
    · rintro ⟨gap, t, gap', hgap, ⟨parts, hparts, hlaid⟩, hgap', rfl⟩
      refine ⟨parts, hparts, ?_⟩
      obtain ⟨part, others, hpart, _, rfl⟩ := List.forall₂_cons_left_iff.1 hparts
      exact (laidOut_enclosed_iff (commaJoined_ne_nil hpart.ne_nil others)).2
        ⟨gap, t, gap', hgap, hlaid, hgap', rfl⟩
    · rintro ⟨parts, hparts, hlaid⟩
      obtain ⟨part, others, hpart, _, rfl⟩ := List.forall₂_cons_left_iff.1 hparts
      obtain ⟨gap, t, gap', hgap, ht, hgap', rfl⟩ :=
        (laidOut_enclosed_iff (commaJoined_ne_nil hpart.ne_nil others)).1 hlaid
      exact ⟨gap, t, gap', hgap, ⟨_, hparts, ht⟩, hgap', rfl⟩

/-- The expression of a shape matches the texts that are made of tokens of the shape. -/
theorem Shape.matches_regex_iff {shape : Shape} {s : Text} :
    shape.regex.Matches s ↔ ∃ tokens, shape.Reads tokens ∧ LaidOut tokens s := by
  induction shape using Shape.rec' generalizing s with
  | primitive kind =>
    constructor
    · intro h
      exact ⟨[s], ⟨s, h, rfl⟩, .last s⟩
    · rintro ⟨tokens, ⟨token, htoken, rfl⟩, hlaid⟩
      cases hlaid with
      | last => exact htoken
      | cons _ _ _ hnone => cases hnone
  | array items ih =>
    rw [regex, matches_arrayOf_iff (fun tokens h => h.ne_nil) fun s => ih]
    constructor
    · rintro ⟨parts, hparts, hlaid⟩
      exact ⟨_, ⟨parts, hparts, rfl⟩, hlaid⟩
    · rintro ⟨tokens, ⟨parts, hparts, rfl⟩, hlaid⟩
      exact ⟨parts, hparts, hlaid⟩
  | object properties ih =>
    -- `Reads` is said for the members along the syntax; the expressions go with them place by place
    rw [regex, Schema.regexEntries_eq_map,
      matches_objectOf_iff fun property hproperty s => ih property hproperty]
    simp only [Reads, Schema.readsMembers_iff]
    constructor
    · rintro ⟨parts, hparts, hlaid⟩
      exact ⟨_, ⟨parts, hparts, rfl⟩, hlaid⟩
    · rintro ⟨tokens, ⟨parts, hparts, rfl⟩, hlaid⟩
      exact ⟨parts, hparts, hlaid⟩

/-! ## Tokens of primitive kinds -/

theorem matches_stringValue_iff {s : Text} :
    Regex.stringValue.Matches s ↔
      ∃ body : Text, (∀ c ∈ body, c ≠ '"' ∧ c ≠ '\\') ∧ s = '"' :: (body ++ ['"']) := by
  have hbody {body : Text} : Regex.Matches (.star (.oneOf .unquoted)) body ↔
      ∀ c ∈ body, c ≠ '"' ∧ c ≠ '\\' := by
    rw [Regex.matches_star_oneOf_iff]
    simp only [CharClass.has, Bool.and_eq_true, bne_iff_ne]
  simp only [Regex.stringValue, Regex.matches_sequence_cons_iff, Regex.matches_sequence_nil_iff,
    Regex.matches_literal_iff, hbody]
  constructor
  · rintro ⟨_, _, rfl, ⟨body, _, hplain, ⟨_, _, rfl, rfl, rfl⟩, rfl⟩, rfl⟩
    exact ⟨body, hplain, rfl⟩
  · rintro ⟨body, hplain, rfl⟩
    exact ⟨_, _, rfl, ⟨body, _, hplain, ⟨_, _, rfl, rfl, rfl⟩, rfl⟩, rfl⟩

theorem matches_literals_iff {text s : Text} : (Regex.literals text).Matches s ↔ s = text := by
  rw [Regex.literals]
  induction text generalizing s with
  | nil => exact Regex.matches_sequence_nil_iff
  | cons c text ih =>
    rw [List.map_cons, Regex.matches_sequence_cons_iff]
    simp only [ih, Regex.matches_literal_iff]
    constructor
    · rintro ⟨u, v, rfl, rfl, rfl⟩
      rfl
    · rintro rfl
      exact ⟨[c], text, rfl, rfl, rfl⟩

theorem matches_booleanValue_iff {s : Text} :
    Regex.booleanValue.Matches s ↔ s = "true".toList ∨ s = "false".toList := by
  rw [Regex.booleanValue, Regex.matches_group_iff, Regex.matches_alt_iff, matches_literals_iff,
    matches_literals_iff]

/-- A token that stands for a value of its own: a bare word or a string. -/
def Atomic (token : Text) : Prop := IsToken token ∧ ∀ c ∈ marks, token ≠ [c]

theorem Bare.atomic {token : Text} (h : Bare token) : Atomic token := by
  refine ⟨h.isToken, fun c hc heq => ?_⟩
  subst heq
  exact not_bare_of_delimits (delimits_of_mem_marks hc) h

theorem StringBody.atomic {body : Text} (h : StringBody body) :
    Atomic ('"' :: (body ++ ['"'])) := by
  refine ⟨.string h, fun c _ heq => ?_⟩
  exact List.append_ne_nil_of_right_ne_nil body (List.cons_ne_nil _ _) (List.cons.inj heq).2

theorem atomic_of_matches {kind : Primitive} {token : Text}
    (h : (Shape.primitive kind).regex.Matches token) : Atomic token := by
  cases kind with
  | string =>
    obtain ⟨body, hplain, rfl⟩ := matches_stringValue_iff.1 h
    exact (StringBody.of_plain hplain).atomic
  | number => exact (bare_of_matches_numberValue h).atomic
  | boolean =>
    have hbool := matches_booleanValue_iff.1 h
    rcases hbool with rfl | rfl
    · exact (bare_write_bool true).atomic
    · exact (bare_write_bool false).atomic

theorem lexical_propertyTokens (key : Text) {value : List Text} (h : Lexical value) :
    Lexical (propertyTokens key value) :=
  (lexical_singleton (Json.isToken_writeString key)).append_mark (by decide) h

/-- The tokens of a shape can be told apart. -/
theorem Shape.Reads.lexical {shape : Shape} {tokens : List Text} (h : shape.Reads tokens) :
    Lexical tokens := by
  induction shape using Shape.rec' generalizing tokens with
  | primitive kind =>
    obtain ⟨token, htoken, rfl⟩ := h
    exact lexical_singleton (atomic_of_matches htoken).1
  | array items ih =>
    obtain ⟨parts, hparts, rfl⟩ := h
    exact lexical_enclosed (by decide) (by decide) fun part hpart => ih (hparts part hpart)
  | object properties ih =>
    obtain ⟨parts, hparts, rfl⟩ := h
    apply lexical_enclosed (by decide) (by decide)
    intro part hpart
    obtain ⟨property, hproperty, value, hvalue, rfl⟩ :=
      exists_of_mem_right (Schema.readsMembers_iff.1 hparts) hpart
    exact lexical_propertyTokens property.1 (ih property hproperty hvalue)

end DocShape
