import DocShape.Proofs.PatternReading
import DocShape.Proofs.ShapeTokens

/-!
# Shortening keeps the text of an expression

Blank loops are shortened on the text of an expression. The expression of a schema has no two of
them in a row, and nothing in the spelling of a key looks like one, so its text is kept as it is
(`Schema.pattern_eq_text`): the pattern that is reported is the text of the expression that decides.

The argument goes through the text from the front. A text is kept (`Kept`) if shortening passes over
it, whatever follows; a blank loop is kept when what follows it does not begin with another one.

The text can be read back (`Shape.isPart_regex`), since everything in a key that would mean
something stands behind a backslash. So the pattern of a schema accepts the same texts shortened or
not, and sorts the instances as the expression does (`Schema.pattern_shortened_accepts`).
-/

set_option autoImplicit false

namespace DocShape

open Regex (blankLoop collapse collapse_cons collapse_loop)

/-- Shortening passes over a text, whatever follows. -/
def Kept (s : Text) : Prop := ∀ t, collapse (s ++ t) = s ++ collapse t

theorem Kept.append {s t : Text} (hs : Kept s) (ht : Kept t) : Kept (s ++ t) := by
  intro u
  rw [List.append_assoc, hs, ht, List.append_assoc]

theorem kept_singleton {c : Char} (hc : c ≠ '\\') : Kept [c] := by
  intro t
  rw [List.singleton_append]
  refine collapse_cons ?_
  rintro ⟨rest, hrest⟩
  exact hc (List.cons.inj hrest).1.symm

/-- A backslash is kept unless a blank loop begins with it. -/
theorem collapse_backslash {t : Text} (h : ∀ rest, t ≠ 's' :: '*' :: rest) :
    collapse ('\\' :: t) = '\\' :: collapse t := by
  refine collapse_cons ?_
  rintro ⟨rest, hrest⟩
  exact h rest (List.cons.inj hrest).2.symm

theorem kept_escaped {c : Char} (hs : c ≠ 's') (hbackslash : c ≠ '\\') : Kept ['\\', c] := by
  intro t
  have hloop : ∀ rest, c :: t ≠ 's' :: '*' :: rest := fun rest heq => hs (List.cons.inj heq).1
  have hc := kept_singleton hbackslash t
  rw [List.singleton_append] at hc
  rw [List.cons_append, List.singleton_append, collapse_backslash hloop, hc]
  rfl

/-- A blank loop is kept before a text that does not begin with another one. -/
theorem Kept.blankLoop_append {s : Text} (hs : Kept s)
    (hhead : ∀ t, blankLoop.isPrefixOf (s ++ t) = false) : Kept (blankLoop ++ s) := by
  intro t
  have hloop : ¬ blankLoop <+: s ++ t := by
    rw [← List.isPrefixOf_iff_prefix, hhead t]
    exact Bool.false_ne_true
  rw [List.append_assoc, collapse_loop hloop, hs, List.append_assoc]

/-! ## Keys -/

/-- How a character of a key stands in an expression. -/
def keyChar (c : Char) : Text := if Regex.special.contains c then ['\\', c] else [c]

theorem text_exactly (text : Text) : (Regex.exactly text).text = text.flatMap keyChar := by
  rw [Regex.exactly]
  induction text with
  | nil => rfl
  | cons c text ih =>
    rw [List.map_cons, Regex.text_sequence_cons, ih, List.flatMap_cons, keyChar]
    split <;> rfl

/-- The spelling of a key does not begin with a star, which stands behind a backslash there. -/
theorem flatMap_keyChar_ne_star (text t rest : Text) :
    text.flatMap keyChar ++ '"' :: t ≠ '*' :: rest := by
  intro heq
  rcases text with _ | ⟨c, text⟩
  · exact absurd (List.cons.inj heq).1 (by decide)
  · rw [List.flatMap_cons, keyChar] at heq
    split at heq
    · exact absurd (List.cons.inj heq).1 (by decide)
    · rename_i hspecial
      exact hspecial ((List.cons.inj heq).1 ▸ by decide)

theorem flatMap_keyChar_ne_loop (text t rest : Text) :
    text.flatMap keyChar ++ '"' :: t ≠ 's' :: '*' :: rest := by
  intro heq
  rcases text with _ | ⟨c, text⟩
  · exact absurd (List.cons.inj heq).1 (by decide)
  · rw [List.flatMap_cons, keyChar] at heq
    split at heq
    · exact absurd (List.cons.inj heq).1 (by decide)
    · exact flatMap_keyChar_ne_star text t rest (List.cons.inj heq).2

/-- The spelling of a key up to a quotation mark is kept. -/
theorem kept_flatMap_keyChar (text : Text) : Kept (text.flatMap keyChar ++ ['"']) := by
  induction text with
  | nil => exact kept_singleton (by decide)
  | cons c text ih =>
    rw [List.flatMap_cons, keyChar, List.append_assoc]
    split
    · rename_i hspecial
      by_cases hbackslash : c = '\\'
      · subst hbackslash
        intro t
        -- the second backslash begins no loop, because no bare star follows in the key
        have hfirst : ∀ rest, '\\' :: (text.flatMap keyChar ++ '"' :: t) ≠ 's' :: '*' :: rest :=
          fun rest heq => absurd (List.cons.inj heq).1 (by decide)
        have hsecond := flatMap_keyChar_ne_loop text t
        have hrest := ih t
        rw [List.append_assoc] at hrest
        have hboth := (collapse_backslash hfirst).trans
          (congrArg ('\\' :: ·) (collapse_backslash hsecond))
        rw [List.append_assoc, List.append_assoc]
        refine hboth.trans ?_
        rw [List.singleton_append] at hrest
        rw [hrest]
        simp
      · have hs : c ≠ 's' := by
          rintro rfl
          exact absurd hspecial (by decide)
        exact (kept_escaped hs hbackslash).append ih
    · rename_i hspecial
      have hbackslash : c ≠ '\\' := by
        rintro rfl
        exact hspecial (by decide)
      exact (kept_singleton hbackslash).append ih

theorem kept_exactly_writeString (key : Text) :
    Kept (Regex.exactly (Json.writeString false key)).text := by
  rw [text_exactly]
  have hsplit : (Json.writeString false key).flatMap keyChar =
      ('"' :: key.flatMap (Json.stringChar false)).flatMap keyChar ++ ['"'] :=
    List.flatMap_append
  rw [hsplit]
  exact kept_flatMap_keyChar _

/-! ## Shapes -/

/-- The expression of a shape does not begin with a blank loop. -/
theorem Shape.isPrefixOf_text_regex (shape : Shape) (t : Text) :
    blankLoop.isPrefixOf (shape.regex.text ++ t) = false := by
  cases shape with
  | primitive kind => cases kind <;> rfl
  | array items => rfl
  | object properties =>
    rcases properties with _ | ⟨property, properties⟩
    · rfl
    · rfl

/-- A mark between blank loops, before a text that is kept. -/
theorem Kept.spaced_append {c : Char} {s : Text} (hc : c ≠ '\\') (hs : Kept s)
    (hhead : ∀ t, blankLoop.isPrefixOf (s ++ t) = false) :
    Kept ((Regex.spaced c).text ++ s) := by
  have hmark : Kept ([c] ++ (blankLoop ++ s)) :=
    (kept_singleton hc).append (hs.blankLoop_append hhead)
  have hfront : ∀ t, blankLoop.isPrefixOf ([c] ++ (blankLoop ++ s) ++ t) = false := by
    intro t
    simp [blankLoop, List.isPrefixOf]
  exact hmark.blankLoop_append hfront

theorem kept_arrayOf {item : Regex} (hitem : Kept item.text)
    (hhead : ∀ t, blankLoop.isPrefixOf (item.text ++ t) = false) :
    Kept (Regex.arrayOf item).text := by
  have hclosing : Kept (blankLoop ++ ['\\', ']']) :=
    (kept_escaped (by decide) (by decide)).blankLoop_append fun _ => rfl
  have hmarks : Kept [')', '*', ')', '?'] := fun _ => rfl
  have hothers := hitem.spaced_append (c := ',') (by decide) hhead
  have hopen : Kept ['('] := fun _ => rfl
  have hrest := hopen.append (hothers.append (hmarks.append hclosing))
  have hitems := hopen.append (hitem.append hrest)
  have hopening : Kept ['\\', '['] := fun _ => rfl
  have hall := hopening.append (hitems.blankLoop_append fun _ => rfl)
  have htext : (Regex.arrayOf item).text = ['\\', '['] ++ (blankLoop ++ (['('] ++ (item.text ++
      (['('] ++ ((Regex.spaced ',').text ++ item.text ++ ([')', '*', ')', '?'] ++
        (blankLoop ++ ['\\', ']']))))))) := by
    simp [Regex.arrayOf, Regex.sequence, Regex.text, Regex.blanks, CharClass.text, blankLoop]
  rw [htext]
  exact hall

theorem kept_propertyRegex {property : Text × Shape} (hvalue : Kept property.2.regex.text) :
    Kept (propertyRegex property).text :=
  (kept_exactly_writeString property.1).append
    (hvalue.spaced_append (by decide) property.2.isPrefixOf_text_regex)

/-- The expression of a property begins with the quotation mark of its key. -/
theorem isPrefixOf_text_propertyRegex (property : Text × Shape) (t : Text) :
    blankLoop.isPrefixOf ((propertyRegex property).text ++ t) = false := by
  have htext : (propertyRegex property).text =
      (Regex.exactly (Json.writeString false property.1)).text ++
        ((Regex.spaced ':').text ++ property.2.regex.text) := rfl
  rw [htext, text_exactly]
  rfl

theorem kept_commaSeparated {properties : Schema} (hne : properties ≠ [])
    (hvalues : ∀ property ∈ properties, Kept property.2.regex.text) :
    Kept (Regex.commaSeparated (properties.map propertyRegex)).text ∧
      ∀ t, blankLoop.isPrefixOf
        ((Regex.commaSeparated (properties.map propertyRegex)).text ++ t) = false := by
  induction properties with
  | nil => exact absurd rfl hne
  | cons property properties ih =>
    rw [List.forall_mem_cons] at hvalues
    rcases properties with _ | ⟨next, properties⟩
    · exact ⟨kept_propertyRegex hvalues.1, isPrefixOf_text_propertyRegex property⟩
    · obtain ⟨hrest, hhead⟩ := ih (List.cons_ne_nil next properties) hvalues.2
      have hcomma := hrest.spaced_append (c := ',') (by decide) hhead
      have hkept := (kept_propertyRegex hvalues.1).append hcomma
      refine ⟨hkept, fun t => ?_⟩
      have htext : (Regex.commaSeparated
          ((property :: next :: properties).map propertyRegex)).text =
          (propertyRegex property).text ++ ((Regex.spaced ',').text ++
            (Regex.commaSeparated ((next :: properties).map propertyRegex)).text) := rfl
      rw [htext, List.append_assoc]
      exact isPrefixOf_text_propertyRegex property _

theorem kept_objectOf {properties : Schema}
    (hvalues : ∀ property ∈ properties, Kept property.2.regex.text) :
    Kept (Regex.objectOf (properties.map propertyRegex)).text := by
  rcases properties with _ | ⟨property, properties⟩
  · exact fun _ => rfl
  · obtain ⟨hmembers, hhead⟩ :=
      kept_commaSeparated (List.cons_ne_nil property properties) hvalues
    have hclosing : Kept (blankLoop ++ ['\\', '\x7d']) :=
      (kept_escaped (by decide) (by decide)).blankLoop_append fun _ => rfl
    have hopening : Kept ['\\', '\x7b'] := fun _ => rfl
    have hfront (t : Text) : blankLoop.isPrefixOf
        ((Regex.commaSeparated ((property :: properties).map propertyRegex)).text ++
          (blankLoop ++ ['\\', '\x7d']) ++ t) = false := by
      rw [List.append_assoc]
      exact hhead _
    exact hopening.append ((hmembers.append hclosing).blankLoop_append hfront)

/-- The expression of a shape is kept. -/
theorem Shape.kept_text_regex (shape : Shape) : Kept shape.regex.text := by
  induction shape using Shape.rec' with
  | primitive kind =>
    cases kind with
    | string => exact fun t => rfl
    | number => exact fun t => rfl
    | boolean => exact fun t => rfl
  | array items ih => exact kept_arrayOf ih items.isPrefixOf_text_regex
  | object properties ih =>
    rw [regex, Schema.regexEntries_eq_map]
    exact kept_objectOf ih

/-- The pattern of a schema is the text of its expression, shortened or not. -/
theorem Schema.pattern_eq_text (schema : Schema) (shorten : Bool) :
    schema.pattern shorten = schema.regex.text := by
  cases shorten with
  | false => rfl
  | true =>
    have hkept := (Shape.object schema).kept_text_regex []
    rw [List.append_nil] at hkept
    exact hkept.trans (List.append_nil _)

/-! ## What the pattern accepts -/

namespace Regex

/-- A key is spelt with a backslash in front of every character that means something. -/
theorem isPart_exactly (text : Text) : (exactly text).IsPart := by
  have hspecial : (special.all fun c => !c.isAlphanum) = true := by decide
  have hmarks : (marks.all fun c => special.contains c) = true := by decide
  rw [List.all_eq_true] at hspecial hmarks
  refine isPart_sequence (List.forall_mem_map.2 fun c _ => ?_)
  split
  · rename_i hc
    have hplain := hspecial c (List.contains_iff_mem.1 hc)
    rw [Bool.not_eq_true'] at hplain
    exact ⟨hplain, rfl⟩
  · rename_i hc
    exact ⟨fun hmark => hc (hmarks c hmark), rfl⟩

theorem isPart_spaced {c : Char} (hc : c ∉ marks) : (spaced c).IsPart := by
  have hblanks : blanks.IsPart := by decide
  have hmark : (literal c).IsPart := ⟨hc, rfl⟩
  apply isPart_sequence
  simp [hblanks, hmark]

theorem isPart_arrayOf {item : Regex} (h : item.IsPart) : (arrayOf item).IsPart := by
  have hblanks : blanks.IsPart := by decide
  have hopening : (escaped '[').IsPart := by decide
  have hclosing : (escaped ']').IsPart := by decide
  have hcomma : (spaced ',').IsPart := isPart_spaced (by decide)
  have hitems : (Regex.optional (.group (.seq item
      (.star (.group (.seq (spaced ',') item)))))).IsPart :=
    ⟨⟨⟨h, ⟨⟨hcomma, h⟩, rfl⟩, rfl⟩, rfl⟩, rfl⟩
  apply isPart_sequence
  simp [hblanks, hopening, hclosing, hitems]

theorem isPart_commaSeparated {entries : List Regex} (h : ∀ entry ∈ entries, entry.IsPart) :
    (commaSeparated entries).IsPart := by
  induction entries with
  | nil => exact ⟨trivial, rfl⟩
  | cons entry entries ih =>
    rw [List.forall_mem_cons] at h
    rcases entries with _ | ⟨next, entries⟩
    · exact h.1
    · have hcomma : (spaced ',').IsPart := isPart_spaced (by decide)
      apply isPart_sequence
      simp [h.1, hcomma, ih h.2]

theorem isPart_objectOf {entries : List Regex} (h : ∀ entry ∈ entries, entry.IsPart) :
    (objectOf entries).IsPart := by
  have hblanks : blanks.IsPart := by decide
  have hopening : (escaped '\x7b').IsPart := by decide
  have hclosing : (escaped '\x7d').IsPart := by decide
  rcases entries with _ | ⟨entry, entries⟩
  · decide
  · have hmembers := isPart_commaSeparated h
    apply isPart_sequence
    simp [hblanks, hopening, hclosing, hmembers]

end Regex

/-- The expression of a shape is readable. -/
theorem Shape.isPart_regex (shape : Shape) : shape.regex.IsPart := by
  induction shape using Shape.rec' with
  | primitive kind =>
    cases kind with
    | string => decide
    | number => decide
    | boolean => decide
  | array items ih => exact Regex.isPart_arrayOf ih
  | object properties ih =>
    rw [regex, Schema.regexEntries_eq_map]
    refine Regex.isPart_objectOf (List.forall_mem_map.2 fun property hproperty => ?_)
    have hkey := Regex.isPart_exactly (Json.writeString false property.1)
    have hcolon : (Regex.spaced ':').IsPart := Regex.isPart_spaced (by decide)
    apply Regex.isPart_sequence
    simp [hkey, hcolon, ih property hproperty]

/-- **Shortening changes nothing.** Whatever the keys of a schema are and however its shapes are
nested, the text of its expression is its own shortening, so the pattern is the same text with and
without it. The pattern can be read, as an expression with the language of the schema; shortened it
accepts what it accepts as it was, and these are the instances that match the schema. -/
theorem Schema.pattern_shortened_accepts (schema : Schema) :
    Regex.collapse schema.regex.text = schema.regex.text ∧
    schema.pattern true = schema.pattern false ∧
    (∃ r, Regex.read? (schema.pattern true) = some r ∧
      ∀ text, r.Matches text ↔ schema.regex.Matches text) ∧
    (∀ text, Regex.accepts (schema.pattern true) text = Regex.accepts (schema.pattern false) text) ∧
    ∀ instances, let found := schema.matchInstances instances
      found.pattern = schema.pattern true ∧
      found.matched =
        (instances.map instanceText).filter (Regex.accepts (schema.pattern false)) ∧
      found.unmatched =
        (instances.map instanceText).filter fun text =>
          !Regex.accepts (schema.pattern false) text := by
  have hsame : schema.pattern true = schema.pattern false := by
    rw [schema.pattern_eq_text true, schema.pattern_eq_text false]
  have hreadable : schema.regex.Readable := (Shape.object schema).isPart_regex.1
  have haccepts : Regex.accepts (schema.pattern false) = schema.regex.isMatch :=
    funext hreadable.accepts_text
  refine ⟨schema.pattern_eq_text true, hsame, ?_, ?_, ?_⟩
  · rw [schema.pattern_eq_text true]
    exact hreadable.exists_read?
  · intro text
    rw [hsame]
  · intro instances
    refine ⟨rfl, ?_, ?_⟩
    · rw [haccepts]
      rfl
    · rw [haccepts]
      rfl

end DocShape
