import DocShape.Parse
import DocShape.Proofs.Segments
import Mathlib.Data.List.Forall2

/-!
# One level of the parser

The parser tells the six forms of a value apart by their beginnings and endings and cuts an object
at commas and colons. This module says once what that comes to, as relations on texts, so that no
later proof looks into the cutting again.

`ValueReads` has one rule for each form of a value, and a value is accepted exactly by these rules
(`valueWith_eq_ok_iff`). An object text without blanks is accepted exactly when it is a list of
separate properties between braces, each one a key without a colon, a colon and an accepted value,
and the properties merge (`objectWith_eq_ok_iff`). If the list is given, no other list has to be
considered (`objectWith_objectText_iff`).

Relation: one level, with the parser of the inner objects as a parameter.
-/

set_option autoImplicit false

namespace DocShape

namespace Text

/-- None of the characters is a blank. -/
def Blankless (text : Text) : Prop := ∀ c ∈ text, isBlank c = false

instance (text : Text) : Decidable (Blankless text) :=
  List.decidableBAll (fun c => isBlank c = false) text

theorem blankless_removeBlanks (text : Text) : Blankless (removeBlanks text) :=
  fun _ => isBlank_eq_false_of_mem_removeBlanks

theorem blankless_nil : Blankless [] := by
  intro c hc
  simp at hc

theorem blankless_cons_iff {c : Char} {text : Text} :
    Blankless (c :: text) ↔ isBlank c = false ∧ Blankless text :=
  List.forall_mem_cons

theorem blankless_append_iff {s t : Text} : Blankless (s ++ t) ↔ Blankless s ∧ Blankless t :=
  List.forall_mem_append

theorem blankless_joinWith_iff {texts : List Text} :
    Blankless (joinWith [','] texts) ↔ ∀ text ∈ texts, Blankless text := by
  induction texts with
  | nil => simp [joinWith, blankless_nil]
  | cons text rest ih =>
    by_cases hnil : rest = []
    · subst hnil
      simp [joinWith]
    · have hcomma : isBlank ',' = false := by decide
      rw [Brace.joinWith_cons hnil, blankless_append_iff, blankless_cons_iff, ih,
        List.forall_mem_cons]
      simp [hcomma]

/-- Every one of some texts stands in them joined. -/
theorem infix_joinWith {texts : List Text} {text : Text} (h : text ∈ texts) :
    text <:+: joinWith [','] texts := by
  induction texts with
  | nil => cases h
  | cons first rest ih =>
    by_cases hnil : rest = []
    · subst hnil
      rw [List.mem_singleton.1 h]
      exact List.infix_rfl
    · rw [Brace.joinWith_cons hnil]
      rcases List.mem_cons.1 h with rfl | h
      · exact (List.prefix_append text _).isInfix
      · exact (ih h).trans (List.infix_append_of_infix_right (List.suffix_cons ',' _).isInfix)

/-- A character cuts a text where it stands first. -/
theorem cutAt?_append {mark : Char} {front : Text} (h : mark ∉ front) (back : Text) :
    cutAt? mark (front ++ mark :: back) = some (front, back) := by
  induction front with
  | nil => simp [cutAt?]
  | cons c front ih =>
    rw [List.mem_cons, not_or] at h
    rw [List.cons_append, cutAt?, if_neg (Ne.symm h.1), ih h.2]
    rfl

/-- A text whose first character is missing before the marker is cut at the marker. -/
theorem before?_append {first : Char} {marker front : Text} (h : first ∉ front) (back : Text) :
    before? (first :: marker) (front ++ (first :: marker ++ back)) = some front := by
  induction front with
  | nil =>
    rw [List.nil_append, List.cons_append, before?, if_pos]
    rw [List.isPrefixOf_iff_prefix]
    exact List.prefix_append (first :: marker) back
  | cons c front ih =>
    rw [List.mem_cons, not_or] at h
    rw [List.cons_append, before?, if_neg, ih h.2]
    · rfl
    · rw [List.isPrefixOf_iff_prefix, List.cons_prefix_cons]
      exact fun hc => h.1 hc.1

theorem exists_of_before? {marker text front : Text} (h : before? marker text = some front) :
    ∃ back, text = front ++ (marker ++ back) := by
  induction text generalizing front with
  | nil =>
    simp only [before?, List.isEmpty_iff, Option.ite_none_right_eq_some, Option.some.injEq] at h
    obtain ⟨rfl, rfl⟩ := h
    exact ⟨[], rfl⟩
  | cons c text ih =>
    rw [before?] at h
    split at h
    · rename_i hpre
      obtain ⟨back, hback⟩ := List.isPrefixOf_iff_prefix.1 hpre
      obtain rfl : [] = front := by simpa using h
      exact ⟨back, hback.symm⟩
    · obtain ⟨front', hfront, rfl⟩ := Option.map_eq_some_iff.1 h
      obtain ⟨back, rfl⟩ := ih hfront
      exact ⟨back, rfl⟩

/-- A marker is found exactly where it stands somewhere. -/
theorem before?_eq_none_iff {marker text : Text} (hne : marker ≠ []) :
    before? marker text = none ↔ ¬ marker <:+: text := by
  induction text with
  | nil => simp [before?, hne]
  | cons c text ih =>
    rw [before?, List.infix_cons_iff, ← List.isPrefixOf_iff_prefix, not_or]
    split <;> simp_all

/-- A marker does not begin in a part without its first character. -/
theorem infix_append_iff {first : Char} {marker front text : Text} (h : first ∉ front) :
    first :: marker <:+: front ++ text ↔ first :: marker <:+: text := by
  induction front with
  | nil => rfl
  | cons c front ih =>
    rw [List.mem_cons, not_or] at h
    rw [List.cons_append, List.infix_cons_iff, List.cons_prefix_cons, ih h.2, or_iff_right]
    exact fun hc => h.1 hc.1

end Text

/-! ## Answers -/

theorem map_eq_ok_iff {α β : Type} {f : α → β} {answer : Parsed α} {b : β} :
    answer.map f = .ok b ↔ ∃ a, answer = .ok a ∧ f a = b := by
  cases answer <;> simp [Except.map]

theorem inside_eq_ok_iff {α : Type} {step : Step} {answer : Parsed α} {a : α} :
    inside step answer = .ok a ↔ answer = .ok a := by
  cases answer <;> simp [inside]

theorem parseToken_eq_ok_iff {token : Text} {shape : Shape} :
    parseToken token = .ok shape ↔
      ∃ kind, token = Primitive.name kind ∧ shape = .primitive kind := by
  rw [parseToken]
  cases h : Primitive.ofName? token with
  | none =>
    simp only [reject, reduceCtorEq, false_iff, not_exists, not_and]
    rintro kind rfl
    simp at h
  | some kind =>
    obtain rfl := Primitive.ofName?_eq_some_iff.1 h
    simp only [Except.ok.injEq]
    -- A name names one kind only, so the kind on the right is the one that was found.
    constructor
    · rintro rfl
      exact ⟨kind, rfl, rfl⟩
    · rintro ⟨kind', hname, rfl⟩
      have hkind := Primitive.ofName?_name kind'
      rw [← hname, h, Option.some.injEq] at hkind
      rw [hkind]

/-! ## Forms of a value -/

/-- A text does not end with something that ends differently. -/
theorem Text.beforeEnd?_eq_none {c d : Char} (h : c ≠ d) (ending text : Text) :
    beforeEnd? (ending ++ [c]) (text ++ [d]) = none := by
  simp [beforeEnd?, afterStart?, h]

namespace ValueForm

theorem objectsText?_eq_some_iff {raw text : Text} :
    objectsText? raw = some text ↔
      raw = "Array<".toList ++ (text ++ ['>']) ∧ ∃ content, text = '{' :: content ++ ['}'] := by
  simp only [objectsText?, Option.bind_eq_bind, Option.bind_eq_some_iff,
    Text.afterStart?_eq_some_iff, Text.beforeEnd?_eq_some_iff, Brace.interior?_eq_some_iff]
  constructor
  · rintro ⟨rest, rfl, text', rfl, content, htext, h⟩
    obtain rfl : text' = text := by simpa using h
    exact ⟨rfl, content, htext⟩
  · rintro ⟨rfl, content, htext⟩
    exact ⟨text ++ ['>'], rfl, text, rfl, content, htext, rfl⟩

theorem beforeRules?_append (marker text : Text) :
    beforeRules? marker (text ++ ['>']) = Text.before? marker (text ++ ['>']) := by
  have h : Text.beforeEnd? ['>'] (text ++ ['>']) = some text :=
    Text.beforeEnd?_eq_some_iff.2 rfl
  rw [beforeRules?, h, if_pos Option.isSome_some]

/-- What is taken off a value as rules stands between angle brackets. -/
theorem exists_of_beforeRules? (marker : Text) {raw front : Text}
    (h : beforeRules? (marker ++ ['<']) raw = some front) :
    ∃ rules, raw = front ++ (marker ++ '<' :: rules ++ ['>']) := by
  rw [beforeRules?] at h
  split at h
  · rename_i hend
    obtain ⟨body, hbody⟩ := Option.isSome_iff_exists.1 hend
    obtain ⟨back, hback⟩ := Text.exists_of_before? h
    rw [Text.beforeEnd?_eq_some_iff] at hbody
    rcases List.eq_nil_or_concat back with rfl | ⟨rules, c, rfl⟩
    · -- The marker ends with `<`, so it cannot be the end of a text that ends with `>`.
      have hlast := congrArg List.getLast? (hbody.symm.trans hback)
      simp at hlast
    · have hends : body ++ ['>'] = front ++ (marker ++ '<' :: rules) ++ [c] := by
        simpa using hbody.symm.trans hback
      obtain ⟨hfront, -⟩ := List.append_inj' hends rfl
      exact ⟨rules, by rw [hbody, hfront]; simp⟩
  · simp at h

/-- The ways in which a text spells a form. -/
inductive Spelt : ValueForm → Text → Prop
  | objects (content : Text) :
      Spelt (.objects ('{' :: content ++ ['}']))
        ("Array<".toList ++ ('{' :: content ++ ['}'] ++ ['>']))
  | object (content : Text) :
      Spelt (.object ('{' :: content ++ ['}'])) ('{' :: content ++ ['}'])
  | brackets (token : Text) : Spelt (.primitives token) (token ++ "[]".toList)
  | bracketsRules (token rules : Text) :
      Spelt (.primitives token) (token ++ ("[]<".toList ++ rules ++ ['>']))
  | rules (token : Text) {rules : Text} :
      ¬ "[]<".toList <:+: token ++ ('<' :: rules ++ ['>']) →
        Spelt (.primitive token) (token ++ ('<' :: rules ++ ['>']))
  | plain {raw : Text} : Spelt (.primitive raw) raw

/-- A text spells the form it is taken for. -/
theorem spelt_ofText (raw : Text) : Spelt (ofText raw) raw := by
  rw [ofText]
  -- The cases are the tests for the forms in the order in which they are made.
  cases hobjects : objectsText? raw with
  | some text =>
    obtain ⟨rfl, content, rfl⟩ := objectsText?_eq_some_iff.1 hobjects
    exact .objects content
  | none =>
    cases hobject : Brace.interior? raw with
    | some content =>
      obtain rfl := Brace.interior?_eq_some_iff.1 hobject
      exact .object content
    | none =>
      cases hend : Text.beforeEnd? "[]".toList raw with
      | some token =>
        obtain rfl := Text.beforeEnd?_eq_some_iff.1 hend
        exact .brackets token
      | none =>
        cases harray : beforeRules? "[]<".toList raw with
        | some token =>
          obtain ⟨rules, rfl⟩ := exists_of_beforeRules? "[]".toList harray
          exact .bracketsRules token rules
        | none =>
          cases hrules : beforeRules? ['<'] raw with
          | some token =>
            obtain ⟨rules, rfl⟩ := exists_of_beforeRules? [] hrules
            refine .rules token ?_
            rwa [← List.append_assoc, ← Text.before?_eq_none_iff (by decide),
              ← beforeRules?_append, List.append_assoc]
          | none => exact .plain

/-- A value that begins with the name of a kind is not an object and not an array of objects. -/
theorem ofText_name_append (kind : Primitive) (rest : Text) :
    ofText (kind.name ++ rest) =
      match Text.beforeEnd? "[]".toList (kind.name ++ rest) with
      | some token => .primitives token
      | none =>
        match beforeRules? "[]<".toList (kind.name ++ rest) with
        | some token => .primitives token
        | none =>
          .primitive ((beforeRules? ['<'] (kind.name ++ rest)).getD (kind.name ++ rest)) := by
  have hobjects : objectsText? (kind.name ++ rest) = none := by cases kind <;> rfl
  have hobject : Brace.interior? (kind.name ++ rest) = none := by cases kind <;> rfl
  rw [ofText, hobjects, hobject]
  rfl

/-- The marker of an array with rules is not made up by the brackets around rules. -/
theorem marker_infix_iff (kind : Primitive) (rules : Text) :
    "[]<".toList <:+: kind.name ++ ('<' :: rules ++ ['>']) ↔ "[]<".toList <:+: rules := by
  have hfront : '[' ∉ kind.name ++ ['<'] := by cases kind <;> decide
  have hsplit : kind.name ++ ('<' :: rules ++ ['>']) = kind.name ++ ['<'] ++ (rules ++ ['>']) := by
    simp
  rw [hsplit, show "[]<".toList = ['[', ']', '<'] from rfl, Text.infix_append_iff hfront,
    List.infix_concat_iff, or_iff_right]
  rintro ⟨front, hconcat⟩
  simpa using congrArg List.getLast? hconcat

theorem ofText_name (kind : Primitive) : ofText kind.name = .primitive kind.name := by
  cases kind <;> rfl

theorem ofText_brackets (kind : Primitive) :
    ofText (kind.name ++ "[]".toList) = .primitives kind.name := by
  have hend : Text.beforeEnd? "[]".toList (kind.name ++ "[]".toList) = some kind.name :=
    Text.beforeEnd?_eq_some_iff.2 rfl
  rw [ofText_name_append, hend]

theorem ofText_rules (kind : Primitive) {rules : Text} (h : ¬ "[]<".toList <:+: rules) :
    ofText (kind.name ++ ('<' :: rules ++ ['>'])) = .primitive kind.name := by
  have hend : Text.beforeEnd? "[]".toList (kind.name ++ ('<' :: rules ++ ['>'])) = none := by
    rw [← List.append_assoc]
    exact Text.beforeEnd?_eq_none (by decide) ['['] (kind.name ++ '<' :: rules)
  have harray : beforeRules? "[]<".toList (kind.name ++ ('<' :: rules ++ ['>'])) = none := by
    rw [← List.append_assoc, beforeRules?_append, Text.before?_eq_none_iff (by decide),
      List.append_assoc, marker_infix_iff]
    exact h
  have hname : '<' ∉ kind.name := by cases kind <;> decide
  have hrules : beforeRules? ['<'] (kind.name ++ ('<' :: rules ++ ['>'])) = some kind.name := by
    rw [← List.append_assoc, beforeRules?_append, List.append_assoc]
    exact Text.before?_append hname (rules ++ ['>'])
  rw [ofText_name_append, hend, harray, hrules]
  rfl

theorem ofText_brackets_rules (kind : Primitive) (rules : Text) :
    ofText (kind.name ++ ("[]<".toList ++ rules ++ ['>'])) = .primitives kind.name := by
  have hend :
      Text.beforeEnd? "[]".toList (kind.name ++ ("[]<".toList ++ rules ++ ['>'])) = none := by
    rw [← List.append_assoc]
    exact Text.beforeEnd?_eq_none (by decide) ['['] (kind.name ++ ("[]<".toList ++ rules))
  have hname : '[' ∉ kind.name := by cases kind <;> decide
  have hrules : beforeRules? "[]<".toList (kind.name ++ ("[]<".toList ++ rules ++ ['>'])) =
      some kind.name := by
    rw [← List.append_assoc, beforeRules?_append, List.append_assoc]
    exact Text.before?_append hname (rules ++ ['>'])
  rw [ofText_name_append, hend, hrules]

theorem ofText_braced (content : Text) :
    ofText ('{' :: content ++ ['}']) = .object ('{' :: content ++ ['}']) := by
  have hobjects : objectsText? ('{' :: content ++ ['}']) = none := rfl
  have hobject : Brace.interior? ('{' :: content ++ ['}']) = some content :=
    Brace.interior?_eq_some_iff.2 rfl
  rw [ofText, hobjects, hobject]
  rfl

theorem ofText_array_braced (content : Text) :
    ofText ("Array<".toList ++ ('{' :: content ++ ['}'] ++ ['>'])) =
      .objects ('{' :: content ++ ['}']) := by
  rw [ofText, objectsText?_eq_some_iff.2 ⟨rfl, content, rfl⟩]

end ValueForm

/-- A parser accepts a text as a schema. -/
def Accepts (parser : Text → Parsed Schema) (text : Text) (schema : Schema) : Prop :=
  parser text = .ok schema

/-- The forms of a value and what they stand for, given what the objects in it stand for. -/
inductive ValueReads (inner : Text → Schema → Prop) : Text → Shape → Prop
  | primitive (kind : Primitive) : ValueReads inner kind.name (.primitive kind)
  | ruled (kind : Primitive) {rules : Text} :
      ¬ "[]<".toList <:+: rules →
        ValueReads inner (kind.name ++ ('<' :: rules ++ ['>'])) (.primitive kind)
  | primitives (kind : Primitive) :
      ValueReads inner (kind.name ++ "[]".toList) (.array (.primitive kind))
  | ruledPrimitives (kind : Primitive) (rules : Text) :
      ValueReads inner (kind.name ++ ("[]<".toList ++ rules ++ ['>'])) (.array (.primitive kind))
  | object {content : Text} {schema : Schema} :
      inner ('{' :: content ++ ['}']) schema →
        ValueReads inner ('{' :: content ++ ['}']) (.object schema)
  | objects {content : Text} {schema : Schema} :
      inner ('{' :: content ++ ['}']) schema →
        ValueReads inner ("Array<".toList ++ ('{' :: content ++ ['}'] ++ ['>']))
          (.array (.object schema))

/-- A value is accepted exactly by the rules for its forms. -/
theorem valueWith_eq_ok_iff {nested : Text → Parsed Schema} {raw : Text} {shape : Shape} :
    valueWith nested raw = .ok shape ↔ ValueReads (Accepts nested) raw shape := by
  constructor
  · intro h
    rw [valueWith] at h
    -- Only how the text spells its form matters from here on, not how the form was found.
    have hspelt := ValueForm.spelt_ofText raw
    generalize ValueForm.ofText raw = form at h hspelt
    cases hspelt with
    | objects content =>
      obtain ⟨schema, hschema, rfl⟩ := map_eq_ok_iff.1 h
      exact .objects hschema
    | object content =>
      obtain ⟨schema, hschema, rfl⟩ := map_eq_ok_iff.1 h
      exact .object hschema
    | brackets token =>
      obtain ⟨_, htoken, rfl⟩ := map_eq_ok_iff.1 h
      obtain ⟨kind, rfl, rfl⟩ := parseToken_eq_ok_iff.1 htoken
      exact .primitives kind
    | bracketsRules token rules =>
      obtain ⟨_, htoken, rfl⟩ := map_eq_ok_iff.1 h
      obtain ⟨kind, rfl, rfl⟩ := parseToken_eq_ok_iff.1 htoken
      exact .ruledPrimitives kind rules
    | rules token hmarker =>
      obtain ⟨kind, rfl, rfl⟩ := parseToken_eq_ok_iff.1 h
      exact .ruled kind fun hrules => hmarker ((ValueForm.marker_infix_iff kind _).2 hrules)
    | plain =>
      obtain ⟨kind, rfl, rfl⟩ := parseToken_eq_ok_iff.1 h
      exact .primitive kind
  · intro h
    have htoken (kind : Primitive) : parseToken kind.name = .ok (.primitive kind) :=
      parseToken_eq_ok_iff.2 ⟨kind, rfl, rfl⟩
    cases h with
    | primitive kind =>
      rw [valueWith, ValueForm.ofText_name]
      exact htoken kind
    | ruled kind hrules =>
      rw [valueWith, ValueForm.ofText_rules kind hrules]
      exact htoken kind
    | primitives kind =>
      rw [valueWith, ValueForm.ofText_brackets]
      exact map_eq_ok_iff.2 ⟨_, htoken kind, rfl⟩
    | ruledPrimitives kind rules =>
      rw [valueWith, ValueForm.ofText_brackets_rules]
      exact map_eq_ok_iff.2 ⟨_, htoken kind, rfl⟩
    | object hschema =>
      rw [valueWith, ValueForm.ofText_braced]
      exact map_eq_ok_iff.2 ⟨_, hschema, rfl⟩
    | objects hschema =>
      rw [valueWith, ValueForm.ofText_array_braced]
      exact map_eq_ok_iff.2 ⟨_, hschema, rfl⟩

/-! ## Properties and objects -/

/-- A property: a key without a colon, a colon, and a value that is accepted. -/
def PropertyReads (inner : Text → Schema → Prop) (segment : Text) (entry : Text × Shape) : Prop :=
  ':' ∉ entry.1 ∧ ∃ raw, segment = entry.1 ++ ':' :: raw ∧ ValueReads inner raw entry.2

/-- A property whose key is known is that key and a value. -/
theorem propertyReads_append_iff {inner : Text → Schema → Prop} {key raw : Text}
    {entry : Text × Shape} (hkey : ':' ∉ key) :
    PropertyReads inner (key ++ ':' :: raw) entry ↔
      entry.1 = key ∧ ValueReads inner raw entry.2 := by
  constructor
  · rintro ⟨hkey', raw', htext, hvalue⟩
    -- The text is cut at its first colon, and there is one way to do that.
    have hcut := Text.cutAt?_append hkey raw
    rw [htext, Text.cutAt?_append hkey' raw', Option.some.injEq, Prod.mk.injEq] at hcut
    exact ⟨hcut.1, hcut.2 ▸ hvalue⟩
  · rintro ⟨rfl, hvalue⟩
    exact ⟨hkey, raw, rfl, hvalue⟩

theorem parseProperty_eq_ok_iff {segment key raw : Text} (hblank : Text.Blankless segment) :
    parseProperty segment = .ok (key, raw) ↔ segment = key ++ ':' :: raw ∧ ':' ∉ key := by
  rw [parseProperty]
  cases hcut : Text.cutAt? ':' segment with
  | none =>
    simp only [reject, reduceCtorEq, false_iff, not_and, not_not]
    rintro rfl
    by_contra hkey
    simp [Text.cutAt?_append hkey] at hcut
  | some parts =>
    obtain ⟨rfl, hkey⟩ := Text.eq_of_cutAt? hcut
    have hvalue : Text.trimLeft parts.2 = parts.2 := by
      rw [Text.blankless_append_iff, Text.blankless_cons_iff] at hblank
      exact Text.trimLeft_eq_self hblank.2.2
    simp only [hvalue, Except.ok.injEq, Prod.mk.injEq]
    constructor
    · rintro ⟨rfl, rfl⟩
      exact ⟨rfl, hkey⟩
    · rintro ⟨htext, hkey'⟩
      have hcut' := Text.cutAt?_append hkey' raw
      rw [← htext, hcut, Option.some.injEq, Prod.ext_iff] at hcut'
      exact hcut'

theorem entryWith_eq_ok_iff {nested : Text → Parsed Schema} {segment : Text} {entry : Text × Shape}
    (hblank : Text.Blankless segment) :
    entryWith nested segment = .ok entry ↔ PropertyReads (Accepts nested) segment entry := by
  rw [entryWith]
  cases hproperty : parseProperty segment with
  | error failure =>
    simp only [reduceCtorEq, false_iff]
    rintro ⟨hkey, raw, htext, -⟩
    have := (parseProperty_eq_ok_iff hblank).2 ⟨htext, hkey⟩
    simp [hproperty] at this
  | ok parts =>
    obtain ⟨htext, hkey⟩ := (parseProperty_eq_ok_iff hblank).1 hproperty
    simp only [map_eq_ok_iff, inside_eq_ok_iff, valueWith_eq_ok_iff]
    constructor
    · rintro ⟨shape, hvalue, rfl⟩
      exact ⟨hkey, parts.2, htext, hvalue⟩
    · rintro ⟨hkey', raw, htext', hvalue⟩
      have hproperty' := (parseProperty_eq_ok_iff hblank).2 ⟨htext', hkey'⟩
      obtain rfl : parts = (entry.1, raw) := by simpa [hproperty] using hproperty'
      exact ⟨entry.2, hvalue, rfl⟩

/-- All properties are accepted, each one as the entry at its place. -/
theorem entriesWith_eq_ok_iff {nested : Text → Parsed Schema} {segments : List Text}
    {entries : List (Text × Shape)} (hblank : ∀ segment ∈ segments, Text.Blankless segment) :
    entriesWith nested segments = .ok entries ↔
      List.Forall₂ (PropertyReads (Accepts nested)) segments entries := by
  induction segments generalizing entries with
  | nil => simp [entriesWith, eq_comm]
  | cons segment segments ih =>
    rw [List.forall_mem_cons] at hblank
    have hentry (entry : Text × Shape) :
        inside (.property (Text.trim segment)) (entryWith nested (Text.trim segment)) = .ok entry ↔
          PropertyReads (Accepts nested) segment entry := by
      rw [inside_eq_ok_iff, Text.trim_eq_self hblank.1, entryWith_eq_ok_iff hblank.1]
    rw [entriesWith, List.forall₂_cons_left_iff]
    cases hinside :
        inside (.property (Text.trim segment)) (entryWith nested (Text.trim segment)) with
    | error failure =>
      simp only [reduceCtorEq, false_iff]
      rintro ⟨entry, rest, hread, -, -⟩
      simp [(hentry entry).2 hread] at hinside
    | ok entry =>
      simp only [map_eq_ok_iff]
      constructor
      · rintro ⟨rest, hrest, rfl⟩
        exact ⟨entry, rest, (hentry entry).1 hinside, (ih hblank.2).1 hrest, rfl⟩
      · rintro ⟨entry', rest, hread, hrest, rfl⟩
        obtain rfl : entry = entry' := by simpa [hinside] using (hentry entry').2 hread
        exact ⟨rest, (ih hblank.2).2 hrest, rfl⟩

/-- Properties between braces. -/
def objectText (segments : List Text) : Text := '{' :: Text.joinWith [','] segments ++ ['}']

theorem blankless_objectText_iff {segments : List Text} :
    Text.Blankless (objectText segments) ↔ ∀ segment ∈ segments, Text.Blankless segment := by
  have hopen : Text.isBlank '{' = false := by decide
  have hclose : Text.Blankless ['}'] := by decide
  rw [objectText, Text.blankless_append_iff, Text.blankless_cons_iff, Text.blankless_joinWith_iff]
  simp [hopen, hclose]

theorem mergeEntries_eq_ok_iff {policy : KeyPolicy} {entries : List (Text × Shape)}
    {schema : Schema} :
    mergeEntries policy entries = .ok schema ↔ merge policy entries = .ok schema := by
  rw [mergeEntries]
  cases merge policy entries <;> simp [reject]

/-- What one level makes of separate properties between braces: the properties are found again. -/
theorem objectWith_objectText_iff {policy : KeyPolicy} {nested : Text → Parsed Schema}
    {segments : List Text} {schema : Schema}
    (hblank : ∀ segment ∈ segments, Text.Blankless segment) (hsep : Brace.Separate segments)
    (hne : segments ≠ [[]]) :
    objectWith policy nested (objectText segments) = .ok schema ↔
      ∃ entries, List.Forall₂ (PropertyReads (Accepts nested)) segments entries ∧
        merge policy entries = .ok schema := by
  have hinterior : Brace.interior? (objectText segments) = some (Text.joinWith [','] segments) :=
    Brace.interior?_eq_some_iff.2 rfl
  simp only [objectWith, hinterior, Brace.segments_joinWith hsep hne]
  cases hentries : entriesWith nested segments with
  | error failure =>
    simp only [reduceCtorEq, false_iff, not_exists, not_and]
    intro entries hreads
    simp [(entriesWith_eq_ok_iff hblank).2 hreads] at hentries
  | ok entries =>
    simp only [mergeEntries_eq_ok_iff]
    constructor
    · intro hmerge
      exact ⟨entries, (entriesWith_eq_ok_iff hblank).1 hentries, hmerge⟩
    · rintro ⟨entries', hreads, hmerge⟩
      obtain rfl : entries = entries' := by
        simpa [hentries] using (entriesWith_eq_ok_iff hblank).2 hreads
      exact hmerge

/-- Everything on the right of related lists is related to something on the left. -/
theorem exists_of_mem_right {α β : Type} {related : α → β → Prop} {xs : List α} {ys : List β}
    (h : List.Forall₂ related xs ys) {y : β} (hy : y ∈ ys) : ∃ x ∈ xs, related x y := by
  induction h with
  | nil => cases hy
  | @cons x first xs ys hfirst _ ih =>
    rcases List.mem_cons.1 hy with rfl | hy
    · exact ⟨x, List.mem_cons_self, hfirst⟩
    · obtain ⟨other, hother, hrelated⟩ := ih hy
      exact ⟨other, List.mem_cons_of_mem x hother, hrelated⟩

/-- Everything on the left of related lists is related to something on the right. -/
theorem exists_of_mem_left {α β : Type} {related : α → β → Prop} {xs : List α} {ys : List β}
    (h : List.Forall₂ related xs ys) {x : α} (hx : x ∈ xs) : ∃ y ∈ ys, related x y :=
  exists_of_mem_right h.flip hx

/-- Two lists with the same images place by place have the same list of images. -/
theorem map_eq_map_of_forall₂ {α β γ : Type} {f : α → γ} {g : β → γ} {as : List α} {bs : List β}
    (h : List.Forall₂ (fun a b => f a = g b) as bs) : as.map f = bs.map g := by
  have himages : List.Forall₂ (· = ·) (as.map f) (bs.map g) :=
    List.forall₂_map_left_iff.2 (List.forall₂_map_right_iff.2 h)
  rwa [List.forall₂_eq_eq_eq] at himages

/-- A list of properties is never the list of one empty text. -/
theorem ne_singleton_nil_of_reads {inner : Text → Schema → Prop} {segments : List Text}
    {entries : List (Text × Shape)} (h : List.Forall₂ (PropertyReads inner) segments entries) :
    segments ≠ [[]] := by
  rintro rfl
  obtain ⟨entry, _, ⟨-, raw, htext, -⟩, -, -⟩ := List.forall₂_cons_left_iff.1 h
  simp at htext

/-- What one level accepts: separate properties between braces. -/
theorem objectWith_eq_ok_iff {policy : KeyPolicy} {nested : Text → Parsed Schema} {text : Text}
    {schema : Schema} (hblank : Text.Blankless text) :
    objectWith policy nested text = .ok schema ↔
      ∃ segments entries, text = objectText segments ∧ Brace.Separate segments ∧
        List.Forall₂ (PropertyReads (Accepts nested)) segments entries ∧
          merge policy entries = .ok schema := by
  constructor
  · intro h
    cases hinterior : Brace.interior? text with
    | none => simp [objectWith, hinterior, reject] at h
    | some content =>
      have htext : text = objectText (Brace.segments content) := by
        rw [objectText, Brace.joinWith_segments]
        exact Brace.interior?_eq_some_iff.1 hinterior
      -- An empty interior has no segments and every other segment list has text in it.
      have hne : Brace.segments content ≠ [[]] := by
        intro hsegments
        have hcontent := Brace.joinWith_segments content
        rw [hsegments, Text.joinWith] at hcontent
        simp [← hcontent, Brace.segments] at hsegments
      rw [htext, blankless_objectText_iff] at hblank
      rw [htext, objectWith_objectText_iff hblank (Brace.separate_segments content) hne] at h
      obtain ⟨entries, hreads, hmerge⟩ := h
      exact ⟨_, entries, htext, Brace.separate_segments content, hreads, hmerge⟩
  · rintro ⟨segments, entries, rfl, hsep, hreads, hmerge⟩
    rw [blankless_objectText_iff] at hblank
    exact (objectWith_objectText_iff hblank hsep (ne_singleton_nil_of_reads hreads)).2
      ⟨entries, hreads, hmerge⟩

/-! ## All levels -/

theorem ValueReads.imp {inner inner' : Text → Schema → Prop} {raw : Text} {shape : Shape}
    (hinner : ∀ text schema, Text.Blankless text → inner text schema → inner' text schema)
    (hblank : Text.Blankless raw) (h : ValueReads inner raw shape) :
    ValueReads inner' raw shape := by
  cases h with
  | primitive kind => exact .primitive kind
  | ruled kind hrules => exact .ruled kind hrules
  | primitives kind => exact .primitives kind
  | ruledPrimitives kind rules => exact .ruledPrimitives kind rules
  | object hschema => exact .object (hinner _ _ hblank hschema)
  | objects hschema =>
    rw [Text.blankless_append_iff, Text.blankless_append_iff] at hblank
    exact .objects (hinner _ _ hblank.2.1 hschema)

theorem PropertyReads.imp {inner inner' : Text → Schema → Prop} {segment : Text}
    {entry : Text × Shape}
    (hinner : ∀ text schema, Text.Blankless text → inner text schema → inner' text schema)
    (hblank : Text.Blankless segment) (h : PropertyReads inner segment entry) :
    PropertyReads inner' segment entry := by
  obtain ⟨hkey, raw, rfl, hvalue⟩ := h
  rw [Text.blankless_append_iff, Text.blankless_cons_iff] at hblank
  exact ⟨hkey, raw, rfl, hvalue.imp hinner hblank.2.2⟩

theorem forall₂_propertyReads_imp {inner inner' : Text → Schema → Prop} {segments : List Text}
    {entries : List (Text × Shape)}
    (hinner : ∀ text schema, Text.Blankless text → inner text schema → inner' text schema)
    (hblank : ∀ segment ∈ segments, Text.Blankless segment)
    (h : List.Forall₂ (PropertyReads inner) segments entries) :
    List.Forall₂ (PropertyReads inner') segments entries := by
  induction h with
  | nil => exact .nil
  | cons hread _ ih =>
    rw [List.forall_mem_cons] at hblank
    exact .cons (hread.imp hinner hblank.1) (ih hblank.2)

/-- The parser of the objects inside an object that may have `limit` levels below it. -/
def innerParser (policy : KeyPolicy) : (limit : Nat) → Text → Parsed Schema
  | 0 => fun _ => .error .tooDeep
  | limit + 1 => parseObject policy limit

theorem parseObject_eq_objectWith (policy : KeyPolicy) (limit : Nat) :
    parseObject policy limit = objectWith policy (innerParser policy limit) := by
  cases limit <;> rfl

/-- Induction along a parse that succeeds: it is enough to go from the objects inside the properties
of an object, which have fewer levels below them, to the object. -/
theorem parseObject_induction {policy : KeyPolicy} {motive : Nat → Text → Schema → Prop}
    (level : ∀ limit segments entries schema,
      (∀ segment ∈ segments, Text.Blankless segment) → Brace.Separate segments →
        List.Forall₂ (PropertyReads fun text inner => ∃ below < limit, motive below text inner)
          segments entries →
        merge policy entries = .ok schema → motive limit (objectText segments) schema)
    {limit : Nat} {text : Text} {schema : Schema} (hblank : Text.Blankless text)
    (h : parseObject policy limit text = .ok schema) : motive limit text schema := by
  induction limit generalizing text schema with
  | zero =>
    rw [parseObject_eq_objectWith, objectWith_eq_ok_iff hblank] at h
    obtain ⟨segments, entries, rfl, hsep, hreads, hmerge⟩ := h
    rw [blankless_objectText_iff] at hblank
    refine level 0 segments entries schema hblank hsep ?_ hmerge
    apply forall₂_propertyReads_imp _ hblank hreads
    intro text inner _ hinner
    -- No level is left for an object inside.
    cases hinner
  | succ limit ih =>
    rw [parseObject_eq_objectWith, objectWith_eq_ok_iff hblank] at h
    obtain ⟨segments, entries, rfl, hsep, hreads, hmerge⟩ := h
    rw [blankless_objectText_iff] at hblank
    refine level (limit + 1) segments entries schema hblank hsep ?_ hmerge
    apply forall₂_propertyReads_imp _ hblank hreads
    intro text inner htext hinner
    exact ⟨limit, Nat.lt_succ_self limit, ih htext hinner⟩

end DocShape
