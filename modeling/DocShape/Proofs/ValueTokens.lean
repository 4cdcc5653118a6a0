import DocShape.Json.Reader
import DocShape.Proofs.Numbers
import DocShape.Proofs.Objects
import DocShape.Proofs.Tokens

/-!
# The tokens of a value

The text of a value is made of its tokens with blanks between some of them (`laidOut_write`), and
they can be told apart (`Json.lexical_tokens`). The tokens of the items of a container stand between
commas; from tokens joined so the parts can be taken back, provided that no part goes on where
another ends (`commaJoined_append_inj`).

Strings are written without loss: the token determines the text (`writeString_injective`).
-/

set_option autoImplicit false

namespace DocShape

/-- Induction on a value, with the hypothesis for every item and every member. -/
@[elab_as_elim]
theorem Json.rec' {motive : Json → Prop} (null : motive .null) (bool : ∀ b, motive (.bool b))
    (int : ∀ i, motive (.int i)) (float : ∀ x, motive (.float x))
    (string : ∀ text, motive (.string text))
    (array : ∀ items : List Json, (∀ item ∈ items, motive item) → motive (.array items))
    (object : ∀ members : List (Text × Json), (∀ member ∈ members, motive member.2) →
      motive (.object members)) :
    ∀ value, motive value
  | .null => null
  | .bool b => bool b
  | .int i => int i
  | .float x => float x
  | .string text => string text
  | .array items => array items fun item _hitem =>
      Json.rec' null bool int float string array object item
  | .object members => object members fun member _hmember =>
      Json.rec' null bool int float string array object member.2
termination_by value => sizeOf value
decreasing_by
  · have hsize := List.sizeOf_lt_of_mem _hitem
    simp only [Json.array.sizeOf_spec]
    omega
  · have hsize := sizeOf_lt_of_mem_entries _hmember
    simp only [Json.object.sizeOf_spec]
    omega

/-! ## Lists of tokens with commas between them -/

/-- Lists of tokens one after the other, with a comma between neighbours. -/
def commaJoined : List (List Text) → List Text
  | [] => []
  | [part] => part
  | part :: next :: parts => part ++ [','] :: commaJoined (next :: parts)

/-- Lists of tokens with commas between them, in brackets. -/
def enclosed (opening closing : Char) (parts : List (List Text)) : List Text :=
  [opening] :: (commaJoined parts ++ [[closing]])

/-- Brackets are two tokens. -/
theorem enclosed_ne_singleton (opening closing : Char) (parts : List (List Text)) (token : Text) :
    enclosed opening closing parts ≠ [token] := by
  intro h
  exact List.append_ne_nil_of_right_ne_nil _ (List.cons_ne_nil _ _) (List.cons.inj h).2

theorem Lexical.append_mark {front back : List Text} {c : Char} (hfront : Lexical front)
    (hc : c ∈ marks) (hback : Lexical back) : Lexical (front ++ [c] :: back) := by
  have hmark : ¬ Bare [c] := not_bare_of_delimits (delimits_of_mem_marks hc)
  refine ⟨fun token htoken => ?_, List.isChain_append.2 ⟨hfront.2, ?_, ?_⟩⟩
  · rcases List.mem_append.1 htoken with htoken | htoken
    · exact hfront.1 token htoken
    · rcases List.mem_cons.1 htoken with rfl | htoken
      · exact .mark hc
      · exact hback.1 token htoken
  · exact List.isChain_cons.2 ⟨fun t _ hbare => hmark hbare.1, hback.2⟩
  · intro s _ t ht hbare
    obtain rfl := Option.some.inj ht
    exact hmark hbare.2

theorem lexical_nil : Lexical [] := ⟨fun _ h => absurd h List.not_mem_nil, .nil⟩

theorem lexical_singleton {token : Text} (h : IsToken token) : Lexical [token] := by
  refine ⟨fun t ht => ?_, .singleton token⟩
  exact List.mem_singleton.1 ht ▸ h

theorem lexical_commaJoined {parts : List (List Text)} (h : ∀ part ∈ parts, Lexical part) :
    Lexical (commaJoined parts) := by
  induction parts with
  | nil => exact lexical_nil
  | cons part parts ih =>
    rw [List.forall_mem_cons] at h
    rcases parts with _ | ⟨next, parts⟩
    · exact h.1
    · exact h.1.append_mark (by decide) (ih h.2)

theorem lexical_enclosed {opening closing : Char} {parts : List (List Text)}
    (hopening : opening ∈ marks) (hclosing : closing ∈ marks)
    (h : ∀ part ∈ parts, Lexical part) : Lexical (enclosed opening closing parts) := by
  have hclosed := (lexical_commaJoined h).append_mark hclosing lexical_nil
  exact lexical_nil.append_mark hopening hclosed

/-- Parts with commas between them and a closing token behind them can be taken back from their
tokens, if no part goes on where another ends and none begins with the closing token. -/
theorem commaJoined_append_inj {p q : List Text → Prop} {closing : Text}
    {parts parts' : List (List Text)} {rest rest' : List Text} (hclosing : closing ≠ [','])
    (hp : ∀ part ∈ parts, p part) (hq : ∀ part ∈ parts', q part)
    (hpq : ∀ part part' s t, p part → q part' → part ++ s = part' ++ t → part = part')
    (hphead : ∀ part, p part → ∃ token more, part = token :: more ∧ token ≠ closing)
    (hqhead : ∀ part, q part → ∃ token more, part = token :: more ∧ token ≠ closing)
    (h : commaJoined parts ++ closing :: rest = commaJoined parts' ++ closing :: rest') :
    parts = parts' ∧ rest = rest' := by
  -- the tokens of one more part do not begin with the closing token
  have hhead {r : List Text → Prop}
      (hrhead : ∀ part, r part → ∃ token more, part = token :: more ∧ token ≠ closing)
      {part : List Text} (hr : r part) (parts : List (List Text)) :
      ∃ token more, commaJoined (part :: parts) = token :: more ∧ token ≠ closing := by
    obtain ⟨token, more, rfl, hne⟩ := hrhead part hr
    rcases parts with _ | ⟨next, parts⟩
    · exact ⟨token, more, rfl, hne⟩
    · exact ⟨token, _, rfl, hne⟩
  induction parts generalizing parts' with
  | nil =>
    rcases parts' with _ | ⟨part', parts'⟩
    · exact ⟨rfl, (List.cons.inj h).2⟩
    · obtain ⟨token, more, heq, hne⟩ := hhead hqhead (hq part' List.mem_cons_self) parts'
      rw [heq] at h
      exact absurd (List.cons.inj h).1.symm hne
  | cons part parts ih =>
    rw [List.forall_mem_cons] at hp
    rcases parts' with _ | ⟨part', parts'⟩
    · obtain ⟨token, more, heq, hne⟩ := hhead hphead hp.1 parts
      rw [heq] at h
      exact absurd (List.cons.inj h).1 hne
    · rw [List.forall_mem_cons] at hq
      -- the first parts are the same; behind them stands a comma or the closing token
      rcases parts with _ | ⟨next, parts⟩ <;> rcases parts' with _ | ⟨next', parts'⟩
      · obtain rfl := hpq part part' _ _ hp.1 hq.1 h
        exact ⟨rfl, (List.cons.inj (List.append_cancel_left h)).2⟩
      · rw [commaJoined, commaJoined, List.append_assoc] at h
        obtain rfl := hpq part part' _ _ hp.1 hq.1 h
        exact absurd (List.cons.inj (List.append_cancel_left h)).1 hclosing
      · rw [commaJoined, commaJoined, List.append_assoc] at h
        obtain rfl := hpq part part' _ _ hp.1 hq.1 h
        exact absurd (List.cons.inj (List.append_cancel_left h)).1.symm hclosing
      · rw [commaJoined, commaJoined, List.append_assoc, List.append_assoc] at h
        obtain rfl := hpq part part' _ _ hp.1 hq.1 h
        have hrest := (List.cons.inj (List.append_cancel_left h)).2
        obtain ⟨hparts, rfl⟩ := ih hp.2 hq.2 hrest
        rw [hparts]
        exact ⟨rfl, rfl⟩

/-! ## Strings -/

theorem StringBody.append {s t : Text} (hs : StringBody s) (ht : StringBody t) :
    StringBody (s ++ t) := by
  induction hs with
  | nil => exact ht
  | plain hquote hbackslash _ ih => exact .plain hquote hbackslash ih
  | escape c _ ih => exact .escape c ih

theorem StringBody.of_plain {s : Text} (h : ∀ c ∈ s, c ≠ '"' ∧ c ≠ '\\') : StringBody s := by
  induction s with
  | nil => exact .nil
  | cons c s ih =>
    rw [List.forall_mem_cons] at h
    exact .plain h.1.1 h.1.2 (ih h.2)

theorem plain_of_mem_hexDigits {width n : Nat} {c : Char} (h : c ∈ Text.hexDigits width n) :
    c ≠ '"' ∧ c ≠ '\\' := by
  have hdigit : ∀ k < 16, Nat.digitChar k ≠ '"' ∧ Nat.digitChar k ≠ '\\' := by decide
  induction width generalizing n with
  | zero => cases h
  | succ width ih =>
    rcases List.mem_append.1 h with h | h
    · exact ih h
    · rw [List.mem_singleton.1 h]
      exact hdigit _ (Nat.mod_lt n (by decide))

namespace Json

/-- A character inside a string is written as it is, by a letter behind a backslash, or by its code
point behind a backslash. -/
theorem stringChar_cases (c : Char) :
    (stringChar false c = [c] ∧ c ≠ '"' ∧ c ≠ '\\' ∧ 0x20 ≤ c.toNat) ∨
      (∃ letter, stringChar false c = ['\\', letter] ∧ escaped? letter = some c ∧
        (c = '"' ∨ c = '\\' ∨ c.toNat < 0x20)) ∨
      (stringChar false c = unitEscape c.toNat ∧ c.toNat < 0x20) := by
  by_cases hquote : c = '"'
  · subst c
    exact .inr (.inl ⟨'"', rfl, rfl, .inl rfl⟩)
  by_cases hbackslash : c = '\\'
  · subst c
    exact .inr (.inl ⟨'\\', rfl, rfl, .inr (.inl rfl)⟩)
  by_cases hn : c = '\n'
  · subst c
    exact .inr (.inl ⟨'n', rfl, rfl, .inr (.inr (by decide))⟩)
  by_cases hr : c = '\r'
  · subst c
    exact .inr (.inl ⟨'r', rfl, rfl, .inr (.inr (by decide))⟩)
  by_cases ht : c = '\t'
  · subst c
    exact .inr (.inl ⟨'t', rfl, rfl, .inr (.inr (by decide))⟩)
  by_cases hf : c = '\x0c'
  · subst c
    exact .inr (.inl ⟨'f', rfl, rfl, .inr (.inr (by decide))⟩)
  by_cases hb : c = '\x08'
  · subst c
    exact .inr (.inl ⟨'b', rfl, rfl, .inr (.inr (by decide))⟩)
  -- no letter of its own
  rw [stringChar, if_neg hquote, if_neg hbackslash, if_neg hn, if_neg hr, if_neg ht, if_neg hf,
    if_neg hb]
  by_cases hlow : c.toNat < 0x20
  · rw [if_pos hlow]
    exact .inr (.inr ⟨rfl, hlow⟩)
  · rw [if_neg hlow]
    exact .inl ⟨rfl, hquote, hbackslash, Nat.le_of_not_lt hlow⟩

theorem stringBody_stringChar (c : Char) : StringBody (stringChar false c) := by
  rcases stringChar_cases c with ⟨heq, hquote, hbackslash, _⟩ | ⟨letter, heq, _⟩ | ⟨heq, _⟩
  · rw [heq]
    exact .plain hquote hbackslash .nil
  · rw [heq]
    exact .escape letter .nil
  · rw [heq]
    exact .escape 'u' (.of_plain fun d hd => plain_of_mem_hexDigits hd)

theorem stringBody_flatMap (text : Text) : StringBody (text.flatMap (stringChar false)) := by
  induction text with
  | nil => exact .nil
  | cons c text ih => exact (stringBody_stringChar c).append ih

/-- The reader takes the code point of a control character back from its digits. -/
theorem exists_digits_of_unitEscape {unit : Nat} (h : unit < 0x20) :
    ∃ a b c d, unitEscape unit = ['\\', 'u', a, b, c, d] ∧ hexUnit? a b c d = some unit := by
  have hread : ∀ k < 0x20, hexUnit? ((unitEscape k).getD 2 ' ') ((unitEscape k).getD 3 ' ')
      ((unitEscape k).getD 4 ' ') ((unitEscape k).getD 5 ' ') = some k := by decide
  exact ⟨_, _, _, _, rfl, hread unit h⟩

/-- A control character is determined by the digits of its code point. -/
theorem unitEscape_append_inj {m n : Nat} {x y : Text} (hm : m < 0x20) (hn : n < 0x20)
    (h : unitEscape m ++ x = unitEscape n ++ y) : m = n ∧ x = y := by
  obtain ⟨a, b, c, d, hdigits, hread⟩ := exists_digits_of_unitEscape hm
  obtain ⟨a', b', c', d', hdigits', hread'⟩ := exists_digits_of_unitEscape hn
  rw [hdigits, hdigits'] at h
  simp only [List.cons_append, List.nil_append, List.cons.injEq, true_and] at h
  obtain ⟨rfl, rfl, rfl, rfl, hrest⟩ := h
  exact ⟨Option.some.inj (hread.symm.trans hread'), hrest⟩

/-- The first character of a string is determined by how it is written. -/
theorem stringChar_append_inj {c d : Char} {x y : Text}
    (h : stringChar false c ++ x = stringChar false d ++ y) : c = d ∧ x = y := by
  -- no character is written as the letter `u` behind a backslash
  have hu : escaped? 'u' = none := rfl
  rcases stringChar_cases c with ⟨hc, _, hc', _⟩ | ⟨e, hc, he, _⟩ | ⟨hc, hclow⟩ <;>
    rcases stringChar_cases d with ⟨hd, _, hd', _⟩ | ⟨f, hd, hf, _⟩ | ⟨hd, hdlow⟩ <;>
    rw [hc, hd] at h
  · exact ⟨(List.cons.inj h).1, (List.cons.inj h).2⟩
  · exact absurd (List.cons.inj h).1 hc'
  · exact absurd (List.cons.inj h).1 hc'
  · exact absurd (List.cons.inj h).1.symm hd'
  · obtain ⟨rfl, hrest⟩ := List.cons.inj (List.cons.inj h).2
    rw [he] at hf
    exact ⟨Option.some.inj hf, hrest⟩
  · rw [(List.cons.inj (List.cons.inj h).2).1, hu] at he
    cases he
  · exact absurd (List.cons.inj h).1.symm hd'
  · rw [← (List.cons.inj (List.cons.inj h).2).1, hu] at hf
    cases hf
  · obtain ⟨hcode, hrest⟩ := unitEscape_append_inj hclow hdlow h
    exact ⟨Char.toNat_inj.1 hcode, hrest⟩

/-- Different texts are written as different strings. -/
theorem writeString_injective {s t : Text} (h : writeString false s = writeString false t) :
    s = t := by
  have hne (c : Char) (text : Text) : [] ≠ (c :: text).flatMap (stringChar false) := by
    rw [List.flatMap_cons]
    rcases stringChar_cases c with ⟨hc, _⟩ | ⟨e, hc, _⟩ | ⟨hc, _⟩ <;>
      rw [hc] <;> exact (List.cons_ne_nil _ _).symm
  have hbody : s.flatMap (stringChar false) = t.flatMap (stringChar false) :=
    List.append_cancel_right (List.cons.inj h).2
  clear h
  induction s generalizing t with
  | nil =>
    rcases t with _ | ⟨d, t⟩
    · rfl
    · exact absurd hbody (hne d t)
  | cons c s ih =>
    rcases t with _ | ⟨d, t⟩
    · exact absurd hbody.symm (hne c s)
    · rw [List.flatMap_cons, List.flatMap_cons] at hbody
      obtain ⟨rfl, hrest⟩ := stringChar_append_inj hbody
      rw [ih hrest]

theorem isToken_writeString (text : Text) : IsToken (writeString false text) :=
  .string (stringBody_flatMap text)

/-! ## The tokens of a value -/

mutual

/-- The tokens of the text of a value. -/
def tokens : Json → List Text
  | .null => ["null".toList]
  | .bool b => [(Json.bool b).write compact]
  | .int i => [Text.ofInt i]
  | .float x => [x.write Binary64.jsonFormat]
  | .string s => [writeString false s]
  | .array values => enclosed '[' ']' (itemTokens values)
  | .object entries => enclosed '{' '}' (memberTokens entries)

/-- The tokens of each item of an array. -/
def itemTokens : List Json → List (List Text)
  | [] => []
  | value :: values => value.tokens :: itemTokens values

/-- The tokens of each member of an object. -/
def memberTokens : List (Text × Json) → List (List Text)
  | [] => []
  | (key, value) :: entries =>
      (writeString false key :: [':'] :: value.tokens) :: memberTokens entries

end

theorem itemTokens_eq_map (values : List Json) : itemTokens values = values.map tokens := by
  induction values with
  | nil => rfl
  | cons value values ih => rw [itemTokens, ih, List.map_cons]

/-- The tokens of a member of an object. -/
def entryTokens (entry : Text × Json) : List Text :=
  writeString false entry.1 :: [':'] :: entry.2.tokens

theorem memberTokens_eq_map (entries : List (Text × Json)) :
    memberTokens entries = entries.map entryTokens := by
  induction entries with
  | nil => rfl
  | cons entry entries ih => rw [memberTokens, ih, List.map_cons, entryTokens]

end Json

/-! ## Bare words -/

theorem delimits_of_isDigit {c : Char} (h : Text.isDigit c = true) : delimits c = false := by
  have hrange : '0'.toNat ≤ c.toNat ∧ c.toNat ≤ '9'.toNat := by
    rwa [Text.isDigit, Bool.and_eq_true, decide_eq_true_eq, decide_eq_true_eq] at h
  have hdigits : ∀ n ≤ '9'.toNat, '0'.toNat ≤ n → delimits (Char.ofNat n) = false := by decide
  rw [← Char.ofNat_toNat c]
  exact hdigits c.toNat hrange.2 hrange.1

/-- Numbers are bare words. -/
theorem bare_of_matches_numberValue {s : Text} (h : Regex.numberValue.Matches s) : Bare s := by
  constructor
  · rintro rfl
    have hmatch := Regex.isMatch_iff_matches.2 h
    exact absurd hmatch (by decide)
  · intro c hc
    -- every character is one that some part of the expression takes
    have huses := h.uses hc
    simp only [Regex.numberValue, Regex.sequence, Regex.digit, Regex.Uses] at huses
    have heither {a b : Char} (hboth : (CharClass.either a b).has c = true) : c = a ∨ c = b := by
      simpa [CharClass.has] using hboth
    rcases huses with rfl | (rfl | hfirst | hdigit) | (rfl | hdigit) | hletter | hsign | hdigit
    · decide
    · decide
    · have hrange := hfirst
      rw [CharClass.has, Bool.and_eq_true, decide_eq_true_eq, decide_eq_true_eq] at hrange
      have hzero : '0'.toNat ≤ '1'.toNat := by decide
      apply delimits_of_isDigit
      rw [Text.isDigit, Bool.and_eq_true, decide_eq_true_eq, decide_eq_true_eq]
      omega
    · exact delimits_of_isDigit hdigit
    · decide
    · exact delimits_of_isDigit hdigit
    · rcases heither hletter with rfl | rfl <;> decide
    · rcases heither hsign with rfl | rfl <;> decide
    · exact delimits_of_isDigit hdigit

theorem bare_write (x : Binary64) : Bare (x.write Binary64.jsonFormat) := by
  rcases x with ⟨negative, mantissa, exponent⟩ | negative | _
  · exact bare_of_matches_numberValue (matches_write rfl)
  · cases negative with
    | true => exact bare_of_any (by decide) (by decide)
    | false => exact bare_of_any (by decide) (by decide)
  · exact bare_of_any (by decide) (by decide)

theorem bare_write_bool (b : Bool) : Bare ((Json.bool b).write Json.compact) := by
  cases b with
  | true => exact bare_of_any (by decide) (by decide)
  | false => exact bare_of_any (by decide) (by decide)

/-- The tokens of a value can be told apart. -/
theorem Json.lexical_tokens (value : Json) : Lexical value.tokens := by
  induction value using Json.rec' with
  | null =>
    have hnull : Bare "null".toList := bare_of_any (by decide) (by decide)
    exact lexical_singleton hnull.isToken
  | bool b => exact lexical_singleton (bare_write_bool b).isToken
  | int i => exact lexical_singleton (bare_of_matches_numberValue (matches_ofInt i)).isToken
  | float x => exact lexical_singleton (bare_write x).isToken
  | string text => exact lexical_singleton (isToken_writeString text)
  | array items ih =>
    rw [tokens, itemTokens_eq_map]
    apply lexical_enclosed (by decide) (by decide)
    intro part hpart
    obtain ⟨item, hitem, rfl⟩ := List.mem_map.1 hpart
    exact ih item hitem
  | object entries ih =>
    rw [tokens, memberTokens_eq_map]
    apply lexical_enclosed (by decide) (by decide)
    intro part hpart
    obtain ⟨entry, hentry, rfl⟩ := List.mem_map.1 hpart
    have hkey := lexical_singleton (isToken_writeString entry.1)
    exact hkey.append_mark (by decide) (ih entry hentry)

/-! ## The text of a value -/

theorem laidOut_joinWith {parts : List (List Text)} {texts : List Text} (hne : parts ≠ [])
    (h : List.Forall₂ LaidOut parts texts) :
    LaidOut (commaJoined parts) (Text.joinWith [',', ' '] texts) := by
  induction h with
  | nil => exact absurd rfl hne
  | @cons part text parts texts hpart hparts ih =>
    cases hparts with
    | nil => exact hpart
    | @cons next nextText parts texts =>
      have hrest := ih (List.cons_ne_nil next parts)
      have hcomma := hrest.cons [','] [' '] allBlank_space
      have hboth := hpart.append allBlank_nil hcomma
      rw [Text.joinWith, List.append_assoc]
      exact hboth

theorem laidOut_bracketed {opening closing : Char} {parts : List (List Text)} {texts : List Text}
    (level : Nat) (h : List.Forall₂ LaidOut parts texts) :
    LaidOut (enclosed opening closing parts)
      (Json.bracketed Json.compact level opening closing texts) := by
  have hclosing := LaidOut.last [closing]
  cases h with
  | nil => exact hclosing.cons [opening] [] allBlank_nil
  | @cons part text parts texts hpart hparts =>
    have hitems := laidOut_joinWith (List.cons_ne_nil part parts) (.cons hpart hparts)
    have hclosed := hitems.append allBlank_nil hclosing
    have hopened := hclosed.cons [opening] [] allBlank_nil
    rw [Json.bracketed, if_neg (by simp), Json.lineBreak, List.append_assoc]
    exact hopened

theorem writeItems_eq_map (layout : Json.Layout) (level : Nat) (values : List Json) :
    Json.writeItems layout level values = values.map (Json.writeAt layout level) := by
  induction values with
  | nil => rfl
  | cons value values ih => rw [Json.writeItems, ih, List.map_cons]

theorem writeMembers_eq_map (layout : Json.Layout) (level : Nat) (entries : List (Text × Json)) :
    Json.writeMembers layout level entries = entries.map fun entry =>
      Json.writeString layout.asciiOnly entry.1 ++
        ':' :: ' ' :: Json.writeAt layout level entry.2 := by
  induction entries with
  | nil => rfl
  | cons entry entries ih => rw [Json.writeMembers, ih, List.map_cons]

/-- The text of a value is made of the value's tokens. -/
theorem laidOut_writeAt (value : Json) (level : Nat) :
    LaidOut value.tokens (Json.writeAt Json.compact level value) := by
  induction value using Json.rec' generalizing level with
  | null => exact .last _
  | bool b => cases b <;> exact .last _
  | int i => exact .last _
  | float x => exact .last _
  | string text => exact .last _
  | array items ih =>
    have hitems : List.Forall₂ LaidOut (Json.itemTokens items)
        (Json.writeItems Json.compact (level + 1) items) := by
      rw [Json.itemTokens_eq_map, writeItems_eq_map, List.forall₂_map_left_iff,
        List.forall₂_map_right_iff, List.forall₂_same]
      exact fun item hitem => ih item hitem (level + 1)
    exact laidOut_bracketed level hitems
  | object entries ih =>
    have hentries : List.Forall₂ LaidOut (Json.memberTokens entries)
        (Json.writeMembers Json.compact (level + 1) entries) := by
      rw [Json.memberTokens_eq_map, writeMembers_eq_map, List.forall₂_map_left_iff,
        List.forall₂_map_right_iff, List.forall₂_same]
      intro entry hentry
      have hvalue :=
        (ih entry hentry (level + 1)).cons [':'] [' '] allBlank_space
      exact hvalue.cons (Json.writeString false entry.1) [] allBlank_nil
    exact laidOut_bracketed level hentries

theorem laidOut_write (value : Json) : LaidOut value.tokens (value.write Json.compact) :=
  laidOut_writeAt value 0

end DocShape
