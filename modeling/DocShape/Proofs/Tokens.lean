import DocShape.Text.Blank
import Mathlib.Data.List.Chain

/-!
# Tokens and the blanks between them

A JSON text is a list of tokens with any blanks between neighbours (`LaidOut`). A token is one of
the six punctuation marks, a string in its quotation marks, or a bare word: a number, `true`,
`false` or `null`. A text tells its tokens as long as no two bare words are neighbours (`Lexical`):
two such lists of tokens that make up the same text are the same list (`LaidOut.unique`).

The argument goes from the front. A mark and a string end by themselves, a bare word ends where a
character stands that no bare word holds, and no token begins with a blank; so the first token and
the blanks behind it are determined (`IsToken.append_inj`).
-/

set_option autoImplicit false

namespace DocShape

/-! ## A text made of tokens -/

/-- A text of blanks. -/
def AllBlank (gap : Text) : Prop := ∀ c ∈ gap, Text.isBlank c = true

theorem allBlank_nil : AllBlank [] := List.forall_mem_nil _

theorem allBlank_space : AllBlank [' '] := List.forall_mem_singleton.2 rfl

theorem AllBlank.append {s t : Text} (hs : AllBlank s) (ht : AllBlank t) : AllBlank (s ++ t) :=
  List.forall_mem_append.2 ⟨hs, ht⟩

/-- A text that consists of tokens, with any number of blanks between neighbours. -/
inductive LaidOut : List Text → Text → Prop
  | last (token : Text) : LaidOut [token] token
  | cons {tokens : List Text} {text : Text} (token gap : Text) :
      AllBlank gap → LaidOut tokens text → LaidOut (token :: tokens) (token ++ (gap ++ text))

theorem LaidOut.append {front back : List Text} {s gap t : Text} (hs : LaidOut front s)
    (hgap : AllBlank gap) (ht : LaidOut back t) : LaidOut (front ++ back) (s ++ (gap ++ t)) := by
  induction hs with
  | last token => exact .cons token gap hgap ht
  | cons token between hbetween _ ih =>
    rw [List.append_assoc, List.append_assoc]
    exact .cons token between hbetween ih

theorem LaidOut.split {front back : List Text} {text : Text} (hfront : front ≠ [])
    (hback : back ≠ []) (h : LaidOut (front ++ back) text) :
    ∃ s gap t, LaidOut front s ∧ AllBlank gap ∧ LaidOut back t ∧
      text = s ++ (gap ++ t) := by
  induction front generalizing text with
  | nil => exact absurd rfl hfront
  | cons token front ih =>
    rcases front with _ | ⟨next, front⟩
    · cases h with
      | last => exact absurd rfl hback
      | cons _ gap hgap ht => exact ⟨token, gap, _, .last token, hgap, ht, rfl⟩
    · cases h with
      | cons _ between hbetween hrest =>
        obtain ⟨s, gap, t, hs, hgap, ht, rfl⟩ := ih (List.cons_ne_nil next front) hrest
        refine ⟨token ++ (between ++ s), gap, t, .cons token between hbetween hs, hgap, ht, ?_⟩
        simp only [List.append_assoc]

/-- The text begins with the first token. -/
theorem LaidOut.head {tokens : List Text} {text : Text} (h : LaidOut tokens text) :
    ∃ token more rest, tokens = token :: more ∧ text = token ++ rest := by
  cases h with
  | last token => exact ⟨text, [], [], rfl, (List.append_nil text).symm⟩
  | cons token gap _ _ => exact ⟨token, _, _, rfl, rfl⟩

/-! ## What a token is -/

/-- The punctuation marks. -/
def marks : Text := "[]\x7b\x7d,:".toList

/-- Whether a character ends a bare word. -/
def delimits (c : Char) : Bool := Text.isBlank c || marks.contains c || c == '"'

/-- A bare word. -/
def Bare (token : Text) : Prop := token ≠ [] ∧ ∀ c ∈ token, delimits c = false

/-- What stands between the quotation marks of a string: a quotation mark stands behind a backslash
there. -/
inductive StringBody : Text → Prop
  | nil : StringBody []
  | plain {c : Char} {body : Text} :
      c ≠ '"' → c ≠ '\\' → StringBody body → StringBody (c :: body)
  | escape {body : Text} (c : Char) : StringBody body → StringBody ('\\' :: c :: body)

/-- A token of a JSON text. -/
inductive IsToken : Text → Prop
  | mark {c : Char} : c ∈ marks → IsToken [c]
  | string {body : Text} : StringBody body → IsToken ('"' :: (body ++ ['"']))
  | bare {c : Char} {rest : Text} : Bare (c :: rest) → IsToken (c :: rest)

theorem not_bare_of_delimits {c : Char} {rest : Text} (hc : delimits c = true) :
    ¬ Bare (c :: rest) := by
  intro hbare
  rw [hbare.2 c List.mem_cons_self] at hc
  exact Bool.false_ne_true hc

/-- A string is no bare word. -/
theorem not_bare_quote (rest : Text) : ¬ Bare ('"' :: rest) := not_bare_of_delimits (by decide)

theorem bare_of_any {token : Text} (hne : token ≠ []) (h : token.any delimits = false) :
    Bare token :=
  ⟨hne, fun c hc => Bool.eq_false_iff.2 (List.any_eq_false.1 h c hc)⟩

theorem Bare.isToken {token : Text} (h : Bare token) : IsToken token := by
  rcases token with _ | ⟨c, rest⟩
  · exact absurd rfl h.1
  · exact .bare h

theorem delimits_of_mem_marks {c : Char} (h : c ∈ marks) : delimits c = true := by
  rw [delimits, List.contains_iff_mem.2 h, Bool.or_true, Bool.true_or]

theorem isBlank_of_mem_marks {c : Char} (h : c ∈ marks) : Text.isBlank c = false := by
  have hmarks : marks.any Text.isBlank = false := by decide
  exact Bool.eq_false_iff.2 (List.any_eq_false.1 hmarks c h)

theorem delimits_of_isBlank {c : Char} (h : Text.isBlank c = true) : delimits c = true := by
  rw [delimits, h, Bool.true_or, Bool.true_or]

/-- No token begins with a blank. -/
theorem IsToken.head {token : Text} (h : IsToken token) :
    ∃ c rest, token = c :: rest ∧ Text.isBlank c = false := by
  cases h with
  | mark hmark => exact ⟨_, [], rfl, isBlank_of_mem_marks hmark⟩
  | string => exact ⟨'"', _, rfl, by decide⟩
  | @bare c rest hbare =>
    refine ⟨c, rest, rfl, ?_⟩
    by_contra hblank
    exact not_bare_of_delimits (delimits_of_isBlank (Bool.of_not_eq_false hblank)) hbare

/-- A token that is not bare begins with a character that ends a bare word. -/
theorem IsToken.delimits_head {token : Text} (h : IsToken token) (hbare : ¬ Bare token) :
    ∃ c rest, token = c :: rest ∧ delimits c = true := by
  cases h with
  | mark hmark => exact ⟨_, [], rfl, delimits_of_mem_marks hmark⟩
  | string => exact ⟨'"', _, rfl, by decide⟩
  | bare h => exact absurd h hbare

/-! ## Tokens can be told apart -/

/-- A text is cut in one way into a front of characters of one sort and a rest that does not begin
with one. -/
theorem append_inj_of_sort {p : Char → Bool} {s t x y : Text} (hs : ∀ c ∈ s, p c = true)
    (ht : ∀ c ∈ t, p c = true) (hx : ∀ c ∈ x.head?, p c = false) (hy : ∀ c ∈ y.head?, p c = false)
    (h : s ++ x = t ++ y) : s = t ∧ x = y := by
  induction s generalizing t with
  | nil =>
    rcases t with _ | ⟨d, t⟩
    · exact ⟨rfl, h⟩
    · have hd := hx d (by rw [← List.nil_append x, h]; rfl)
      rw [ht d List.mem_cons_self] at hd
      exact absurd hd.symm Bool.false_ne_true
  | cons c s ih =>
    rcases t with _ | ⟨d, t⟩
    · have hc := hy c (by rw [← List.nil_append y, ← h]; rfl)
      rw [hs c List.mem_cons_self] at hc
      exact absurd hc.symm Bool.false_ne_true
    · obtain ⟨rfl, hrest⟩ := List.cons.inj h
      rw [List.forall_mem_cons] at hs ht
      obtain ⟨rfl, rfl⟩ := ih hs.2 ht.2 hrest
      exact ⟨rfl, rfl⟩

/-- A string ends at the first quotation mark that does not stand behind a backslash. -/
theorem StringBody.append_inj {s t x y : Text} (hs : StringBody s) (ht : StringBody t)
    (h : s ++ '"' :: x = t ++ '"' :: y) : s = t ∧ x = y := by
  induction hs generalizing t with
  | nil =>
    cases ht with
    | nil => exact ⟨rfl, (List.cons.inj h).2⟩
    | plain hquote => exact absurd (List.cons.inj h).1.symm hquote
    | escape => exact absurd (List.cons.inj h).1 (by decide)
  | plain hquote hbackslash _ ih =>
    cases ht with
    | nil => exact absurd (List.cons.inj h).1 hquote
    | plain _ _ ht =>
      obtain ⟨rfl, hrest⟩ := List.cons.inj h
      obtain ⟨rfl, rfl⟩ := ih ht hrest
      exact ⟨rfl, rfl⟩
    | escape => exact absurd (List.cons.inj h).1 hbackslash
  | escape c _ ih =>
    cases ht with
    | nil => exact absurd (List.cons.inj h).1 (by decide)
    | plain _ hbackslash => exact absurd (List.cons.inj h).1.symm hbackslash
    | escape d ht =>
      obtain ⟨rfl, hrest⟩ := List.cons.inj (List.cons.inj h).2
      obtain ⟨rfl, rfl⟩ := ih ht hrest
      exact ⟨rfl, rfl⟩

/-- The first token of a text is determined by the text, if a bare word is followed by a character
that ends it. -/
theorem IsToken.append_inj {s t x y : Text} (hs : IsToken s) (ht : IsToken t)
    (hx : Bare s → ∀ c ∈ x.head?, delimits c = true)
    (hy : Bare t → ∀ c ∈ y.head?, delimits c = true) (h : s ++ x = t ++ y) : s = t ∧ x = y := by
  -- tokens of two different sorts do not begin with the same character
  have hquote : '"' ∉ marks := by decide
  have hbareMark {c : Char} {rest : Text} (hbare : Bare (c :: rest)) : c ∉ marks := fun hmark =>
    not_bare_of_delimits (delimits_of_mem_marks hmark) hbare
  have hbareQuote {c : Char} {rest : Text} (hbare : Bare (c :: rest)) : c ≠ '"' := by
    intro heq
    subst heq
    exact not_bare_quote rest hbare
  cases hs with
  | @mark c hmark =>
    cases ht with
    | mark =>
      obtain ⟨rfl, rfl⟩ := List.cons.inj h
      exact ⟨rfl, rfl⟩
    | string => exact absurd ((List.cons.inj h).1 ▸ hmark) hquote
    | bare hbare => exact absurd ((List.cons.inj h).1 ▸ hmark) (hbareMark hbare)
  | @string body hbody =>
    cases ht with
    | mark hmark => exact absurd ((List.cons.inj h).1 ▸ hmark) hquote
    | @string body' hbody' =>
      have hrest : body ++ ['"'] ++ x = body' ++ ['"'] ++ y := (List.cons.inj h).2
      rw [List.append_assoc, List.append_assoc] at hrest
      obtain ⟨rfl, rfl⟩ := hbody.append_inj hbody' hrest
      exact ⟨rfl, rfl⟩
    | bare hbare => exact absurd (List.cons.inj h).1.symm (hbareQuote hbare)
  | @bare c rest hbare =>
    cases ht with
    | mark hmark => exact absurd ((List.cons.inj h).1 ▸ hmark) (hbareMark hbare)
    | string => exact absurd (List.cons.inj h).1 (hbareQuote hbare)
    | bare hbare' =>
      have hword {token : Text} (hbare : Bare token) : ∀ c ∈ token, (!delimits c) = true := by
        intro c hc
        rw [hbare.2 c hc]
        rfl
      have hend {rest : Text} (hrest : ∀ c ∈ rest.head?, delimits c = true) :
          ∀ c ∈ rest.head?, (!delimits c) = false := by
        intro c hc
        rw [hrest c hc]
        rfl
      exact append_inj_of_sort (hword hbare) (hword hbare') (hend (hx hbare)) (hend (hy hbare')) h

/-- Tokens that can be told apart in a text: no two bare words are neighbours. -/
def Lexical (tokens : List Text) : Prop :=
  (∀ token ∈ tokens, IsToken token) ∧ tokens.IsChain fun s t => ¬ (Bare s ∧ Bare t)

theorem Lexical.tail {token : Text} {tokens : List Text} (h : Lexical (token :: tokens)) :
    Lexical tokens :=
  ⟨fun t ht => h.1 t (List.mem_cons_of_mem token ht), h.2.tail⟩

/-- What follows a bare word ends it. -/
theorem LaidOut.delimits_gap {token gap text : Text} {tokens : List Text} (hgap : AllBlank gap)
    (h : LaidOut tokens text) (hlexical : Lexical (token :: tokens)) (hbare : Bare token) :
    ∀ c ∈ (gap ++ text).head?, delimits c = true := by
  rcases gap with _ | ⟨d, gap⟩
  · obtain ⟨next, more, rest, rfl, rfl⟩ := h.head
    -- nothing is between them, and then the neighbour is no bare word
    have hnext : ¬ Bare next := by
      intro hbare'
      exact (List.isChain_cons_cons.1 hlexical.2).1 ⟨hbare, hbare'⟩
    have htoken : IsToken next := hlexical.1 next (by simp)
    obtain ⟨c, after, rfl, hc⟩ := htoken.delimits_head hnext
    rintro d hd
    obtain rfl := Option.some.inj hd
    exact hc
  · rintro c hc
    obtain rfl := Option.some.inj hc
    exact delimits_of_isBlank (hgap d List.mem_cons_self)

/-- A text begins with no blank if its tokens are told apart. -/
theorem LaidOut.isBlank_head {tokens : List Text} {text : Text} (h : LaidOut tokens text)
    (hlexical : Lexical tokens) : ∃ c rest, text = c :: rest ∧ Text.isBlank c = false := by
  obtain ⟨token, more, rest, rfl, rfl⟩ := h.head
  obtain ⟨c, after, rfl, hc⟩ := (hlexical.1 token List.mem_cons_self).head
  exact ⟨c, after ++ rest, rfl, hc⟩

/-- A text has its tokens in one way. -/
theorem LaidOut.unique {tokens tokens' : List Text} {text : Text} (h : LaidOut tokens text)
    (h' : LaidOut tokens' text) (hlexical : Lexical tokens) (hlexical' : Lexical tokens') :
    tokens = tokens' := by
  have hnone : ∀ c ∈ ([] : Text).head?, delimits c = true := fun c hc => by cases hc
  induction h generalizing tokens' with
  | last token =>
    have htoken := hlexical.1 token List.mem_cons_self
    generalize htext : token = text at h'
    cases h' with
    | last => rfl
    | @cons more after token' gap hgap hafter =>
      -- the first tokens are the same, and only the second reading has more text behind them
      have htoken' := hlexical'.1 token' List.mem_cons_self
      rw [← List.append_nil token] at htext
      obtain ⟨_, hnil⟩ := htoken.append_inj htoken' (fun _ => hnone)
        (fun hbare => hafter.delimits_gap hgap hlexical' hbare) htext
      obtain ⟨c, rest, rfl, _⟩ := hafter.isBlank_head hlexical'.tail
      exact absurd hnil.symm (List.append_ne_nil_of_right_ne_nil gap (List.cons_ne_nil c rest))
  | @cons more after token gap hgap hafter ih =>
    have htoken := hlexical.1 token List.mem_cons_self
    have hend := hafter.delimits_gap hgap hlexical
    obtain ⟨c, rest, hrest, hc⟩ := hafter.isBlank_head hlexical.tail
    generalize htext : token ++ (gap ++ after) = text at h'
    cases h' with
    | last =>
      -- as above, with the readings exchanged
      have htoken' := hlexical'.1 text List.mem_cons_self
      rw [← List.append_nil text] at htext
      obtain ⟨_, hnil⟩ := htoken.append_inj htoken' hend (fun _ => hnone) htext
      rw [hrest] at hnil
      exact absurd hnil (List.append_ne_nil_of_right_ne_nil gap (List.cons_ne_nil c rest))
    | @cons more' after' token' gap' hgap' hafter' =>
      have htoken' := hlexical'.1 token' List.mem_cons_self
      have hend' := hafter'.delimits_gap hgap' hlexical'
      obtain ⟨c', rest', hrest', hc'⟩ := hafter'.isBlank_head hlexical'.tail
      obtain ⟨rfl, hgaps⟩ := htoken.append_inj htoken' hend hend' htext
      -- the blanks end where the next token begins, in both readings
      have hfirst : ∀ d ∈ after.head?, Text.isBlank d = false := by
        rw [hrest]
        rintro d hd
        exact Option.some.inj hd ▸ hc
      have hfirst' : ∀ d ∈ after'.head?, Text.isBlank d = false := by
        rw [hrest']
        rintro d hd
        exact Option.some.inj hd ▸ hc'
      obtain ⟨rfl, rfl⟩ := append_inj_of_sort hgap hgap' hfirst hfirst' hgaps
      rw [ih hafter' hlexical.tail hlexical'.tail]

end DocShape
