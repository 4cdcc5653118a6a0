import DocShape.Proofs.PatternReading
import Mathlib.Computability.Language

/-!
# What a pattern matches, read off its characters

A pattern is read once, from the front, and what has been read is kept as languages: the choices
before the last bar, the parts behind it, and the latest part by itself, since an operator can
follow it. The notation is that of single characters, characters behind a backslash, groups, bars,
`*` and `?`, and a `?` behind another operator makes that one lazy, which does not change what is
matched from end to end. A pattern that is read to its end has a language (`Meaning.meaning?`), and
any other is not valid.

What a letter or a digit means behind a backslash is a parameter (`Meaning.Escapes`): `\s` is given,
and other characters stand for themselves there. Scope: a backslash takes one character with it, and
what both match depends on nothing around them.

The texts of the readable expressions of this notation have the languages of the expressions
(`Meaning.meaning?_text`).
-/

set_option autoImplicit false

open scoped Computability

namespace DocShape.Meaning

/-! ## The reader -/

/-- The blanks, one character each. -/
def blanks : Language Char := {text | ∃ c, text = [c] ∧ Text.isBlank c = true}

/-- What characters mean behind a backslash. Letters and digits need not mean anything. -/
structure Escapes where
  /-- What a character and the backslash in front of it match. -/
  means? : Char → Option (Language Char)
  means?_mark : ∀ c, c.isAlphanum = false → means? c = some {[c]}
  means?_blank : means? 's' = some blanks

/-- The only letter with a meaning is that of the blanks. -/
def Escapes.basic : Escapes where
  means? c :=
    if c = 's' then some blanks
    else if c.isAlphanum then none
    else some {[c]}
  means?_mark c h := by
    have hs : c ≠ 's' := by
      rintro rfl
      exact absurd h (by decide)
    rw [if_neg hs, h, if_neg Bool.false_ne_true]
  means?_blank := if_pos rfl

/-- What an operator can follow. -/
inductive Latest where
  /-- No operator can follow. -/
  | nothing
  /-- Every operator can follow the part, which is not in the parts before it. -/
  | part (language : Language Char)
  /-- The mark of a lazy operator can follow. -/
  | operated

/-- What has been read of a group that is open. -/
structure Level where
  /-- The choices before the last bar. -/
  choices : Language Char
  /-- The parts after it, but for the latest if an operator can follow it. -/
  front : Language Char
  latest : Latest

namespace Level

/-- Before the first part, after some choices. -/
def fresh (choices : Language Char) : Level := ⟨choices, 1, .nothing⟩

/-- The parts after the last bar. -/
def parts (level : Level) : Language Char :=
  match level.latest with
  | .part language => level.front * language
  | _ => level.front

/-- All that has been read. -/
def language (level : Level) : Language Char := level.choices + level.parts

/-- A part is read. -/
def push (level : Level) (part : Language Char) : Level :=
  ⟨level.choices, level.parts, .part part⟩

/-- The latest part is repeated. -/
def repeat? (level : Level) : Option Level :=
  match level.latest with
  | .part part => some ⟨level.choices, level.front * part∗, .operated⟩
  | _ => none

/-- The latest part is made optional, or the operator behind it is made lazy. -/
def optional? (level : Level) : Option Level :=
  match level.latest with
  | .part part => some ⟨level.choices, level.front * (1 + part), .operated⟩
  | .operated => some ⟨level.choices, level.front, .nothing⟩
  | .nothing => none

end Level

/-- The reader inside of some groups, the innermost one apart. -/
structure Reader where
  /-- Whether the next character is behind a backslash. -/
  escaped : Bool
  level : Level
  outer : List Level

/-- The characters that mean something else in patterns. -/
def reserved : List Char := ['[', '\x7b', '+', '.', '^', '$']

namespace Reader

variable (escapes : Escapes)

/-- A character that is not behind a backslash is read. -/
def plainStep (level : Level) (outer : List Level) (c : Char) : Option Reader :=
  match c with
  | '\\' => some ⟨true, level, outer⟩
  | '(' => some ⟨false, .fresh 0, level :: outer⟩
  | ')' =>
      match outer with
      | [] => none
      | around :: outer => some ⟨false, around.push level.language, outer⟩
  | '|' => some ⟨false, .fresh level.language, outer⟩
  | '*' => level.repeat?.map fun level => ⟨false, level, outer⟩
  | '?' => level.optional?.map fun level => ⟨false, level, outer⟩
  | c => if c ∈ reserved then none else some ⟨false, level.push {[c]}, outer⟩

/-- A character is read. -/
def step (reader : Reader) (c : Char) : Option Reader :=
  if reader.escaped then
    (escapes.means? c).map fun part => ⟨false, reader.level.push part, reader.outer⟩
  else plainStep reader.level reader.outer c

/-- A text is read. -/
def run (reader : Reader) (text : Text) : Option Reader := text.foldlM (step escapes) reader

/-- The language when all groups are closed. -/
def finish? (reader : Reader) : Option (Language Char) :=
  match reader.escaped, reader.outer with
  | false, [] => some reader.level.language
  | _, _ => none

/-- Before the first character. -/
def start : Reader := ⟨false, .fresh 0, []⟩

variable {escapes}

@[simp] theorem run_nil (reader : Reader) : reader.run escapes [] = some reader := rfl

theorem run_cons (reader : Reader) (c : Char) (text : Text) :
    reader.run escapes (c :: text) = (reader.step escapes c).bind (run escapes · text) :=
  List.foldlM_cons

theorem run_append (reader : Reader) (s t : Text) :
    reader.run escapes (s ++ t) = (reader.run escapes s).bind (run escapes · t) :=
  List.foldlM_append

theorem step_plain (level : Level) (outer : List Level) (c : Char) :
    step escapes ⟨false, level, outer⟩ c = plainStep level outer c := rfl

/-- A backslash and the character behind it are one part. -/
theorem run_backslash (level : Level) (outer : List Level) (c : Char) (text : Text) :
    run escapes ⟨false, level, outer⟩ ('\\' :: c :: text) =
      (escapes.means? c).bind fun part => run escapes ⟨false, level.push part, outer⟩ text := by
  have hbackslash : step escapes ⟨false, level, outer⟩ '\\' = some ⟨true, level, outer⟩ := rfl
  have hbehind : step escapes ⟨true, level, outer⟩ c =
      (escapes.means? c).map fun part => ⟨false, level.push part, outer⟩ := rfl
  rw [run_cons, hbackslash, Option.bind_some, run_cons, hbehind, Option.bind_map]
  rfl

end Reader

/-- What a pattern matches from end to end, if it is valid. -/
def meaning? (escapes : Escapes) (pattern : Text) : Option (Language Char) :=
  (Reader.start.run escapes pattern).bind Reader.finish?

end DocShape.Meaning

namespace DocShape.Regex

/-! ## The languages of expressions -/

/-- The texts an expression matches, as a language. -/
def language (r : Regex) : Language Char := {text | r.Matches text}

theorem mem_language_iff {r : Regex} {text : Text} : text ∈ r.language ↔ r.Matches text := Iff.rfl

theorem language_empty : language .empty = 1 :=
  Language.ext fun _ => matches_empty_iff

theorem language_literal (c : Char) : language (.literal c) = {[c]} :=
  Language.ext fun _ => matches_literal_iff

theorem language_escaped (c : Char) : language (.escaped c) = {[c]} :=
  Language.ext fun _ => matches_escaped_iff

theorem language_seq (first second : Regex) :
    language (.seq first second) = first.language * second.language := by
  refine Language.ext fun text => ?_
  rw [mem_language_iff, matches_seq_iff, Language.mem_mul]
  constructor
  · rintro ⟨s, t, hfirst, hsecond, rfl⟩
    exact ⟨s, hfirst, t, hsecond, rfl⟩
  · rintro ⟨s, hfirst, t, hsecond, rfl⟩
    exact ⟨s, t, hfirst, hsecond, rfl⟩

theorem language_alt (first second : Regex) :
    language (.alt first second) = first.language + second.language :=
  Language.ext fun _ => matches_alt_iff

theorem language_group (inner : Regex) : language (.group inner) = inner.language :=
  Language.ext fun _ => matches_group_iff

theorem language_optional (inner : Regex) : language (.optional inner) = 1 + inner.language :=
  Language.ext fun _ => matches_optional_iff

theorem language_star (inner : Regex) : language (.star inner) = inner.language∗ := by
  refine Language.ext fun text => ?_
  rw [mem_language_iff, Language.mem_kstar]
  constructor
  · intro h
    generalize hstar : Regex.star inner = looped at h
    induction h with
    | starDone => exact ⟨[], rfl, fun _ hpiece => absurd hpiece List.not_mem_nil⟩
    | @starMore inner' s t hinner _ _ ih =>
      cases hstar
      obtain ⟨pieces, rfl, hpieces⟩ := ih rfl
      exact ⟨s :: pieces, rfl, List.forall_mem_cons.2 ⟨hinner, hpieces⟩⟩
    | _ => cases hstar
  · rintro ⟨pieces, rfl, hpieces⟩
    induction pieces with
    | nil => exact .starDone
    | cons piece pieces ih =>
      rw [List.forall_mem_cons] at hpieces
      exact .starMore hpieces.1 (ih hpieces.2)

/-- The expressions of single characters, the blanks, groups, choices, `*` and `?`. -/
def isBasic : Regex → Bool
  | .empty | .literal _ | .escaped _ => true
  | .oneOf characters => characters == .blank
  | .seq first second | .alt first second => first.isBasic && second.isBasic
  | .group inner | .star inner | .optional inner => inner.isBasic
  | .plus _ => false

end DocShape.Regex

namespace DocShape.Meaning

open Regex

variable {escapes : Escapes}

/-! ## Expressions are read with their languages -/

/-- Reading the text of an expression adds its language to the parts, as a single part if it is an
atom. -/
def Adds (escapes : Escapes) (r : Regex) : Prop :=
  ∀ level outer, ∃ next : Level,
    Reader.run escapes ⟨false, level, outer⟩ r.text = some ⟨false, next, outer⟩ ∧
      next.choices = level.choices ∧ next.parts = level.parts * r.language ∧
      (r.isAtom = true → next = level.push r.language)

/-- Reading the text of an expression after a bar, or at the front, adds its language to the
choices. -/
def Completes (escapes : Escapes) (r : Regex) : Prop :=
  ∀ choices outer, ∃ next : Level,
    Reader.run escapes ⟨false, .fresh choices, outer⟩ r.text = some ⟨false, next, outer⟩ ∧
      next.language = choices + r.language

theorem Adds.completes {r : Regex} (h : Adds escapes r) : Completes escapes r := by
  intro choices outer
  obtain ⟨next, hrun, hchoices, hparts, -⟩ := h (.fresh choices) outer
  refine ⟨next, hrun, ?_⟩
  rw [Level.language, hchoices, hparts]
  exact congrArg (choices + ·) (one_mul r.language)

/-- A part that is read as a whole. -/
theorem Adds.of_push {r : Regex}
    (h : ∀ level outer, Reader.run escapes ⟨false, level, outer⟩ r.text =
      some ⟨false, level.push r.language, outer⟩) : Adds escapes r :=
  fun level outer => ⟨_, h level outer, rfl, rfl, fun _ => rfl⟩

theorem adds_empty : Adds escapes .empty := by
  intro level outer
  refine ⟨level, rfl, rfl, ?_, fun hatom => absurd hatom Bool.false_ne_true⟩
  rw [language_empty, mul_one]

theorem reserved_subset_marks : reserved ⊆ Regex.marks := by decide

theorem adds_literal {c : Char} (hc : c ∉ Regex.marks) : Adds escapes (.literal c) := by
  refine .of_push fun level outer => ?_
  have hstep : Reader.plainStep level outer c = some ⟨false, level.push {[c]}, outer⟩ := by
    have hreserved : c ∉ reserved := fun h => hc (reserved_subset_marks h)
    unfold Reader.plainStep
    split
    case h_7 => rw [if_neg hreserved]
    -- The other characters with a step of their own are marks.
    all_goals exact absurd (by decide) hc
  rw [text, Reader.run_cons, Reader.step_plain, hstep, language_literal]
  rfl

theorem adds_escaped {c : Char} (hc : c.isAlphanum = false) : Adds escapes (.escaped c) := by
  refine .of_push fun level outer => ?_
  rw [text, Reader.run_backslash, escapes.means?_mark c hc, language_escaped]
  rfl

theorem adds_blank : Adds escapes (.oneOf .blank) := by
  refine .of_push fun level outer => ?_
  have hblank : language (.oneOf .blank) = blanks :=
    Language.ext fun _ => matches_oneOf_iff
  rw [text, CharClass.text, Reader.run_backslash, escapes.means?_blank, hblank]
  rfl

theorem Adds.seq {first second : Regex} (h : Adds escapes first) (h' : Adds escapes second) :
    Adds escapes (.seq first second) := by
  intro level outer
  obtain ⟨middle, hrun, hchoices, hparts, -⟩ := h level outer
  obtain ⟨next, hrun', hchoices', hparts', -⟩ := h' middle outer
  refine ⟨next, ?_, hchoices'.trans hchoices, ?_, fun hatom => absurd hatom Bool.false_ne_true⟩
  · rw [text, Reader.run_append, hrun, Option.bind_some, hrun']
  · rw [hparts', hparts, language_seq, mul_assoc]

theorem Completes.alt {first second : Regex} (h : Completes escapes first)
    (h' : Completes escapes second) : Completes escapes (.alt first second) := by
  intro choices outer
  obtain ⟨middle, hrun, hmiddle⟩ := h choices outer
  obtain ⟨next, hrun', hnext⟩ := h' middle.language outer
  refine ⟨next, ?_, ?_⟩
  · have hbar : Reader.step escapes ⟨false, middle, outer⟩ '|' =
        some ⟨false, .fresh middle.language, outer⟩ := rfl
    rw [text, Reader.run_append, hrun, Option.bind_some, Reader.run_cons, hbar, Option.bind_some,
      hrun']
  · rw [hnext, hmiddle, language_alt, add_assoc]

/-- A choice in a group is read on a level of its own. -/
theorem Completes.group {inner : Regex} (h : Completes escapes inner) :
    Adds escapes (.group inner) := by
  refine .of_push fun level outer => ?_
  obtain ⟨next, hrun, hnext⟩ := h 0 (level :: outer)
  have hopening : Reader.step escapes ⟨false, level, outer⟩ '(' =
      some ⟨false, .fresh 0, level :: outer⟩ := rfl
  have hclosing : Reader.run escapes ⟨false, next, level :: outer⟩ [')'] =
      some ⟨false, level.push next.language, outer⟩ := rfl
  rw [text, List.cons_append, Reader.run_cons, hopening, Option.bind_some, Reader.run_append, hrun,
    Option.bind_some, hclosing, hnext, zero_add, language_group]

/-- An operator is read with the atom in front of it. -/
theorem Adds.operated {inner r : Regex} {mark : Char} (h : Adds escapes inner)
    (hatom : inner.isAtom = true) (htext : r.text = inner.text ++ [mark]) (hr : r.isAtom = false)
    (hstep : ∀ level outer,
      Reader.step escapes ⟨false, Level.push level inner.language, outer⟩ mark =
        some ⟨false, ⟨level.choices, level.parts * r.language, .operated⟩, outer⟩) :
    Adds escapes r := by
  intro level outer
  obtain ⟨next, hrun, -, -, hpush⟩ := h level outer
  have hnext := hpush hatom
  subst hnext
  refine ⟨⟨level.choices, level.parts * r.language, .operated⟩, ?_, rfl, rfl, ?_⟩
  · rw [htext, Reader.run_append, hrun, Option.bind_some, Reader.run_cons, hstep]
    rfl
  · rw [hr]
    exact fun hatom => absurd hatom Bool.false_ne_true

theorem Adds.star {inner : Regex} (h : Adds escapes inner) (hatom : inner.isAtom = true) :
    Adds escapes (.star inner) := by
  refine h.operated hatom rfl rfl fun level outer => ?_
  rw [language_star]
  rfl

theorem Adds.optional {inner : Regex} (h : Adds escapes inner) (hatom : inner.isAtom = true) :
    Adds escapes (.optional inner) := by
  refine h.operated hatom rfl rfl fun level outer => ?_
  rw [language_optional]
  rfl

/-- A readable expression of the notation completes a choice, and without a bar outside of its
groups it adds its language to the parts. -/
theorem completes_and_adds {r : Regex} (h : r.Readable) (hbasic : r.isBasic = true) :
    Completes escapes r ∧ (r.isChoice = false → Adds escapes r) := by
  -- All but a choice are read part by part, and that is how they complete a choice.
  have hread {r : Regex} (h : Adds escapes r) :
      Completes escapes r ∧ (r.isChoice = false → Adds escapes r) := ⟨h.completes, fun _ => h⟩
  induction r with
  | empty => exact hread adds_empty
  | literal c => exact hread (adds_literal h)
  | escaped c => exact hread (adds_escaped h)
  | oneOf characters =>
    rw [isBasic, beq_iff_eq] at hbasic
    subst hbasic
    exact hread adds_blank
  | seq first second ih ih' =>
    rw [isBasic, Bool.and_eq_true] at hbasic
    obtain ⟨⟨hfirst, hchoice⟩, hsecond, hchoice'⟩ := h
    exact hread (((ih hfirst hbasic.1).2 hchoice).seq ((ih' hsecond hbasic.2).2 hchoice'))
  | alt first second ih ih' =>
    rw [isBasic, Bool.and_eq_true] at hbasic
    refine ⟨(ih h.1 hbasic.1).1.alt (ih' h.2 hbasic.2).1, ?_⟩
    intro hchoice
    cases hchoice
  | group inner ih => exact hread (ih h hbasic).1.group
  | star inner ih => exact hread (((ih h.1 hbasic).2 (isChoice_of_isAtom h.2)).star h.2)
  | plus inner ih => cases hbasic
  | optional inner ih => exact hread (((ih h.1 hbasic).2 (isChoice_of_isAtom h.2)).optional h.2)

/-- The text of a readable expression of the notation is a valid pattern with the language of the
expression. -/
theorem meaning?_text (escapes : Escapes) {r : Regex} (h : r.Readable) (hbasic : r.isBasic = true) :
    meaning? escapes r.text = some r.language := by
  have hread : Completes escapes r := (completes_and_adds h hbasic).1
  obtain ⟨next, hrun, hnext⟩ := hread 0 []
  rw [meaning?, Reader.start, hrun, Option.bind_some, Reader.finish?, hnext, zero_add]

end DocShape.Meaning
