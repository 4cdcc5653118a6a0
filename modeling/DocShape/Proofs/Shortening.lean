import DocShape.Proofs.PatternMeaning
import DocShape.Regex.Collapse
import Mathlib.Algebra.Group.Nat.Even
import Mathlib.Order.CompletePartialOrder

/-!
# What shortening a pattern does to its meaning

Patterns are shortened character by character, without a look at the backslashes in front of a
loop. A loop behind another backslash is none: of `\\s*` the first two characters stand for a
backslash, and the others for the letter s any number of times. A blank loop behind it is dropped
all the same.

A valid pattern stays valid (`Meaning.run_collapse`), since what a dropped loop leaves open for the
next character the loop before it leaves open too. It matches no more than before, for reading is
monotone in the languages (`Meaning.Reader.Within.run`) and a blank loop only adds to them. If every
two loops in a row stand behind an even number of backslashes, nothing changes at all
(`Meaning.meaning?_collapse_of_aligned`), since a loop behind a loop adds nothing.
-/

set_option autoImplicit false

open scoped Computability

namespace DocShape.Meaning

open Regex

variable {escapes : Escapes}

/-! ## Reading is monotone -/

/-- The same can follow, and a part is in the other one. -/
inductive Latest.Within : Latest → Latest → Prop
  | nothing : Within .nothing .nothing
  | part {language language' : Language Char} (h : language ≤ language') :
      Within (.part language) (.part language')
  | operated : Within .operated .operated

namespace Latest

@[refl] theorem Within.refl (latest : Latest) : latest.Within latest := by
  cases latest with
  | nothing => exact .nothing
  | part language => exact .part le_rfl
  | operated => exact .operated

@[trans] theorem Within.trans {latest middle other : Latest} (h : latest.Within middle)
    (h' : middle.Within other) : latest.Within other := by
  cases h with
  | nothing => exact h'
  | part hpart =>
    cases h' with
    | part hpart' => exact .part (hpart.trans hpart')
  | operated => exact h'

end Latest

/-- The same can follow, and all that has been read is in what has been read of the other. -/
structure Level.Within (level other : Level) : Prop where
  choices : level.choices ≤ other.choices
  front : level.front ≤ other.front
  latest : level.latest.Within other.latest

/-- The same groups are open, and what has been read of each is in the other. -/
structure Reader.Within (reader other : Reader) : Prop where
  escaped : reader.escaped = other.escaped
  level : reader.level.Within other.level
  outer : List.Forall₂ Level.Within reader.outer other.outer

namespace Level

variable {level other : Level}

@[refl] theorem Within.refl (level : Level) : level.Within level := ⟨le_rfl, le_rfl, .refl _⟩

@[trans] theorem Within.trans {middle : Level} (h : level.Within middle)
    (h' : middle.Within other) : level.Within other :=
  ⟨h.choices.trans h'.choices, h.front.trans h'.front, h.latest.trans h'.latest⟩

theorem within_fresh {choices choices' : Language Char} (h : choices ≤ choices') :
    (fresh choices).Within (fresh choices') := ⟨h, le_rfl, .nothing⟩

theorem Within.parts (h : level.Within other) : level.parts ≤ other.parts := by
  obtain ⟨choices, front, latest⟩ := level
  obtain ⟨choices', front', latest'⟩ := other
  obtain ⟨-, hfront, hlatest⟩ := h
  cases hlatest with
  | nothing => exact hfront
  | part hpart => exact mul_le_mul' hfront hpart
  | operated => exact hfront

theorem Within.language (h : level.Within other) : level.language ≤ other.language :=
  add_le_add h.choices h.parts

theorem Within.push {part part' : Language Char} (h : level.Within other) (hpart : part ≤ part') :
    (level.push part).Within (other.push part') := ⟨h.choices, h.parts, .part hpart⟩

theorem Within.repeat? {next : Level} (h : level.Within other) (hnext : other.repeat? = some next) :
    ∃ short, level.repeat? = some short ∧ short.Within next := by
  obtain ⟨choices, front, latest⟩ := level
  obtain ⟨choices', front', latest'⟩ := other
  obtain ⟨hchoices, hfront, hlatest⟩ := h
  cases hlatest with
  | part hpart =>
    cases hnext
    exact ⟨_, rfl, hchoices, mul_le_mul' hfront (kstar_mono hpart), .operated⟩
  | _ => cases hnext

theorem Within.optional? {next : Level} (h : level.Within other)
    (hnext : other.optional? = some next) :
    ∃ short, level.optional? = some short ∧ short.Within next := by
  obtain ⟨choices, front, latest⟩ := level
  obtain ⟨choices', front', latest'⟩ := other
  obtain ⟨hchoices, hfront, hlatest⟩ := h
  cases hlatest with
  | nothing => cases hnext
  | part hpart =>
    cases hnext
    exact ⟨_, rfl, hchoices, mul_le_mul' hfront (add_le_add le_rfl hpart), .operated⟩
  | operated =>
    cases hnext
    exact ⟨_, rfl, hchoices, hfront, .nothing⟩

end Level

namespace Reader

variable {reader other next : Reader} {text : Text}

@[refl] theorem Within.refl (reader : Reader) : reader.Within reader :=
  ⟨rfl, .refl _, List.forall₂_same.2 fun level _ => .refl level⟩

@[trans] theorem Within.trans {middle : Reader} (h : reader.Within middle)
    (h' : middle.Within other) : reader.Within other := by
  refine ⟨h.escaped.trans h'.escaped, h.level.trans h'.level, ?_⟩
  -- The groups of the three readers are side by side.
  rw [List.forall₂_iff_get]
  obtain ⟨hlength, hwithin⟩ := List.forall₂_iff_get.1 h.outer
  obtain ⟨hlength', hwithin'⟩ := List.forall₂_iff_get.1 h'.outer
  refine ⟨hlength.trans hlength', fun i hi hi'' => ?_⟩
  exact (hwithin i hi (hlength ▸ hi)).trans (hwithin' i (hlength ▸ hi) hi'')

/-- What a plain character leads to is in what it leads to for the other. -/
theorem within_plainStep {level level' : Level} {outer outer' : List Level} {c : Char}
    (hlevel : level.Within level') (houter : List.Forall₂ Level.Within outer outer')
    (hnext : plainStep level' outer' c = some next) :
    ∃ short, plainStep level outer c = some short ∧ short.Within next := by
  -- Which step is taken depends on the character and on what can follow, which is the same.
  unfold plainStep at hnext ⊢
  split at hnext
  · cases hnext
    exact ⟨_, rfl, rfl, hlevel, houter⟩
  · cases hnext
    exact ⟨_, rfl, rfl, Level.within_fresh le_rfl, .cons hlevel houter⟩
  · cases houter with
    | nil => cases hnext
    | cons haround houter =>
      cases hnext
      exact ⟨_, rfl, rfl, haround.push hlevel.language, houter⟩
  · cases hnext
    exact ⟨_, rfl, rfl, Level.within_fresh hlevel.language, houter⟩
  · obtain ⟨level'', hrepeat, rfl⟩ := Option.map_eq_some_iff.1 hnext
    obtain ⟨short, hshort, hwithin⟩ := hlevel.repeat? hrepeat
    exact ⟨_, Option.map_eq_some_iff.2 ⟨short, hshort, rfl⟩, rfl, hwithin, houter⟩
  · obtain ⟨level'', hoptional, rfl⟩ := Option.map_eq_some_iff.1 hnext
    obtain ⟨short, hshort, hwithin⟩ := hlevel.optional? hoptional
    exact ⟨_, Option.map_eq_some_iff.2 ⟨short, hshort, rfl⟩, rfl, hwithin, houter⟩
  · split at hnext
    · cases hnext
    · cases hnext
      rename_i hreserved
      simp only [if_neg hreserved]
      exact ⟨_, rfl, rfl, hlevel.push le_rfl, houter⟩

theorem Within.step {c : Char} (h : reader.Within other)
    (hnext : other.step escapes c = some next) :
    ∃ short, reader.step escapes c = some short ∧ short.Within next := by
  obtain ⟨escaped, level, outer⟩ := reader
  obtain ⟨escaped', level', outer'⟩ := other
  obtain ⟨rfl, hlevel, houter⟩ := h
  cases escaped with
  | true =>
    obtain ⟨part, hpart, rfl⟩ := Option.map_eq_some_iff.1 hnext
    exact ⟨_, Option.map_eq_some_iff.2 ⟨part, hpart, rfl⟩, rfl, hlevel.push le_rfl, houter⟩
  | false => exact within_plainStep hlevel houter hnext

/-- Reading on keeps what has been read in what has been read of the other. -/
theorem Within.run (h : reader.Within other) (hnext : other.run escapes text = some next) :
    ∃ short, reader.run escapes text = some short ∧ short.Within next := by
  induction text generalizing reader other with
  | nil =>
    cases hnext
    exact ⟨reader, rfl, h⟩
  | cons c text ih =>
    rw [run_cons, Option.bind_eq_some_iff] at hnext
    obtain ⟨middle, hmiddle, hnext⟩ := hnext
    obtain ⟨short, hshort, hwithin⟩ := h.step hmiddle
    rw [run_cons, hshort, Option.bind_some]
    exact ih hwithin hnext

theorem Within.finish? {language : Language Char} (h : reader.Within other)
    (hfinish : other.finish? = some language) :
    ∃ shortened, reader.finish? = some shortened ∧ shortened ≤ language := by
  obtain ⟨escaped, level, outer⟩ := reader
  obtain ⟨escaped', level', outer'⟩ := other
  obtain ⟨rfl, hlevel, houter⟩ := h
  cases escaped with
  | true => cases hfinish
  | false =>
    cases houter with
    | nil =>
      cases hfinish
      exact ⟨_, rfl, hlevel.language⟩
    | cons => cases hfinish

end Reader

/-! ## Blank loops -/

/-- A blank loop is read behind the parts. -/
def Level.looped (level : Level) : Level := ⟨level.choices, level.parts * blanks∗, .operated⟩

/-- A blank loop behind a blank loop adds nothing. -/
theorem Level.looped_looped (level : Level) : level.looped.looped = level.looped := by
  have hparts : level.looped.parts = level.parts * blanks∗ := rfl
  rw [looped, hparts, mul_assoc, kstar_mul_kstar]
  rfl

/-- A blank loop behind an operator only adds to what is matched. -/
theorem Level.within_looped {level : Level} (h : level.latest = .operated) :
    level.Within level.looped := by
  obtain ⟨choices, front, latest⟩ := level
  subst h
  exact ⟨le_rfl, le_mul_of_one_le_right' one_le_kstar, .operated⟩

namespace Reader

/-- A blank loop that is not behind a backslash. -/
theorem run_blankLoop (level : Level) (outer : List Level) (text : Text) :
    run escapes ⟨false, level, outer⟩ (blankLoop ++ text) =
      run escapes ⟨false, level.looped, outer⟩ text := by
  rw [blankLoop, List.cons_append, List.cons_append, run_backslash, escapes.means?_blank]
  rfl

theorem run_blankLoop_blankLoop (level : Level) (outer : List Level) (text : Text) :
    run escapes ⟨false, level, outer⟩ (blankLoop ++ (blankLoop ++ text)) =
      run escapes ⟨false, level, outer⟩ (blankLoop ++ text) := by
  rw [run_blankLoop, run_blankLoop, run_blankLoop, Level.looped_looped]

/-- However the text of a blank loop is read, an operator has been read at its end. -/
theorem exists_run_blankLoop (escapes : Escapes) (reader : Reader) :
    ∃ level : Level, level.latest = .operated ∧ ∀ text,
      reader.run escapes (blankLoop ++ text) = run escapes ⟨false, level, reader.outer⟩ text := by
  obtain ⟨escaped, level, outer⟩ := reader
  cases escaped with
  | true =>
    -- The backslash is behind another one, and the operator applies to the letter.
    refine ⟨⟨level.choices, level.parts * {['\\']} * {['s']}∗, .operated⟩, rfl, fun text => ?_⟩
    have hbackslash : step escapes ⟨true, level, outer⟩ '\\' =
        some ⟨false, level.push {['\\']}, outer⟩ :=
      congrArg (Option.map _) (escapes.means?_mark '\\' rfl)
    rw [blankLoop, List.cons_append, run_cons, hbackslash]
    rfl
  | false => exact ⟨level.looped, rfl, run_blankLoop level outer⟩

/-- Without the second of two loops the same can follow, and no more has been read. -/
theorem run_blankLoop_of_blankLoop_blankLoop {reader next : Reader} {text : Text}
    (hnext : reader.run escapes (blankLoop ++ (blankLoop ++ text)) = some next) :
    ∃ short, reader.run escapes (blankLoop ++ text) = some short ∧ short.Within next := by
  obtain ⟨level, hoperated, hloop⟩ := exists_run_blankLoop escapes reader
  rw [hloop, run_blankLoop] at hnext
  rw [hloop]
  have hwithin : Within ⟨false, level, reader.outer⟩ ⟨false, level.looped, reader.outer⟩ :=
    ⟨rfl, Level.within_looped hoperated, (Within.refl reader).outer⟩
  exact hwithin.run hnext

end Reader

/-- A pattern that can be read can be read when it is shortened, and no more is read. -/
theorem run_collapse {reader next : Reader} {text : Text}
    (hnext : reader.run escapes text = some next) :
    ∃ short, reader.run escapes (collapse text) = some short ∧ short.Within next := by
  fun_induction collapse text generalizing reader next with
  | case1 => exact ⟨next, hnext, .refl next⟩
  | case2 text hloop ih =>
    -- A loop in front of a loop is dropped, and the one behind it is what is read.
    obtain ⟨rest, rfl⟩ := List.isPrefixOf_iff_prefix.1 hloop
    obtain ⟨middle, hmiddle, hwithin⟩ := Reader.run_blankLoop_of_blankLoop_blankLoop hnext
    obtain ⟨short, hshort, hwithin'⟩ := ih hmiddle
    exact ⟨short, hshort, hwithin'.trans hwithin⟩
  | case3 text hloop ih =>
    -- The loop stays, and what its last character leads to is the same in both texts.
    obtain ⟨level, -, hrun⟩ := Reader.exists_run_blankLoop escapes reader
    have hnext' : reader.run escapes (blankLoop ++ text) = some next := hnext
    rw [hrun] at hnext'
    obtain ⟨short, hshort, hwithin⟩ := ih hnext'
    exact ⟨short, (hrun _).trans hshort, hwithin⟩
  | case4 c text hloop ih =>
    rw [Reader.run_cons, Option.bind_eq_some_iff] at hnext
    obtain ⟨middle, hmiddle, hnext⟩ := hnext
    obtain ⟨short, hshort, hwithin⟩ := ih hnext
    refine ⟨short, ?_, hwithin⟩
    rw [Reader.run_cons, hmiddle, Option.bind_some, hshort]

/-- A valid pattern is valid when it is shortened, and matches no more. -/
theorem meaning?_collapse {pattern : Text} {language : Language Char}
    (h : meaning? escapes pattern = some language) :
    ∃ shortened, meaning? escapes (collapse pattern) = some shortened ∧ shortened ≤ language := by
  obtain ⟨next, hnext, hfinish⟩ := Option.bind_eq_some_iff.1 h
  obtain ⟨short, hshort, hwithin⟩ := run_collapse hnext
  obtain ⟨shortened, hshortened, hle⟩ := hwithin.finish? hfinish
  exact ⟨shortened, Option.bind_eq_some_iff.2 ⟨short, hshort, hshortened⟩, hle⟩

/-! ## Loops that are read as loops -/

/-- Whether the character behind a text is behind a backslash. -/
def escapedAfter (escaped : Bool) (text : Text) : Bool :=
  text.foldl (fun escaped c => !escaped && c == '\\') escaped

theorem escapedAfter_append (escaped : Bool) (s t : Text) :
    escapedAfter escaped (s ++ t) = escapedAfter (escapedAfter escaped s) t := List.foldl_append

/-- Nothing is behind a backslash after the text of a blank loop. -/
theorem escapedAfter_blankLoop (escaped : Bool) : escapedAfter escaped blankLoop = false := by
  cases escaped <;> rfl

/-- The number of backslashes at the end of a text. -/
def backslashes (text : Text) : Nat := (text.reverse.takeWhile (· == '\\')).length

theorem backslashes_append_singleton (text : Text) (c : Char) :
    backslashes (text ++ [c]) = if c = '\\' then backslashes text + 1 else 0 := by
  rw [backslashes, List.reverse_concat, List.takeWhile_cons]
  split <;> simp_all [backslashes]

/-- A character is behind a backslash if the number of backslashes in front of it is odd. -/
theorem escapedAfter_eq_false_iff (text : Text) :
    escapedAfter false text = false ↔ Even (backslashes text) := by
  induction text using List.reverseRecOn with
  | nil => decide
  | append_singleton text c ih =>
    rw [escapedAfter_append, backslashes_append_singleton]
    by_cases hc : c = '\\'
    · subst hc
      rw [if_pos rfl, Nat.even_add_one, ← ih]
      cases escapedAfter false text <;> decide
    · rw [if_neg hc]
      simp [escapedAfter, hc]

/-- Every two blank loops in a row stand behind an even number of backslashes. -/
def Aligned (pattern : Text) : Prop :=
  ∀ i < pattern.length, blankLoop ++ blankLoop <+: pattern.drop i →
    Even (backslashes (pattern.take i))

instance (pattern : Text) : Decidable (Aligned pattern) :=
  inferInstanceAs (Decidable (∀ i < pattern.length, blankLoop ++ blankLoop <+: pattern.drop i →
    Even (backslashes (pattern.take i))))

/-- Every two blank loops in a row are read as loops. -/
def Genuine (escaped : Bool) (text : Text) : Prop :=
  ∀ front back, text = front ++ (blankLoop ++ (blankLoop ++ back)) →
    escapedAfter escaped front = false

theorem Genuine.tail {escaped : Bool} {s text : Text} (h : Genuine escaped (s ++ text)) :
    Genuine (escapedAfter escaped s) text := by
  rintro front back rfl
  rw [← escapedAfter_append]
  exact h (s ++ front) back (List.append_assoc s front _).symm

theorem Aligned.genuine {pattern : Text} (h : Aligned pattern) : Genuine false pattern := by
  rintro front back rfl
  have hloops : blankLoop ++ blankLoop <+:
      (front ++ (blankLoop ++ (blankLoop ++ back))).drop front.length := by
    rw [List.drop_left, ← List.append_assoc]
    exact List.prefix_append _ back
  have hlength : front.length < (front ++ (blankLoop ++ (blankLoop ++ back))).length := by
    simp [blankLoop]
  have heven := h front.length hlength hloops
  rw [List.take_left] at heven
  exact (escapedAfter_eq_false_iff front).2 heven

namespace Reader

/-- Of the characters that are not behind a backslash, a backslash has the next one behind it. -/
theorem escaped_of_plainStep {level : Level} {outer : List Level} {next : Reader} {c : Char}
    (h : plainStep level outer c = some next) : next.escaped = (c == '\\') := by
  unfold plainStep at h
  split at h
  · cases h
    rfl
  · cases h
    rfl
  · cases outer with
    | nil => cases h
    | cons around outer =>
      cases h
      rfl
  · cases h
    rfl
  · obtain ⟨level', -, rfl⟩ := Option.map_eq_some_iff.1 h
    rfl
  · obtain ⟨level', -, rfl⟩ := Option.map_eq_some_iff.1 h
    rfl
  · rename_i hbackslash _ _ _ _ _
    split at h
    · cases h
    · cases h
      exact (beq_eq_false_iff_ne.2 hbackslash).symm

/-- Which characters are behind a backslash does not depend on what they mean. -/
theorem escaped_of_step {reader next : Reader} {c : Char} (h : reader.step escapes c = some next) :
    next.escaped = escapedAfter reader.escaped [c] := by
  obtain ⟨escaped, level, outer⟩ := reader
  cases escaped with
  | true =>
    obtain ⟨part, -, rfl⟩ := Option.map_eq_some_iff.1 h
    rfl
  | false => exact escaped_of_plainStep h

end Reader

/-- Shortening changes nothing if every two blank loops in a row are read as loops. -/
theorem run_collapse_of_genuine {reader : Reader} {text : Text}
    (h : Genuine reader.escaped text) :
    reader.run escapes (collapse text) = reader.run escapes text := by
  fun_induction collapse text generalizing reader with
  | case1 => rfl
  | case2 text hloop ih =>
    obtain ⟨rest, rfl⟩ := List.isPrefixOf_iff_prefix.1 hloop
    -- The first of the two loops is read as one, so the second one adds nothing.
    obtain ⟨escaped, level, outer⟩ := reader
    obtain rfl : escaped = false := h [] rest rfl
    have htail : Genuine false (blankLoop ++ rest) := Genuine.tail (s := blankLoop) h
    rw [ih htail]
    exact (Reader.run_blankLoop_blankLoop level outer rest).symm
  | case3 text hloop ih =>
    obtain ⟨level, -, hrun⟩ := Reader.exists_run_blankLoop escapes reader
    have htail : Genuine (escapedAfter reader.escaped blankLoop) text :=
      Genuine.tail (s := blankLoop) h
    rw [escapedAfter_blankLoop] at htail
    exact (hrun _).trans ((ih htail).trans (hrun text).symm)
  | case4 c text hloop ih =>
    have htail : Genuine (escapedAfter reader.escaped [c]) text := Genuine.tail (s := [c]) h
    rw [Reader.run_cons, Reader.run_cons]
    cases hstep : reader.step escapes c with
    | none => rfl
    | some next =>
      rw [← Reader.escaped_of_step hstep] at htail
      exact ih htail

/-- A pattern keeps its meaning if every two blank loops in a row are behind an even number of
backslashes. -/
theorem meaning?_collapse_of_aligned {pattern : Text} (h : Aligned pattern) :
    meaning? escapes (collapse pattern) = meaning? escapes pattern := by
  have hgenuine : Genuine Reader.start.escaped pattern := h.genuine
  rw [meaning?, run_collapse_of_genuine hgenuine, meaning?]

/-! ## What shortening keeps -/

/-- A loop behind an escaped backslash is none, and the blank loop behind it is lost. -/
theorem meaning?_collapse_misread (escapes : Escapes) : ∃ language shortened,
    meaning? escapes "\\\\s*\\s*".toList = some language ∧
      meaning? escapes (collapse "\\\\s*\\s*".toList) = some shortened ∧
      "\\ ".toList ∈ language ∧ "\\ ".toList ∉ shortened := by
  let behind : Regex := .seq (.escaped '\\') (.star (.literal 's'))
  let whole : Regex := .seq behind (.star (.oneOf .blank))
  have hwhole : meaning? escapes whole.text = some whole.language :=
    meaning?_text escapes (by decide) rfl
  have hbehind : meaning? escapes behind.text = some behind.language :=
    meaning?_text escapes (by decide) rfl
  refine ⟨whole.language, behind.language, hwhole, hbehind, ?_, ?_⟩
  · exact isMatch_iff_matches.1 (by decide)
  · exact mt isMatch_iff_matches.2 (by decide)

/-- **What shortening keeps.** A valid pattern is valid when it is shortened and matches no more
than before. It matches the same if every two blank loops in a row are behind an even number of
backslashes, and if they are not it can match less. -/
theorem shortening_narrows (escapes : Escapes) :
    (∀ pattern language, meaning? escapes pattern = some language →
      ∃ shortened, meaning? escapes (collapse pattern) = some shortened ∧
        shortened ≤ language ∧ (Aligned pattern → shortened = language)) ∧
    ∃ language shortened,
      meaning? escapes "\\\\s*\\s*".toList = some language ∧
        meaning? escapes (collapse "\\\\s*\\s*".toList) = some shortened ∧
        "\\ ".toList ∈ language ∧ "\\ ".toList ∉ shortened := by
  refine ⟨fun pattern language hpattern => ?_, meaning?_collapse_misread escapes⟩
  obtain ⟨shortened, hshortened, hle⟩ := meaning?_collapse hpattern
  refine ⟨shortened, hshortened, hle, fun haligned => ?_⟩
  rw [meaning?_collapse_of_aligned haligned, hpattern] at hshortened
  exact (Option.some.inj hshortened).symm

/-- Two blank loops behind an escaped backslash, and a lazy one in a group. -/
theorem shortening_narrows_aligned :
    let pattern := "\\\\\\s*\\s*(a|\\s*\\s*?)".toList
    Aligned pattern ∧ collapse pattern = "\\\\\\s*(a|\\s*?)".toList ∧
      ∃ language, meaning? .basic pattern = some language ∧
        meaning? .basic (collapse pattern) = some language := by
  intro pattern
  have haligned : Aligned pattern := by decide
  obtain ⟨language, hlanguage⟩ : ∃ language, meaning? .basic pattern = some language := ⟨_, rfl⟩
  obtain ⟨shortened, hshortened, -, hsame⟩ :=
    (shortening_narrows .basic).1 pattern language hlanguage
  exact ⟨haligned, by decide, language, hlanguage, hsame haligned ▸ hshortened⟩

end DocShape.Meaning
