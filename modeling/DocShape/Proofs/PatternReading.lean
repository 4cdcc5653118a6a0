import DocShape.Proofs.Matching

/-!
# Reading an expression back from its text

What a pattern means is decided by its text. The reader here goes through the text once, from the
front, with a stack of the groups that are open (`Regex.Reader.step`). It reads the part of the
notation that expressions are written in: single characters, characters behind a backslash, classes,
groups, bars, and one operator behind what it applies to; it refuses everything else.

* What is read has the text that was read and is a readable expression (`Regex.text_of_read?`).
* The text of a readable expression is read, as an expression with the same language
  (`Regex.Readable.exists_read?`). It need not be the same expression: parts of a sequence are read
  one by one, however they were grouped in it.

So a text is accepted by a pattern (`Regex.accepts`) exactly when some readable expression with the
text of the pattern matches it (`Regex.accepts_iff`).
-/

set_option autoImplicit false

namespace DocShape

/-! ## Readable expressions -/

/-- The characters that mean something between brackets. -/
def CharClass.marks : List Char := ['\\', '[', ']', '^']

/-- The classes with a text of their own. -/
def CharClass.Readable : CharClass → Prop
  | .blank => True
  | .unquoted => True
  | .range low high => low.isAlphanum = true ∧ high.isAlphanum = true ∧ low.toNat ≤ high.toNat
  | .either a b => a ∉ marks ∧ b ∉ marks

instance (characters : CharClass) : Decidable characters.Readable :=
  match characters with
  | .blank => inferInstanceAs (Decidable True)
  | .unquoted => inferInstanceAs (Decidable True)
  | .range low high =>
      inferInstanceAs
        (Decidable (low.isAlphanum = true ∧ high.isAlphanum = true ∧ low.toNat ≤ high.toNat))
  | .either a b => inferInstanceAs (Decidable (a ∉ CharClass.marks ∧ b ∉ CharClass.marks))

/-- The class with a text between brackets. -/
def CharClass.ofBody? : Text → Option CharClass
  | [a, b] => if Readable (.either a b) then some (.either a b) else none
  | [low, c, high] =>
      if c = '-' ∧ Readable (.range low high) then some (.range low high) else none
  | body => if body = ['^', '"', '\\', '\\'] then some .unquoted else none

namespace Regex

/-- The characters that mean something in a pattern. -/
def marks : List Char := "\\[](){}*+?|.^$".toList

/-- The expressions that an operator can follow. -/
def isAtom : Regex → Bool
  | .literal _ | .escaped _ | .oneOf _ | .group _ => true
  | _ => false

/-- Whether a bar stands outside of all groups. -/
def isChoice : Regex → Bool
  | .alt _ _ => true
  | _ => false

/-- The expressions whose text says how they are put together: an operator follows an atom, a choice
stands in a group or by itself, and characters that mean something are behind a backslash. -/
def Readable : Regex → Prop
  | .empty => True
  | .literal c => c ∉ marks
  | .escaped c => c.isAlphanum = false
  | .oneOf characters => characters.Readable
  | .seq first second =>
      (first.Readable ∧ first.isChoice = false) ∧ second.Readable ∧ second.isChoice = false
  | .alt first second => first.Readable ∧ second.Readable
  | .group inner => inner.Readable
  | .star inner | .plus inner | .optional inner => inner.Readable ∧ inner.isAtom = true

instance decidableReadable : (r : Regex) → Decidable r.Readable
  | .empty => inferInstanceAs (Decidable True)
  | .literal c => inferInstanceAs (Decidable (c ∉ marks))
  | .escaped c => inferInstanceAs (Decidable (c.isAlphanum = false))
  | .oneOf characters => inferInstanceAs (Decidable characters.Readable)
  | .seq first second =>
      have := decidableReadable first
      have := decidableReadable second
      inferInstanceAs (Decidable ((first.Readable ∧ first.isChoice = false) ∧
        second.Readable ∧ second.isChoice = false))
  | .alt first second =>
      have := decidableReadable first
      have := decidableReadable second
      inferInstanceAs (Decidable (first.Readable ∧ second.Readable))
  | .group inner => decidableReadable inner
  | .star inner | .plus inner | .optional inner =>
      have := decidableReadable inner
      inferInstanceAs (Decidable (inner.Readable ∧ inner.isAtom = true))

/-- A readable expression that can stand in a sequence. -/
def IsPart (r : Regex) : Prop := r.Readable ∧ r.isChoice = false

instance (r : Regex) : Decidable r.IsPart :=
  inferInstanceAs (Decidable (r.Readable ∧ r.isChoice = false))

theorem isChoice_of_isAtom {r : Regex} (h : r.isAtom = true) : r.isChoice = false := by
  cases r with
  | alt first second => simp [isAtom] at h
  | _ => rfl

/-- A sequence of parts is a part. -/
theorem isPart_sequence {rs : List Regex} (h : ∀ r ∈ rs, r.IsPart) : (sequence rs).IsPart := by
  induction rs with
  | nil => exact ⟨trivial, rfl⟩
  | cons r rs ih =>
    rw [List.forall_mem_cons] at h
    rcases rs with _ | ⟨next, rs⟩
    · exact h.1
    · exact ⟨⟨h.1, ih h.2⟩, rfl⟩

/-! ## The reader -/

/-- What has been read of a group that is open: the choices before the last bar, and the parts after
it, the latest first. -/
structure Level where
  before : Option Regex
  items : List Regex

/-- The expression of a group that is closed now. -/
def Level.regex (level : Level) : Regex :=
  match level.before with
  | none => sequence level.items.reverse
  | some first => .alt first (sequence level.items.reverse)

/-- Whether the next character stands for itself, behind a backslash, or between brackets. -/
inductive Mode where
  | plain
  | escape
  | brackets (body : Text)

/-- The reader inside of some groups, the innermost one apart. -/
structure Reader where
  mode : Mode
  level : Level
  outer : List Level

namespace Reader

/-- The next part of the innermost group. -/
def push (reader : Reader) (item : Regex) : Reader :=
  { mode := .plain
    level := { reader.level with items := item :: reader.level.items }
    outer := reader.outer }

/-- An operator applies to the latest part, which has to be an atom. -/
def operate? (reader : Reader) (operator : Regex → Regex) : Option Reader :=
  match reader.level.items with
  | [] => none
  | item :: items =>
      if item.isAtom = true then
        some { reader with level := { reader.level with items := operator item :: items } }
      else none

/-- The innermost group is closed and is the next part of the one around it. -/
def close? (reader : Reader) : Option Reader :=
  match reader.outer with
  | [] => none
  | level :: outer =>
      some (push { mode := .plain, level := level, outer := outer } (.group reader.level.regex))

/-- A character that is neither behind a backslash nor between brackets. -/
def plainStep (reader : Reader) (c : Char) : Option Reader :=
  match c with
  | '\\' => some { reader with mode := .escape }
  | '[' => some { reader with mode := .brackets [] }
  | '(' =>
      some { mode := .plain, level := { before := none, items := [] }
             outer := reader.level :: reader.outer }
  | ')' => reader.close?
  | '|' => some { reader with level := { before := some reader.level.regex, items := [] } }
  | '*' => reader.operate? .star
  | '+' => reader.operate? .plus
  | '?' => reader.operate? .optional
  | c => if c ∈ marks then none else some (reader.push (.literal c))

/-- A character behind a backslash. -/
def escapeStep (reader : Reader) (c : Char) : Option Reader :=
  if c = 's' then some (reader.push (.oneOf .blank))
  else if c.isAlphanum = true then none
  else some (reader.push (.escaped c))

/-- One character is read. -/
def step (reader : Reader) (c : Char) : Option Reader :=
  match reader.mode with
  | .plain => reader.plainStep c
  | .escape => reader.escapeStep c
  | .brackets body =>
      if c = ']' then (CharClass.ofBody? body).map fun characters => reader.push (.oneOf characters)
      else some { reader with mode := .brackets (body ++ [c]) }

/-- A text is read. -/
def run (reader : Reader) (text : Text) : Option Reader := text.foldlM step reader

/-- The expression that has been read when all groups are closed. -/
def finish? (reader : Reader) : Option Regex :=
  match reader.mode, reader.outer with
  | .plain, [] => some reader.level.regex
  | _, _ => none

/-- Before the first character. -/
def start : Reader :=
  { mode := .plain, level := { before := none, items := [] }, outer := [] }

theorem run_nil (reader : Reader) : reader.run [] = some reader := rfl

theorem run_append (reader : Reader) (s t : Text) :
    reader.run (s ++ t) = (reader.run s).bind fun reader => reader.run t :=
  List.foldlM_append

theorem run_cons (reader : Reader) (c : Char) (text : Text) :
    reader.run (c :: text) = (reader.step c).bind fun reader => reader.run text :=
  rfl

end Reader

/-- The expression with a text. -/
def read? (pattern : Text) : Option Regex := (Reader.start.run pattern).bind Reader.finish?

/-- Whether a pattern matches a text from end to end. -/
def accepts (pattern text : Text) : Bool := (read? pattern).any fun r => r.isMatch text

/-! ## Operators -/

/-- Expressions that match the same texts. -/
def Equivalent (r r' : Regex) : Prop := ∀ s, r.Matches s ↔ r'.Matches s

namespace Equivalent

variable {r r' : Regex}

theorem star (h : Equivalent r r') : Equivalent (.star r) (.star r') :=
  fun _ => ⟨Matches.star_imp fun s => (h s).1, Matches.star_imp fun s => (h s).2⟩

theorem plus (h : Equivalent r r') : Equivalent (.plus r) (.plus r') := by
  intro s
  simp only [matches_plus_iff, h _, h.star _]

theorem optional (h : Equivalent r r') : Equivalent (.optional r) (.optional r') := by
  intro s
  simp only [matches_optional_iff, h _]

theorem group (h : Equivalent r r') : Equivalent (.group r) (.group r') := by
  intro s
  simp only [matches_group_iff, h _]

end Equivalent

/-- A mark that makes an operator of what is read before it. -/
structure IsOperator (mark : Char) (operator : Regex → Regex) : Prop where
  text : ∀ r, (operator r).text = r.text ++ [mark]
  isPart : ∀ r, r.Readable → r.isAtom = true → (operator r).IsPart
  isAtom : ∀ r, (operator r).isAtom = false
  equivalent : ∀ r r', Equivalent r r' → Equivalent (operator r) (operator r')
  step : ∀ level outer, Reader.step ⟨.plain, level, outer⟩ mark =
    Reader.operate? ⟨.plain, level, outer⟩ operator

theorem isOperator_star : IsOperator '*' .star :=
  { text := fun _ => rfl
    isPart := fun _ hreadable hatom => ⟨⟨hreadable, hatom⟩, rfl⟩
    isAtom := fun _ => rfl
    equivalent := fun _ _ => Equivalent.star
    step := fun _ _ => rfl }

theorem isOperator_plus : IsOperator '+' .plus :=
  { text := fun _ => rfl
    isPart := fun _ hreadable hatom => ⟨⟨hreadable, hatom⟩, rfl⟩
    isAtom := fun _ => rfl
    equivalent := fun _ _ => Equivalent.plus
    step := fun _ _ => rfl }

theorem isOperator_optional : IsOperator '?' .optional :=
  { text := fun _ => rfl
    isPart := fun _ hreadable hatom => ⟨⟨hreadable, hatom⟩, rfl⟩
    isAtom := fun _ => rfl
    equivalent := fun _ _ => Equivalent.optional
    step := fun _ _ => rfl }

end Regex

/-! ## What is read has the text -/

theorem CharClass.readable_of_ofBody? {body : Text} {characters : CharClass}
    (h : ofBody? body = some characters) :
    characters.Readable ∧ characters.text = '[' :: body ++ [']'] := by
  unfold ofBody? at h
  split at h
  · rw [Option.ite_none_right_eq_some, Option.some.injEq] at h
    obtain ⟨hreadable, rfl⟩ := h
    exact ⟨hreadable, rfl⟩
  · rw [Option.ite_none_right_eq_some, Option.some.injEq] at h
    obtain ⟨⟨rfl, hreadable⟩, rfl⟩ := h
    exact ⟨hreadable, rfl⟩
  · rw [Option.ite_none_right_eq_some, Option.some.injEq] at h
    obtain ⟨rfl, rfl⟩ := h
    exact ⟨trivial, rfl⟩

namespace Regex

theorem text_sequence_cons (r : Regex) (rs : List Regex) :
    (sequence (r :: rs)).text = r.text ++ (sequence rs).text := by
  rcases rs with _ | ⟨next, rs⟩
  · exact (List.append_nil r.text).symm
  · rfl

theorem text_sequence (rs : List Regex) : (sequence rs).text = rs.flatMap text := by
  induction rs with
  | nil => rfl
  | cons r rs ih => rw [text_sequence_cons, ih, List.flatMap_cons]

namespace Level

/-- The parts of a group are readable and can stand in a sequence. -/
structure Readable (level : Level) : Prop where
  before : ∀ first, level.before = some first → first.Readable
  items : ∀ item ∈ level.items, item.IsPart

variable {level : Level} {item : Regex} {items : List Regex} {before : Option Regex}

theorem Readable.regex (h : level.Readable) : level.regex.Readable := by
  -- The parts are kept the latest first and stand in the sequence the other way round.
  have hitems : ∀ item ∈ level.items.reverse, item.IsPart := by
    intro item hitem
    exact h.items item (List.mem_reverse.1 hitem)
  obtain ⟨hsequence, -⟩ := isPart_sequence hitems
  unfold Level.regex
  cases hbefore : level.before with
  | none => exact hsequence
  | some first => exact ⟨h.before first hbefore, hsequence⟩

theorem Readable.cons (h : Readable ⟨before, items⟩) (hitem : item.IsPart) :
    Readable ⟨before, item :: items⟩ :=
  { before := h.before
    items := List.forall_mem_cons.2 ⟨hitem, h.items⟩ }

theorem readable_fresh (h : ∀ first, before = some first → first.Readable) :
    Readable ⟨before, []⟩ :=
  { before := h
    items := fun _ hitem => absurd hitem List.not_mem_nil }

theorem text_regex_cons (before : Option Regex) (item : Regex) (items : List Regex) :
    (Level.regex ⟨before, item :: items⟩).text =
      (Level.regex ⟨before, items⟩).text ++ item.text := by
  have hsequence : (sequence (item :: items).reverse).text =
      (sequence items.reverse).text ++ item.text := by
    rw [text_sequence, text_sequence, List.reverse_cons, List.flatMap_append,
      List.flatMap_singleton]
  cases before with
  | none => exact hsequence
  | some first =>
    simp only [Level.regex, text, hsequence, List.append_assoc, List.cons_append]

end Level

/-- What has been read of a character that is not complete. -/
def Mode.text : Mode → Text
  | .plain => []
  | .escape => ['\\']
  | .brackets body => '[' :: body

namespace Reader

/-- The text that has been read. -/
def text (reader : Reader) : Text :=
  (reader.outer.reverse.flatMap fun level => level.regex.text ++ ['(']) ++
    (reader.level.regex.text ++ reader.mode.text)

/-- The parts of all groups that are open are readable. -/
structure Readable (reader : Reader) : Prop where
  level : reader.level.Readable
  outer : ∀ level ∈ reader.outer, level.Readable

variable {reader reader' : Reader} {level : Level} {outer : List Level} {c : Char}

/-- A text has been read between two readers, and what is in the second one is readable. -/
def Reads (reader : Reader) (s : Text) (reader' : Reader) : Prop :=
  reader'.Readable ∧ reader'.text = reader.text ++ s

/-- The character that completes a part. -/
theorem reads_push {item : Regex} (h : reader.Readable) (hitem : item.IsPart)
    (htext : reader.mode.text ++ [c] = item.text) : Reads reader [c] (reader.push item) := by
  refine ⟨⟨h.level.cons hitem, h.outer⟩, ?_⟩
  simp only [text, push, Level.text_regex_cons, ← htext, Mode.text, List.append_nil,
    List.append_assoc]

/-- A character that does not complete a part yet. -/
theorem reads_mode {mode mode' : Mode} (h : Readable ⟨mode, level, outer⟩)
    (htext : mode.text ++ [c] = mode'.text) :
    Reads ⟨mode, level, outer⟩ [c] ⟨mode', level, outer⟩ := by
  refine ⟨⟨h.level, h.outer⟩, ?_⟩
  simp only [text, ← htext, List.append_assoc]

theorem reads_opening (h : Readable ⟨.plain, level, outer⟩) :
    Reads ⟨.plain, level, outer⟩ ['('] ⟨.plain, ⟨none, []⟩, level :: outer⟩ := by
  refine ⟨⟨Level.readable_fresh fun _ hfirst => ?_, List.forall_mem_cons.2 ⟨h.level, h.outer⟩⟩, ?_⟩
  · cases hfirst
  · simp [text, Mode.text, Level.regex, sequence, Regex.text]

theorem reads_bar (h : Readable ⟨.plain, level, outer⟩) :
    Reads ⟨.plain, level, outer⟩ ['|'] ⟨.plain, ⟨some level.regex, []⟩, outer⟩ := by
  refine ⟨⟨Level.readable_fresh fun first hfirst => ?_, h.outer⟩, ?_⟩
  · obtain rfl := Option.some.inj hfirst
    exact h.level.regex
  · simp [text, Mode.text, Level.regex, sequence, Regex.text]

theorem close?_reads (h : Readable ⟨.plain, level, outer⟩)
    (hclose : close? ⟨.plain, level, outer⟩ = some reader') :
    Reads ⟨.plain, level, outer⟩ [')'] reader' := by
  cases outer with
  | nil => cases hclose
  | cons around outer =>
    obtain rfl := Option.some.inj hclose
    obtain ⟨haround, houter⟩ := List.forall_mem_cons.1 h.outer
    -- The group that is closed is the next part on the level around it.
    refine ⟨⟨haround.cons ⟨h.level.regex, rfl⟩, houter⟩, ?_⟩
    simp [text, push, Level.text_regex_cons, Mode.text, Regex.text]

/-- An operator takes the place of the atom it applies to. -/
theorem operate?_reads {operator : Regex → Regex} {mark : Char}
    (hoperator : IsOperator mark operator) (h : Readable ⟨.plain, level, outer⟩)
    (hoperate : operate? ⟨.plain, level, outer⟩ operator = some reader') :
    Reads ⟨.plain, level, outer⟩ [mark] reader' := by
  obtain ⟨before, items⟩ := level
  cases items with
  | nil => cases hoperate
  | cons item items =>
    obtain ⟨hatom, hoperate⟩ := Option.ite_none_right_eq_some.1 hoperate
    obtain rfl := Option.some.inj hoperate
    obtain ⟨hitem, hitems⟩ := List.forall_mem_cons.1 h.level.items
    have hrest : Level.Readable ⟨before, items⟩ := ⟨h.level.before, hitems⟩
    refine ⟨⟨hrest.cons (hoperator.isPart item hitem.1 hatom), h.outer⟩, ?_⟩
    simp only [text, Level.text_regex_cons, hoperator.text, Mode.text, List.append_nil,
      List.append_assoc]

theorem plainStep_reads (h : Readable ⟨.plain, level, outer⟩)
    (hstep : plainStep ⟨.plain, level, outer⟩ c = some reader') :
    Reads ⟨.plain, level, outer⟩ [c] reader' := by
  unfold plainStep at hstep
  split at hstep
  -- In the order of the characters that have a step of their own, then the others.
  · obtain rfl := Option.some.inj hstep
    exact reads_mode h rfl
  · obtain rfl := Option.some.inj hstep
    exact reads_mode h rfl
  · obtain rfl := Option.some.inj hstep
    exact reads_opening h
  · exact close?_reads h hstep
  · obtain rfl := Option.some.inj hstep
    exact reads_bar h
  · exact operate?_reads isOperator_star h hstep
  · exact operate?_reads isOperator_plus h hstep
  · exact operate?_reads isOperator_optional h hstep
  · obtain ⟨hmark, hstep⟩ := Option.ite_none_left_eq_some.1 hstep
    obtain rfl := Option.some.inj hstep
    exact reads_push h ⟨hmark, rfl⟩ rfl

theorem escapeStep_reads (h : Readable ⟨.escape, level, outer⟩)
    (hstep : escapeStep ⟨.escape, level, outer⟩ c = some reader') :
    Reads ⟨.escape, level, outer⟩ [c] reader' := by
  unfold escapeStep at hstep
  split at hstep
  · rename_i hblank
    obtain rfl := Option.some.inj hstep
    subst hblank
    exact reads_push h ⟨trivial, rfl⟩ rfl
  · obtain ⟨hplain, hstep⟩ := Option.ite_none_left_eq_some.1 hstep
    obtain rfl := Option.some.inj hstep
    rw [Bool.not_eq_true] at hplain
    exact reads_push h ⟨hplain, rfl⟩ rfl

/-- A step reads one character. -/
theorem step_reads (h : reader.Readable) (hstep : reader.step c = some reader') :
    Reads reader [c] reader' := by
  obtain ⟨mode, level, outer⟩ := reader
  cases mode with
  | plain => exact plainStep_reads h hstep
  | escape => exact escapeStep_reads h hstep
  | brackets body =>
    unfold step at hstep
    dsimp only at hstep
    split at hstep
    · rename_i hclosing
      obtain ⟨characters, hbody, rfl⟩ := Option.map_eq_some_iff.1 hstep
      obtain ⟨hreadable, htext⟩ := CharClass.readable_of_ofBody? hbody
      subst hclosing
      exact reads_push h ⟨hreadable, rfl⟩ htext.symm
    · obtain rfl := Option.some.inj hstep
      exact reads_mode h rfl

/-- A run reads its text. -/
theorem run_reads {s : Text} (h : reader.Readable) (hrun : reader.run s = some reader') :
    Reads reader s reader' := by
  induction s generalizing reader with
  | nil =>
    obtain rfl := Option.some.inj hrun
    exact ⟨h, (List.append_nil _).symm⟩
  | cons c s ih =>
    rw [run_cons, Option.bind_eq_some_iff] at hrun
    obtain ⟨next, hstep, hrest⟩ := hrun
    obtain ⟨hnext, htext⟩ := step_reads h hstep
    obtain ⟨hreadable, hread⟩ := ih hnext hrest
    refine ⟨hreadable, ?_⟩
    rw [hread, htext, List.append_assoc, List.singleton_append]

end Reader

/-- **Soundness of the reader.** What is read from a pattern is readable and has its text. -/
theorem text_of_read? {pattern : Text} {r : Regex} (h : read? pattern = some r) :
    r.Readable ∧ r.text = pattern := by
  obtain ⟨⟨mode, level, outer⟩, hrun, hfinish⟩ := Option.bind_eq_some_iff.1 h
  have hstart : Reader.start.Readable :=
    { level := Level.readable_fresh fun _ hfirst => by cases hfirst
      outer := fun _ hlevel => absurd hlevel List.not_mem_nil }
  obtain ⟨hreadable, htext⟩ := Reader.run_reads hstart hrun
  unfold Reader.finish? at hfinish
  split at hfinish
  · rename_i hmode houter
    obtain rfl := Option.some.inj hfinish
    dsimp only at hmode houter
    subst hmode houter
    refine ⟨hreadable.level.regex, ?_⟩
    -- No group is open at the end, so all that has been read is on the one level left.
    simpa [Reader.text, Mode.text, Reader.start, Level.regex, sequence, text] using htext
  · cases hfinish

/-! ## Every readable expression is read -/

/-- Reading the text of an expression adds some parts to the innermost group. -/
def Adds (r : Regex) (items : List Regex) : Prop :=
  ∀ before read outer, Reader.run ⟨.plain, ⟨before, read⟩, outer⟩ r.text =
    some ⟨.plain, ⟨before, items.reverse ++ read⟩, outer⟩

theorem adds_empty : Adds .empty [] := fun _ _ _ => rfl

theorem adds_literal {c : Char} (hc : c ∉ marks) : Adds (.literal c) [.literal c] := by
  intro before read outer
  have hstep : Reader.plainStep ⟨.plain, ⟨before, read⟩, outer⟩ c =
      some (Reader.push ⟨.plain, ⟨before, read⟩, outer⟩ (.literal c)) := by
    unfold Reader.plainStep
    split
    case h_9 => rw [if_neg hc]
    -- The other characters with a step of their own are marks.
    all_goals exact absurd (by decide) hc
  rw [text, Reader.run_cons, Reader.step, hstep]
  rfl

theorem adds_escaped {c : Char} (hc : c.isAlphanum = false) : Adds (.escaped c) [.escaped c] := by
  intro before read outer
  have hblank : c ≠ 's' := by
    rintro rfl
    exact absurd hc (by decide)
  have hstep : Reader.step ⟨.escape, ⟨before, read⟩, outer⟩ c =
      some (Reader.push ⟨.escape, ⟨before, read⟩, outer⟩ (.escaped c)) := by
    rw [Reader.step, Reader.escapeStep, if_neg hblank, hc, if_neg Bool.false_ne_true]
  have hbackslash : Reader.step ⟨.plain, ⟨before, read⟩, outer⟩ '\\' =
      some ⟨.escape, ⟨before, read⟩, outer⟩ := rfl
  rw [text, Reader.run_cons, hbackslash, Option.bind_some, Reader.run_cons, hstep]
  rfl

/-- The characters between brackets are collected up to the closing one. -/
theorem run_brackets {body rest : Text} {level : Level} {outer : List Level} (h : ']' ∉ rest) :
    Reader.run ⟨.brackets body, level, outer⟩ rest =
      some ⟨.brackets (body ++ rest), level, outer⟩ := by
  induction rest generalizing body with
  | nil => rw [List.append_nil, Reader.run_nil]
  | cons c rest ih =>
    rw [List.mem_cons, not_or] at h
    have hstep : Reader.step ⟨.brackets body, level, outer⟩ c =
        some ⟨.brackets (body ++ [c]), level, outer⟩ := if_neg (Ne.symm h.1)
    rw [Reader.run_cons, hstep, Option.bind_some, ih h.2, List.append_assoc,
      List.singleton_append]

/-- A class in brackets is known by what stands between them. -/
theorem exists_body {characters : CharClass} (h : characters.Readable)
    (hblank : characters ≠ .blank) :
    ∃ body, characters.text = '[' :: body ++ [']'] ∧ ']' ∉ body ∧
      CharClass.ofBody? body = some characters := by
  cases characters with
  | blank => exact absurd rfl hblank
  | unquoted => exact ⟨['^', '"', '\\', '\\'], rfl, by decide, rfl⟩
  | range low high =>
    have hlow : ']' ≠ low := by
      rintro rfl
      exact absurd h.1 (by decide)
    have hhigh : ']' ≠ high := by
      rintro rfl
      exact absurd h.2.1 (by decide)
    exact ⟨[low, '-', high], rfl, by simp [hlow, hhigh], if_pos ⟨rfl, h⟩⟩
  | either a b =>
    have ha : ']' ≠ a := by
      rintro rfl
      exact h.1 (by decide)
    have hb : ']' ≠ b := by
      rintro rfl
      exact h.2 (by decide)
    exact ⟨[a, b], rfl, by simp [ha, hb], if_pos h⟩

theorem adds_oneOf {characters : CharClass} (h : characters.Readable) :
    Adds (.oneOf characters) [.oneOf characters] := by
  intro before read outer
  by_cases hblank : characters = .blank
  -- The blanks are behind a backslash, all other classes between brackets.
  · subst hblank
    rfl
  · obtain ⟨body, htext, hbody, hclass⟩ := exists_body h hblank
    have hopening : Reader.step ⟨.plain, ⟨before, read⟩, outer⟩ '[' =
        some ⟨.brackets [], ⟨before, read⟩, outer⟩ := rfl
    have hclosing : Reader.step ⟨.brackets body, ⟨before, read⟩, outer⟩ ']' =
        some (Reader.push ⟨.brackets body, ⟨before, read⟩, outer⟩ (.oneOf characters)) := by
      simp only [Reader.step, if_pos, hclass, Option.map_some]
    rw [text, htext, List.cons_append, Reader.run_cons, hopening, Option.bind_some,
      Reader.run_append, run_brackets hbody, List.nil_append, Option.bind_some, Reader.run_cons,
      hclosing]
    rfl

theorem Adds.seq {first second : Regex} {items items' : List Regex} (h : Adds first items)
    (h' : Adds second items') : Adds (.seq first second) (items ++ items') := by
  intro before read outer
  rw [text, Reader.run_append, h, Option.bind_some, h', List.reverse_append, List.append_assoc]

/-- An operator applies to an atom that has been read before it. -/
theorem Adds.operated {inner atom : Regex} {operator : Regex → Regex} {mark : Char}
    (hoperator : IsOperator mark operator) (h : Adds inner [atom]) (hatom : atom.isAtom = true) :
    Adds (operator inner) [operator atom] := by
  intro before read outer
  -- The atom is the latest part that has been read, which is the one the operator takes.
  have hoperate : Reader.operate? ⟨.plain, ⟨before, atom :: read⟩, outer⟩ operator =
      some ⟨.plain, ⟨before, operator atom :: read⟩, outer⟩ := if_pos hatom
  rw [hoperator.text, Reader.run_append, h, Option.bind_some, Reader.run_cons, hoperator.step]
  exact congrArg (Option.bind · fun reader => Reader.run reader []) hoperate

/-- Reading the text of an expression after a bar, or at the front, completes the choice. -/
def Completes (r : Regex) : Prop :=
  ∀ before, ∃ level : Level,
    (∀ outer, Reader.run ⟨.plain, ⟨before, []⟩, outer⟩ r.text = some ⟨.plain, level, outer⟩) ∧
      ∀ s, level.regex.Matches s ↔ (∃ first, before = some first ∧ first.Matches s) ∨ r.Matches s

/-- The parts that are added match what the expression matches. -/
theorem Adds.completes {r : Regex} {items : List Regex} (h : Adds r items)
    (hsame : Equivalent (sequence items) r) : Completes r := by
  intro before
  refine ⟨_, h before [], ?_⟩
  intro s
  cases before with
  | none => simp [Level.regex, hsame s]
  | some first => simp [Level.regex, matches_alt_iff, hsame s]

theorem Completes.alt {first second : Regex} (h : Completes first) (h' : Completes second) :
    Completes (.alt first second) := by
  intro before
  obtain ⟨level, hrun, hlevel⟩ := h before
  obtain ⟨level', hrun', hlevel'⟩ := h' (some level.regex)
  refine ⟨level', ?_, ?_⟩
  · intro outer
    -- What has been completed is what stands before the bar.
    have hbar : Reader.step ⟨.plain, level, outer⟩ '|' =
        some ⟨.plain, ⟨some level.regex, []⟩, outer⟩ := rfl
    rw [text, Reader.run_append, hrun, Option.bind_some, Reader.run_cons, hbar, Option.bind_some,
      hrun']
  · intro s
    rw [hlevel', matches_alt_iff, ← or_assoc, ← hlevel]
    simp

/-- A choice in a group is read on a level of its own. -/
theorem Completes.exists_adds_group {inner : Regex} (h : Completes inner) :
    ∃ r, Adds (.group inner) [.group r] ∧ Equivalent r inner := by
  obtain ⟨level, hrun, hlevel⟩ := h none
  refine ⟨level.regex, ?_, ?_⟩
  · intro before read outer
    have hopening : Reader.step ⟨.plain, ⟨before, read⟩, outer⟩ '(' =
        some ⟨.plain, ⟨none, []⟩, ⟨before, read⟩ :: outer⟩ := rfl
    rw [text, List.cons_append, Reader.run_cons, hopening, Option.bind_some, Reader.run_append,
      hrun]
    rfl
  · intro s
    simpa using hlevel s

/-- What reading an expression does: it adds parts that match the same texts, a single part for an
atom. -/
def IsRead (r : Regex) : Prop :=
  ∃ items, Adds r items ∧ Equivalent (sequence items) r ∧
    (r.isAtom = true → ∃ atom, items = [atom] ∧ atom.isAtom = true)

/-- An operator is read with the atom in front of it. -/
theorem IsRead.operated {inner : Regex} {operator : Regex → Regex} {mark : Char}
    (hoperator : IsOperator mark operator) (h : IsRead inner) (hatom : inner.isAtom = true) :
    IsRead (operator inner) := by
  obtain ⟨items, hadds, hsame, hsingle⟩ := h
  obtain ⟨atom, rfl, hitem⟩ := hsingle hatom
  refine ⟨[operator atom], hadds.operated hoperator hitem, hoperator.equivalent _ _ hsame, ?_⟩
  rw [hoperator.isAtom]
  exact fun h => absurd h Bool.false_ne_true

theorem IsRead.completes {r : Regex} (h : IsRead r) : Completes r := by
  obtain ⟨items, hadds, hsame, -⟩ := h
  exact hadds.completes hsame

/-- An atom that is read as an atom. -/
theorem IsRead.of_atom {r atom : Regex} (hadds : Adds r [atom]) (hsame : Equivalent atom r)
    (hatom : atom.isAtom = true) : IsRead r :=
  ⟨[atom], hadds, hsame, fun _ => ⟨atom, rfl, hatom⟩⟩

theorem IsRead.seq {first second : Regex} (h : IsRead first) (h' : IsRead second) :
    IsRead (.seq first second) := by
  obtain ⟨items, hadds, hsame, -⟩ := h
  obtain ⟨items', hadds', hsame', -⟩ := h'
  refine ⟨items ++ items', hadds.seq hadds', ?_, fun hatom => absurd hatom Bool.false_ne_true⟩
  intro s
  simp only [matches_sequence_append_iff, matches_seq_iff, hsame _, hsame' _]

theorem Completes.group {inner : Regex} (h : Completes inner) : IsRead (.group inner) := by
  obtain ⟨r, hadds, hsame⟩ := h.exists_adds_group
  exact .of_atom hadds hsame.group rfl

/-- A readable expression completes a choice, and without a bar outside of its groups it adds its
parts to what has been read. -/
theorem Readable.isRead {r : Regex} (h : r.Readable) :
    Completes r ∧ (r.isChoice = false → IsRead r) := by
  -- All but a choice are read part by part, and that is how they complete a choice.
  have hread : ∀ {r}, IsRead r → Completes r ∧ (r.isChoice = false → IsRead r) :=
    fun h => ⟨h.completes, fun _ => h⟩
  induction r with
  | empty =>
    exact hread ⟨[], adds_empty, fun _ => Iff.rfl, fun hatom => absurd hatom Bool.false_ne_true⟩
  | literal c => exact hread (.of_atom (adds_literal h) (fun _ => Iff.rfl) rfl)
  | escaped c => exact hread (.of_atom (adds_escaped h) (fun _ => Iff.rfl) rfl)
  | oneOf characters => exact hread (.of_atom (adds_oneOf h) (fun _ => Iff.rfl) rfl)
  | seq first second ih ih' =>
    obtain ⟨⟨hfirst, hchoice⟩, hsecond, hchoice'⟩ := h
    exact hread (((ih hfirst).2 hchoice).seq ((ih' hsecond).2 hchoice'))
  | alt first second ih ih' =>
    refine ⟨(ih h.1).1.alt (ih' h.2).1, ?_⟩
    intro hchoice
    cases hchoice
  | group inner ih => exact hread (ih h).1.group
  | star inner ih =>
    have hinner := (ih h.1).2 (isChoice_of_isAtom h.2)
    exact hread (hinner.operated isOperator_star h.2)
  | plus inner ih =>
    have hinner := (ih h.1).2 (isChoice_of_isAtom h.2)
    exact hread (hinner.operated isOperator_plus h.2)
  | optional inner ih =>
    have hinner := (ih h.1).2 (isChoice_of_isAtom h.2)
    exact hread (hinner.operated isOperator_optional h.2)

/-- **Completeness of the reader.** The text of a readable expression is read, with the same
language. -/
theorem Readable.exists_read? {r : Regex} (h : r.Readable) :
    ∃ read, read? r.text = some read ∧ Equivalent read r := by
  obtain ⟨level, hrun, hlevel⟩ := h.isRead.1 none
  refine ⟨level.regex, ?_, ?_⟩
  · have hstart := hrun []
    rw [read?, Reader.start, hstart]
    rfl
  · intro s
    simpa using hlevel s

/-- A pattern accepts the texts of the readable expressions with its text. -/
theorem accepts_iff {pattern s : Text} :
    accepts pattern s = true ↔ ∃ r : Regex, r.Readable ∧ r.text = pattern ∧ r.Matches s := by
  rw [accepts, Option.any_eq_true]
  constructor
  · rintro ⟨r, hread, hmatch⟩
    obtain ⟨hreadable, htext⟩ := text_of_read? hread
    exact ⟨r, hreadable, htext, isMatch_iff_matches.1 hmatch⟩
  · rintro ⟨r, hreadable, rfl, hmatch⟩
    obtain ⟨read, hread, hsame⟩ := hreadable.exists_read?
    exact ⟨read, hread, isMatch_iff_matches.2 ((hsame s).2 hmatch)⟩

/-- So the text of a readable expression accepts what the expression matches. -/
theorem Readable.accepts_text {r : Regex} (h : r.Readable) (s : Text) :
    accepts r.text s = r.isMatch s := by
  obtain ⟨read, hread, hsame⟩ := h.exists_read?
  rw [accepts, hread, Option.any_some, Bool.eq_iff_iff, isMatch_iff_matches, isMatch_iff_matches]
  exact hsame s

/-- A backslash behind a backslash stands for itself. -/
example : accepts "\\\\s*".toList "\\ss".toList = true := by decide

end Regex

end DocShape
