import DocShape.Proofs.Conformance
import DocShape.Proofs.Violations
import Mathlib.Data.List.TakeDrop

/-!
# Reading tokens

Expressions let some things through that a reader stops at: a control character in a string, a blank
between tokens that JSON does not know, a number with more digits than a dialect allows. So the
reader is not said to read a text of tokens, but to answer in one of two ways (`Json.Answers`): it
reads what is wanted and leaves the rest as it is, or it stops, and then the text was not a good one.
Such answers are put together like the parts of the reader (`Json.Answers.andThen`,
`Json.Answers.afterGap`), and only at the end is the text asked to be good.

The tokens of primitive kinds are read here, each up to a character that ends a bare word
(`Json.value_primitive_answers`): strings by their units (`Json.stringUnits_cons`), where a string
that is written is read as the text it was written from (`Json.stringBody_flatMap_stringChar`), and
numbers by their parts, none of which goes on where the next one begins (`Json.number_answers`).

Relation: `Json.value` at any level of nesting. Dialects may be any.
-/

set_option autoImplicit false

namespace DocShape.Json

/-! ## Answers -/

/-- An answer of a reader where a certain text should remain: something as wanted was read and that
text remains, or reading stopped, which is not supposed to happen to a good text. -/
def Answers {α : Type} (answer : Reading α) (good : Prop) (wanted : α → Prop) (rest : Text) :
    Prop :=
  match answer with
  | .ok (a, rest') => wanted a ∧ rest' = rest
  | .error _ => ¬ good

/-- A text may be asked more of before it counts as good. -/
theorem Answers.mono {α : Type} {answer : Reading α} {good good' : Prop} {wanted : α → Prop}
    {rest : Text} (h : Answers answer good wanted rest) (hgood : good' → good) :
    Answers answer good' wanted rest := by
  rcases answer with halt | ⟨a, rest'⟩
  · exact mt hgood h
  · exact h

theorem Answers.imp {α : Type} {answer : Reading α} {good : Prop} {wanted wanted' : α → Prop}
    {rest : Text} (h : Answers answer good wanted rest) (hwanted : ∀ a, wanted a → wanted' a) :
    Answers answer good wanted' rest := by
  rcases answer with halt | ⟨a, rest'⟩
  · exact h
  · exact ⟨hwanted a h.1, h.2⟩

theorem Answers.map {α β : Type} {answer : Reading α} {good : Prop} {wanted : α → Prop}
    {wanted' : β → Prop} {rest : Text} (h : Answers answer good wanted rest) {f : α → β}
    (hwanted : ∀ a, wanted a → wanted' (f a)) :
    Answers (Except.map (fun (a, rest) => (f a, rest)) answer) good wanted' rest := by
  rcases answer with halt | ⟨a, rest'⟩
  · exact h
  · exact ⟨hwanted a h.1, h.2⟩

/-- What is read where a first part ends. -/
def andThen {α β : Type} (answer : Reading α) (next : α → Text → Reading β) : Reading β :=
  match answer with
  | .error halt => .error halt
  | .ok (a, rest) => next a rest

theorem Answers.andThen {α β : Type} {answer : Reading α} {good : Prop} {wanted : α → Prop}
    {wanted' : β → Prop} {rest rest' : Text} (h : Answers answer good wanted rest)
    {next : α → Text → Reading β}
    (hnext : ∀ a, wanted a → Answers (next a rest) good wanted' rest') :
    Answers (andThen answer next) good wanted' rest' := by
  rcases answer with halt | ⟨a, rest⟩
  · exact h
  · obtain ⟨ha, rfl⟩ := h
    exact hnext a ha

/-- A text without control characters and without blanks other than spaces. -/
def Plain (text : Text) : Prop :=
  ∀ c ∈ text, 0x20 ≤ c.toNat ∧ (Text.isBlank c = true → c = ' ')

/-- A dialect affords the digits of a text. One more has to be left where a sign counts as one. -/
def Dialect.Affords (dialect : Dialect) (text : Text) : Prop :=
  ∀ run, run <:+: text → (∀ c ∈ run, Text.isDigit c = true) →
    run.length + (if dialect.signedWholePart then 1 else 0) ≤ dialect.digits

/-- A text a reader should not stop in for its characters or its digits. -/
def Legible (dialect : Dialect) (text : Text) : Prop := Plain text ∧ dialect.Affords text

theorem Legible.part {dialect : Dialect} {s t : Text} (h : Legible dialect t) (hs : s <:+: t) :
    Legible dialect s :=
  ⟨fun c hc => h.1 c (hs.subset hc), fun run hrun => h.2 run (hrun.trans hs)⟩

theorem Legible.left {dialect : Dialect} {s t : Text} (h : Legible dialect (s ++ t)) :
    Legible dialect s :=
  h.part (List.prefix_append s t).isInfix

theorem Legible.right {dialect : Dialect} {s t : Text} (h : Legible dialect (s ++ t)) :
    Legible dialect t :=
  h.part (List.suffix_append s t).isInfix

/-! ## Blanks between tokens -/

theorem isBlank_of_isGap {c : Char} (h : isGap c = true) : Text.isBlank c = true := by
  simp only [isGap, Bool.or_eq_true, decide_eq_true_eq] at h
  rcases h with ((rfl | rfl) | rfl) | rfl <;> decide

/-- A text that begins with a blank no reader skips. -/
def Stuck (text : Text) : Prop :=
  ∃ c rest, text = c :: rest ∧ Text.isBlank c = true ∧ isGap c = false

theorem skipGap_eq_self {text : Text} (h : ∀ c ∈ text.head?, Text.isBlank c = false) :
    skipGap text = text := by
  rcases text with _ | ⟨c, text⟩
  · rfl
  · have hc : ¬ isGap c = true := fun hgap => by
      have hblank := h c rfl
      rw [isBlank_of_isGap hgap] at hblank
      cases hblank
    rw [skipGap, List.dropWhile_cons_of_neg hc]

/-- The blanks before a token are skipped, unless one of them is not plain. -/
theorem skipGap_append {gap text : Text} (hgap : AllBlank gap)
    (h : ∀ c ∈ text.head?, Text.isBlank c = false) :
    skipGap (gap ++ text) = text ∨ (Stuck (skipGap (gap ++ text)) ∧ ¬ Plain gap) := by
  induction gap with
  | nil => exact .inl (skipGap_eq_self h)
  | cons c gap ih =>
    obtain ⟨hc, hrest⟩ := List.forall_mem_cons.1 hgap
    by_cases hskip : isGap c = true
    · have hstep : skipGap (c :: gap ++ text) = skipGap (gap ++ text) := by
        rw [List.cons_append, skipGap, List.dropWhile_cons_of_pos hskip]
        rfl
      rw [hstep]
      refine (ih hrest).imp_right (And.imp_right fun hgap hplain => hgap fun d hd => ?_)
      exact hplain d (List.mem_cons_of_mem c hd)
    · have hstep : skipGap (c :: gap ++ text) = c :: (gap ++ text) := by
        rw [List.cons_append, skipGap, List.dropWhile_cons_of_neg hskip]
      refine .inr ⟨⟨c, gap ++ text, hstep, hc, Bool.eq_false_iff.2 hskip⟩, fun hplain => hskip ?_⟩
      rw [(hplain c List.mem_cons_self).2 hc]
      rfl

/-- Blanks are read over, unless they keep the reader from what follows. -/
theorem Answers.afterGap {α : Type} {next : Text → Reading α} {good : Prop} {wanted : α → Prop}
    {text rest : Text} (h : Answers (next text) good wanted rest)
    (hstuck : ∀ text, Stuck text → ∃ halt, next text = .error halt) {gap : Text}
    (hgap : AllBlank gap) (hhead : ∀ c ∈ text.head?, Text.isBlank c = false)
    (hplain : good → Plain gap) : Answers (next (skipGap (gap ++ text))) good wanted rest := by
  rcases skipGap_append hgap hhead with hskip | ⟨hskip, hnone⟩
  · rw [hskip]
    exact h
  · obtain ⟨halt, hhalt⟩ := hstuck _ hskip
    rw [hhalt]
    exact fun hgood => hnone (hplain hgood)

/-! ## Strings -/

/-- A character that is neither a quotation mark nor a backslash stands for itself, unless it is a
control character. -/
theorem stringUnits_cons {c : Char} (hquote : c ≠ '"') (hbackslash : c ≠ '\\') (opened : Nat)
    (rest : Text) :
    stringUnits opened (c :: rest) =
      if c.toNat < 0x20 then .error (.fault .controlCharacter (rest.length + 1))
      else (stringUnits opened rest).map fun (units, rest) => (c.toNat :: units, rest) := by
  rw [stringUnits]
  · exact hquote
  all_goals
    intros
    exact hbackslash ‹_›

/-- A letter behind a backslash stands for the character it denotes. -/
theorem stringUnits_escaped {letter c : Char} (h : escaped? letter = some c) (opened : Nat)
    (rest : Text) :
    stringUnits opened ('\\' :: letter :: rest) =
      (stringUnits opened rest).map fun (units, rest) => (c.toNat :: units, rest) := by
  have hletter : letter ≠ 'u' := by
    rintro rfl
    cases h
  rw [stringUnits]
  · rw [h]
  all_goals
    intros
    exact hletter ‹_›

/-- A control character is read from the digits of its code point. -/
theorem stringUnits_unitEscape {unit : Nat} (hunit : unit < 0x20) (opened : Nat) {rest : Text}
    (hrest : rest ≠ []) :
    stringUnits opened (unitEscape unit ++ rest) =
      (stringUnits opened rest).map fun (units, rest) => (unit :: units, rest) := by
  obtain ⟨a, b, c, d, hdigits, hvalue⟩ := exists_digits_of_unitEscape hunit
  rw [hdigits]
  have hempty : rest.isEmpty = false := by simpa using hrest
  simp only [List.cons_append, List.nil_append, stringUnits, hempty, hvalue, Bool.false_eq_true,
    if_false]

/-- A character is read as it is written. -/
theorem stringUnits_stringChar (c : Char) (opened : Nat) {rest : Text} (hrest : rest ≠ []) :
    stringUnits opened (stringChar false c ++ rest) =
      (stringUnits opened rest).map fun (units, rest) => (c.toNat :: units, rest) := by
  rcases stringChar_cases c with ⟨heq, hquote, hbackslash, hlow⟩ | ⟨letter, heq, hletter, _⟩ |
    ⟨heq, hlow⟩
  · rw [heq, List.singleton_append, stringUnits_cons hquote hbackslash,
      if_neg (Nat.not_lt.2 hlow)]
  · rw [heq]
    exact stringUnits_escaped hletter opened rest
  · rw [heq]
    exact stringUnits_unitEscape hlow opened hrest

/-- A text is read from its string, unit by unit. -/
theorem stringUnits_flatMap (text : Text) (opened : Nat) (rest : Text) :
    stringUnits opened (text.flatMap (stringChar false) ++ '"' :: rest) =
      .ok (text.map Char.toNat, rest) := by
  induction text with
  | nil => rw [List.flatMap_nil, List.nil_append, stringUnits, List.map_nil]
  | cons c text ih =>
    rw [List.flatMap_cons, List.append_assoc,
      stringUnits_stringChar c opened (List.append_ne_nil_of_right_ne_nil _ (List.cons_ne_nil _ _)),
      ih]
    rfl

/-- A unit that is not half of a character is a character by itself. -/
theorem ofUnits_cons {unit : Nat} (h : ¬ (0xD800 ≤ unit ∧ unit < 0xE000)) (units : List Nat) :
    ofUnits (unit :: units) = Char.ofNat unit :: ofUnits units ∧
      isPaired (unit :: units) = isPaired units := by
  have hhigh : ¬ (0xD800 ≤ unit ∧ unit < 0xDC00) := by omega
  have hbelow : unit < 0xDC00 ∨ 0xE000 ≤ unit := by omega
  have houtside : unit < 0xD800 ∨ 0xE000 ≤ unit := by omega
  -- two units are put together only where the first one is the upper half
  cases units with
  | nil => simp [ofUnits, isPaired, h, houtside]
  | cons next units => simp [ofUnits, isPaired, h, hhigh, hbelow]

/-- Characters are put together from their code points, and none is half of one. -/
theorem ofUnits_map_toNat (text : Text) :
    ofUnits (text.map Char.toNat) = text ∧ isPaired (text.map Char.toNat) = true := by
  induction text with
  | nil => exact ⟨rfl, rfl⟩
  | cons c text ih =>
    have hwhole : ¬ (0xD800 ≤ c.toNat ∧ c.toNat < 0xE000) := by
      have hvalid : c.toNat < 0xD800 ∨ 0xDFFF < c.toNat ∧ c.toNat < 0x110000 := c.valid
      omega
    obtain ⟨hunits, hpaired⟩ := ofUnits_cons hwhole (text.map Char.toNat)
    rw [List.map_cons, hunits, hpaired, Char.ofNat_toNat, ih.1]
    exact ⟨rfl, ih.2⟩

/-- The string of a text is read as the text. -/
theorem stringBody_flatMap_stringChar (dialect : Dialect) (text rest : Text) :
    stringBody dialect (text.flatMap (stringChar false) ++ '"' :: rest) = .ok (text, rest) := by
  obtain ⟨hunits, hpaired⟩ := ofUnits_map_toNat text
  simp [stringBody, stringUnits_flatMap, hunits, hpaired]

/-- A control character stops the reader. -/
theorem stringUnits_control {body : Text} (hplain : ∀ c ∈ body, c ≠ '"' ∧ c ≠ '\\')
    (hcontrol : ∃ c ∈ body, c.toNat < 0x20) (opened : Nat) (rest : Text) :
    ∃ halt, stringUnits opened (body ++ rest) = .error halt := by
  induction body with
  | nil => simp at hcontrol
  | cons c body ih =>
    obtain ⟨⟨hquote, hbackslash⟩, hbody⟩ := List.forall_mem_cons.1 hplain
    rw [List.cons_append, stringUnits_cons hquote hbackslash]
    by_cases hc : c.toNat < 0x20
    · rw [if_pos hc]
      exact ⟨_, rfl⟩
    · rw [if_neg hc]
      have hmore : ∃ d ∈ body, d.toNat < 0x20 := by
        obtain ⟨d, hd, hlow⟩ := hcontrol
        rcases List.mem_cons.1 hd with rfl | hd
        · exact absurd hlow hc
        · exact ⟨d, hd, hlow⟩
      obtain ⟨halt, hhalt⟩ := ih hbody hmore
      rw [hhalt]
      exact ⟨halt, rfl⟩

/-- A string without escapes is read, unless a control character stops the reader. -/
theorem stringBody_answers (dialect : Dialect) {body : Text}
    (hplain : ∀ c ∈ body, c ≠ '"' ∧ c ≠ '\\') (rest : Text) :
    Answers (stringBody dialect (body ++ '"' :: rest)) (Legible dialect body) (fun _ => True)
      rest := by
  -- the expression lets control characters through, and the reader does not
  by_cases hcontrol : ∃ c ∈ body, c.toNat < 0x20
  · obtain ⟨halt, hhalt⟩ := stringUnits_control hplain hcontrol
      ((body ++ '"' :: rest).length + 1) ('"' :: rest)
    rw [stringBody, hhalt]
    obtain ⟨c, hc, hlow⟩ := hcontrol
    exact fun hlegible => absurd hlow (Nat.not_lt.2 (hlegible.1 c hc).1)
  · have hwritten : body.flatMap (stringChar false) = body := by
      apply flatMap_stringChar_eq_self
      intro c hc
      exact ⟨(hplain c hc).1, (hplain c hc).2, Nat.le_of_not_lt fun h => hcontrol ⟨c, hc, h⟩⟩
    have hread := stringBody_flatMap_stringChar dialect body rest
    rw [hwritten] at hread
    rw [hread]
    exact ⟨trivial, rfl⟩

/-! ## Numbers -/

theorem isWhole_of_matches {s : Text}
    (h : Regex.Matches
      (.group (.alt (.literal '0') (.seq (.oneOf (.range '1' '9')) (.star Regex.digit)))) s) :
    IsWhole s := by
  rcases Regex.matches_alt_iff.1 (Regex.matches_group_iff.1 h) with hzero | hdigits
  · exact .inl (Regex.matches_literal_iff.1 hzero)
  · obtain ⟨u, rest, hu, hrest, rfl⟩ := Regex.matches_seq_iff.1 hdigits
    obtain ⟨c, rfl, hc⟩ := Regex.matches_oneOf_iff.1 hu
    exact .inr ⟨c, rest, rfl, hc, Regex.matches_star_oneOf_iff.1 hrest⟩

theorem isFraction_of_matches {s : Text}
    (h : Regex.Matches (.optional (.group (.seq (.escaped '.') (.plus Regex.digit)))) s) :
    IsFraction s := by
  rcases Regex.matches_optional_iff.1 h with rfl | h
  · exact .inl rfl
  · obtain ⟨u, digits, hu, hdigits, rfl⟩ :=
      Regex.matches_seq_iff.1 (Regex.matches_group_iff.1 h)
    obtain rfl := Regex.matches_escaped_iff.1 hu
    obtain ⟨hne, hdigits⟩ := Regex.matches_plus_oneOf_iff.1 hdigits
    exact .inr ⟨digits, hne, hdigits, rfl⟩

/-- An exponent as it may be read: nothing, or its letter, perhaps a sign, and digits. -/
def IsScale (s : Text) : Prop :=
  s = [] ∨ ∃ letter sign digits, (letter = 'e' ∨ letter = 'E') ∧
    (sign = [] ∨ sign = ['+'] ∨ sign = ['-']) ∧ digits ≠ [] ∧
    (∀ c ∈ digits, Text.isDigit c = true) ∧ s = letter :: (sign ++ digits)

theorem isScale_of_matches {s : Text}
    (h : Regex.Matches (.optional (.group (Regex.sequence
      [.oneOf (.either 'e' 'E'), .optional (.oneOf (.either '+' '-')), .plus Regex.digit]))) s) :
    IsScale s := by
  have heither {a b c : Char} (hc : (CharClass.either a b).has c = true) : c = a ∨ c = b := by
    rwa [CharClass.has, Bool.or_eq_true, beq_iff_eq, beq_iff_eq] at hc
  rcases Regex.matches_optional_iff.1 h with rfl | h
  · exact .inl rfl
  · obtain ⟨u, v, hu, hv, rfl⟩ := Regex.matches_seq_iff.1 (Regex.matches_group_iff.1 h)
    obtain ⟨letter, rfl, hletter⟩ := Regex.matches_oneOf_iff.1 hu
    obtain ⟨sign, digits, hsign, hdigits, rfl⟩ := Regex.matches_seq_iff.1 hv
    obtain ⟨hne, hdigits⟩ := Regex.matches_plus_oneOf_iff.1 hdigits
    refine .inr ⟨letter, sign, digits, heither hletter, ?_, hne, hdigits, rfl⟩
    rcases Regex.matches_optional_iff.1 hsign with rfl | hsign
    · exact .inl rfl
    · obtain ⟨c, rfl, hc⟩ := Regex.matches_oneOf_iff.1 hsign
      exact .inr ((heither hc).imp (congrArg (fun c => [c])) (congrArg (fun c => [c])))

/-- The parts of a number that is matched. -/
theorem exists_parts_of_matches {s : Text} (h : Regex.numberValue.Matches s) :
    ∃ sign whole fraction exponent : Text, (sign = [] ∨ sign = ['-']) ∧ IsWhole whole ∧
      IsFraction fraction ∧ IsScale exponent ∧ s = sign ++ (whole ++ (fraction ++ exponent)) := by
  obtain ⟨sign, _, hsign, hunsigned, rfl⟩ := Regex.matches_seq_iff.1 h
  obtain ⟨whole, _, hwhole, hrest, rfl⟩ := Regex.matches_seq_iff.1 hunsigned
  obtain ⟨fraction, exponent, hfraction, hexponent, rfl⟩ := Regex.matches_seq_iff.1 hrest
  refine ⟨sign, whole, fraction, exponent, ?_, isWhole_of_matches hwhole,
    isFraction_of_matches hfraction, isScale_of_matches hexponent, rfl⟩
  exact (Regex.matches_optional_iff.1 hsign).imp_right Regex.matches_literal_iff.1

/-- What follows a number: nothing, or a character that no number goes on with. -/
def EndsNumber (rest : Text) : Prop :=
  ∀ c ∈ rest.head?, Text.isDigit c = false ∧ c ≠ '.' ∧ c ≠ 'e' ∧ c ≠ 'E'

theorem endsNumber_of_delimits {rest : Text} (h : ∀ c ∈ rest.head?, delimits c = true) :
    EndsNumber rest := by
  intro c hc
  have hdelimits := h c hc
  refine ⟨Bool.eq_false_iff.2 fun hdigit => ?_, ?_, ?_, ?_⟩
  · rw [delimits_of_isDigit hdigit] at hdelimits
    exact Bool.false_ne_true hdelimits
  all_goals
    rintro rfl
    revert hdelimits
    decide

theorem digitRun_append {digits rest : Text} (hdigits : ∀ c ∈ digits, Text.isDigit c = true)
    (hrest : ∀ c ∈ rest.head?, Text.isDigit c = false) :
    digitRun (digits ++ rest) = (digits, rest) := by
  rw [digitRun, List.span_eq_takeWhile_dropWhile, List.takeWhile_append_of_pos hdigits,
    List.dropWhile_append_of_pos hdigits]
  rcases rest with _ | ⟨c, rest⟩
  · rw [List.takeWhile_nil, List.append_nil, List.dropWhile_nil]
  · have hc : ¬ Text.isDigit c = true := Bool.eq_false_iff.1 (hrest c rfl)
    rw [List.takeWhile_cons_of_neg hc, List.append_nil, List.dropWhile_cons_of_neg hc]

theorem isDigit_of_has_range {c : Char} (h : (CharClass.range '1' '9').has c = true) :
    Text.isDigit c = true ∧ c ≠ '0' := by
  rw [CharClass.has, Bool.and_eq_true, decide_eq_true_eq, decide_eq_true_eq] at h
  have hone : '1'.toNat = '0'.toNat + 1 := rfl
  constructor
  · rw [Text.isDigit, Bool.and_eq_true, decide_eq_true_eq, decide_eq_true_eq]
    omega
  · rintro rfl
    omega

theorem wholePart?_append {whole rest : Text} (hwhole : IsWhole whole)
    (hrest : ∀ c ∈ rest.head?, Text.isDigit c = false) :
    wholePart? (whole ++ rest) = some (whole, rest) := by
  rcases hwhole with rfl | ⟨c, digits, rfl, hc, hdigits⟩
  · rfl
  · obtain ⟨hdigit, hzero⟩ := isDigit_of_has_range hc
    rw [List.cons_append, wholePart?, if_neg hzero, if_pos hdigit, digitRun_append hdigits hrest]

/-- A fraction is read to its end. -/
theorem exists_fractionPart_append {fraction rest : Text} (hfraction : IsFraction fraction)
    (hrest : ∀ c ∈ rest.head?, Text.isDigit c = false ∧ c ≠ '.') :
    ∃ part, fractionPart (fraction ++ rest) = (part, rest) := by
  rcases hfraction with rfl | ⟨digits, hne, hdigits, rfl⟩
  · refine ⟨none, ?_⟩
    rcases rest with _ | ⟨c, rest⟩
    · rfl
    · have hpoint := (hrest c rfl).2
      rw [List.nil_append, fractionPart]
      intro rest heq
      exact hpoint (List.cons.inj heq).1
  · have hrun := digitRun_append hdigits fun c hc => (hrest c hc).1
    rcases digits with _ | ⟨d, digits⟩
    · exact absurd rfl hne
    · refine ⟨some (d :: digits), ?_⟩
      rw [List.cons_append, fractionPart, hrun]

/-- An exponent is read to its end. -/
theorem exists_exponentPart_append {exponent rest : Text} (hexponent : IsScale exponent)
    (hrest : EndsNumber rest) : ∃ part, exponentPart (exponent ++ rest) = (part, rest) := by
  rcases hexponent with rfl | ⟨letter, sign, digits, hletter, hsign, hne, hdigits, rfl⟩
  · refine ⟨none, ?_⟩
    rcases rest with _ | ⟨c, rest⟩
    · rfl
    · obtain ⟨-, -, hsmall, hcapital⟩ := hrest c rfl
      simp [exponentPart, hsmall, hcapital]
  · have hrun := digitRun_append hdigits fun c hc => (hrest c hc).1
    have hmark : (decide (letter = 'e') || decide (letter = 'E')) = true := by
      simpa using hletter
    rcases digits with _ | ⟨d, digits⟩
    · exact absurd rfl hne
    · -- a digit is no sign
      have hd := hdigits d List.mem_cons_self
      have hminus : d ≠ '-' := by
        rintro rfl
        exact absurd hd (by decide)
      have hplus : d ≠ '+' := by
        rintro rfl
        exact absurd hd (by decide)
      have hsigned : signPart (sign ++ (d :: digits ++ rest)) =
          (decide (sign = ['-']), d :: digits ++ rest) := by
        rcases hsign with rfl | rfl | rfl
        · simp [signPart, hminus, hplus]
        · rfl
        · rfl
      rw [List.cons_append, List.append_assoc, exponentPart, if_pos hmark, hsigned]
      simp only [hrun]
      exact ⟨_, rfl⟩

theorem hasValue_ofWhole (dialect : Dialect) (n : Int) :
    Primitive.number.hasValue (ofWhole dialect n) = true := by
  rw [ofWhole]
  split <;> rfl

/-- The parts of a number make a number, unless it has too many digits. -/
theorem ofParts_answers {dialect : Dialect} {whole : Text}
    (hdigits : ∀ c ∈ whole, Text.isDigit c = true) (negative : Bool) (fraction : Option Text)
    (exponent : Option Int) (rest : Text) :
    Answers ((ofParts dialect negative whole fraction exponent).map fun value => (value, rest))
      (dialect.Affords whole) (fun value => Primitive.number.hasValue value = true) rest := by
  have hsign : (if dialect.signedWholePart && negative then 1 else 0) ≤
      if dialect.signedWholePart then 1 else 0 := by
    cases dialect.signedWholePart <;> cases negative <;> decide
  rw [ofParts]
  -- of the sign only matters that room is left for it
  generalize (if dialect.signedWholePart && negative then 1 else 0) = extra at hsign ⊢
  by_cases htoo : (decide (dialect.digits < whole.length + extra) &&
      ((fraction.isNone && exponent.isNone) || dialect.signedWholePart)) = true
  · rw [if_pos htoo]
    intro hroom
    have hle := hroom whole (List.infix_refl whole) hdigits
    rw [Bool.and_eq_true, decide_eq_true_eq] at htoo
    omega
  · rw [if_neg htoo]
    split
    · exact ⟨hasValue_ofWhole dialect _, rfl⟩
    · exact ⟨rfl, rfl⟩

/-- A whole part is digits. -/
theorem digits_of_isWhole {whole : Text} (h : IsWhole whole) :
    whole ≠ [] ∧ ∀ c ∈ whole, Text.isDigit c = true := by
  rcases h with rfl | ⟨c, rest, rfl, hc, hrest⟩
  · exact ⟨List.cons_ne_nil _ _, List.forall_mem_singleton.2 rfl⟩
  · exact ⟨List.cons_ne_nil c rest, List.forall_mem_cons.2 ⟨(isDigit_of_has_range hc).1, hrest⟩⟩

/-- A number is read to its end, unless it has too many digits. -/
theorem number_answers {dialect : Dialect} {s : Text} (h : Regex.numberValue.Matches s)
    {rest : Text} (hrest : ∀ c ∈ rest.head?, delimits c = true) :
    Answers (number dialect (s ++ rest)) (Legible dialect s)
      (fun value => Primitive.number.hasValue value = true) rest := by
  obtain ⟨sign, whole, fraction, exponent, hsign, hwhole, hfraction, hexponent, rfl⟩ :=
    exists_parts_of_matches h
  have hends := endsNumber_of_delimits hrest
  -- what follows a part is no part of it
  have hscale : ∀ c ∈ (exponent ++ rest).head?, Text.isDigit c = false ∧ c ≠ '.' := by
    rcases hexponent with rfl | ⟨letter, _, _, hletter, _, _, _, rfl⟩
    · exact fun c hc => ⟨(hends c hc).1, (hends c hc).2.1⟩
    · intro c hc
      obtain rfl := Option.some.inj hc
      rcases hletter with rfl | rfl <;> decide
  have hafter : ∀ c ∈ (fraction ++ (exponent ++ rest)).head?, Text.isDigit c = false := by
    rcases hfraction with rfl | ⟨_, _, _, rfl⟩
    · exact fun c hc => (hscale c hc).1
    · intro c hc
      obtain rfl := Option.some.inj hc
      decide
  obtain ⟨exponentValue, hexponentPart⟩ := exists_exponentPart_append hexponent hends
  obtain ⟨digits, hfractionPart⟩ := exists_fractionPart_append hfraction hscale
  have hwholePart := wholePart?_append hwhole hafter
  obtain ⟨hne, hdigits⟩ := digits_of_isWhole hwhole
  -- each part is read where the one before it ends
  have hnumber : number dialect (sign ++ (whole ++ (fraction ++ (exponent ++ rest)))) =
      (ofParts dialect (decide (sign = ['-'])) whole digits exponentValue).map fun value =>
        (value, rest) := by
    rcases hsign with rfl | rfl
    · rcases whole with _ | ⟨c, whole⟩
      · exact absurd rfl hne
      · have hminus : c ≠ '-' := by
          rintro rfl
          exact absurd (hdigits '-' List.mem_cons_self) (by decide)
        rw [List.cons_append] at hwholePart
        simp [number, hminus, hwholePart, hfractionPart, hexponentPart]
    · simp [number, hwholePart, hfractionPart, hexponentPart]
  simp only [List.append_assoc]
  rw [hnumber]
  exact (ofParts_answers hdigits _ _ _ rest).mono fun hlegible => hlegible.right.left.2

/-! ## Values of one token -/

/-- The characters that a value begins with which is no number. -/
def openings : Text := ['"', '\x7b', '[', 'n', 't', 'f', 'N', 'I']

/-- What begins like a number is no word. -/
theorem word?_eq_none {c : Char} {text : Text} (hc : c ∉ openings)
    (hminus : c = '-' → text.head? ≠ some 'I') : word? (c :: text) = none := by
  simp only [openings, List.mem_cons, List.not_mem_nil, or_false, not_or] at hc
  obtain ⟨-, -, -, hn, ht, hf, hN, hI⟩ := hc
  have hother {first : Char} (hne : c ≠ first) (word : Text) :
      Text.afterStart? (first :: word) (c :: text) = none := by
    rw [Text.afterStart?, if_neg hne.symm]
  have hinfinity : Text.afterStart? "-Infinity".toList (c :: text) = none := by
    by_cases hsign : c = '-'
    · subst hsign
      rcases text with _ | ⟨d, text⟩
      · rfl
      · have hd : ¬ 'I' = d := fun heq => hminus rfl (by rw [heq]; rfl)
        have hword : "-Infinity".toList = '-' :: 'I' :: "nfinity".toList := rfl
        rw [hword, Text.afterStart?, if_pos rfl, Text.afterStart?, if_neg hd]
    · exact hother hsign _
  have hwords : words.map Prod.fst =
      ["null".toList, "true".toList, "false".toList, "NaN".toList, "Infinity".toList,
        "-Infinity".toList] := rfl
  -- the words begin with five different letters, or with a sign and one of them
  have hnone : ∀ word ∈ words.map Prod.fst, Text.afterStart? word (c :: text) = none := by
    rw [hwords]
    simp only [List.forall_mem_cons]
    exact ⟨hother hn _, hother ht _, hother hf _, hother hN _, hother hI _, hinfinity,
      List.forall_mem_nil _⟩
  rw [word?, List.findSome?_eq_none_iff]
  rintro ⟨word, value⟩ hentry
  simp only [hnone word (List.mem_map_of_mem hentry), Option.map_none]

theorem value_eq_number {c : Char} {text : Text} (hc : c ∉ openings)
    (hminus : c = '-' → text.head? ≠ some 'I') (dialect : Dialect) (nesting : Nat) :
    value dialect nesting (c :: text) = number dialect (c :: text) := by
  have hwith (container : Container → Text → Reading Json) :
      valueWith dialect container (c :: text) = number dialect (c :: text) := by
    rw [valueWith, word?_eq_none hc hminus]
    all_goals
      intro rest heq
      obtain rfl := (List.cons.inj heq).1
      exact hc (by decide)
  cases nesting with
  | zero => exact hwith _
  | succ nesting => exact hwith _

/-- No number begins with a blank. -/
theorem number_of_isBlank {c : Char} (hblank : Text.isBlank c = true) (dialect : Dialect)
    (text : Text) : number dialect (c :: text) = .error (.fault .expectedValue (text.length + 1)) := by
  have hminus : c ≠ '-' := by
    rintro rfl
    exact absurd hblank (by decide)
  have hdigit : ¬ Text.isDigit c = true := fun hdigit => by
    have hends := delimits_of_isBlank hblank
    rw [delimits_of_isDigit hdigit] at hends
    cases hends
  have hzero : c ≠ '0' := by
    rintro rfl
    exact hdigit rfl
  have hwhole : wholePart? (c :: text) = none := by
    rw [wholePart?, if_neg hzero, if_neg hdigit]
  simp [number, hminus, hwhole]

/-- There is no value where a reader is stuck. -/
theorem Stuck.value {text : Text} (h : Stuck text) (dialect : Dialect) (nesting : Nat) :
    ∃ halt, value dialect nesting text = .error halt := by
  obtain ⟨c, text, rfl, hblank, -⟩ := h
  have hopening : c ∉ openings := fun hc => by
    have hnone : openings.any Text.isBlank = false := by decide
    exact List.any_eq_false.1 hnone c hc hblank
  have hminus : c = '-' → text.head? ≠ some 'I' := by
    rintro rfl
    exact absurd hblank (by decide)
  rw [value_eq_number hopening hminus, number_of_isBlank hblank]
  exact ⟨_, rfl⟩

/-- What a number begins with. -/
theorem head_of_matches_numberValue {s : Text} (h : Regex.numberValue.Matches s) :
    ∃ c text, s = c :: text ∧ c ∉ openings ∧
      (c = '-' → ∃ d more, text = d :: more ∧ Text.isDigit d = true) := by
  obtain ⟨sign, whole, fraction, exponent, hsign, hwhole, -, -, rfl⟩ := exists_parts_of_matches h
  obtain ⟨hne, hdigits⟩ := digits_of_isWhole hwhole
  obtain ⟨d, digits, rfl⟩ := List.exists_cons_of_ne_nil hne
  have hd := hdigits d List.mem_cons_self
  rcases hsign with rfl | rfl
  · refine ⟨d, _, rfl, fun hmem => ?_, ?_⟩
    · have hnone : openings.any Text.isDigit = false := by decide
      exact List.any_eq_false.1 hnone d hmem hd
    · rintro rfl
      exact absurd hd (by decide)
  · exact ⟨'-', _, rfl, by decide, fun _ => ⟨d, _, rfl, hd⟩⟩

/-- A token of a primitive kind is read as a value of that kind. -/
theorem value_primitive_answers (dialect : Dialect) (nesting : Nat) {kind : Primitive} {token : Text}
    (h : (Shape.primitive kind).regex.Matches token) {rest : Text}
    (hrest : ∀ c ∈ rest.head?, delimits c = true) :
    Answers (value dialect nesting (token ++ rest)) (Legible dialect token)
      (fun value => kind.hasValue value = true) rest := by
  cases kind with
  | string =>
    obtain ⟨body, hplain, rfl⟩ := matches_stringValue_iff.1 h
    have hbody := stringBody_answers dialect hplain rest
    have hvalue : value dialect nesting ('"' :: (body ++ ['"']) ++ rest) =
        (stringBody dialect (body ++ '"' :: rest)).map fun read => (.string read.1, read.2) := by
      rw [List.cons_append, List.append_assoc]
      cases nesting <;> rfl
    rw [hvalue]
    have hlegible (h : Legible dialect ('"' :: (body ++ ['"']))) : Legible dialect body :=
      h.part (List.infix_append ['"'] body ['"'])
    exact (hbody.mono hlegible).map (f := Json.string) fun text _ => rfl
  | number =>
    obtain ⟨c, text, rfl, hopening, hminus⟩ := head_of_matches_numberValue h
    have hinfinity : c = '-' → (text ++ rest).head? ≠ some 'I' := by
      intro hc
      obtain ⟨d, more, rfl, hd⟩ := hminus hc
      intro heq
      obtain rfl := Option.some.inj heq
      exact absurd hd (by decide)
    rw [List.cons_append, value_eq_number hopening hinfinity]
    exact number_answers h hrest
  | boolean =>
    have hbool := matches_booleanValue_iff.1 h
    rcases hbool with rfl | rfl
    · cases nesting <;> exact ⟨rfl, rfl⟩
    · cases nesting <;> exact ⟨rfl, rfl⟩

end DocShape.Json
