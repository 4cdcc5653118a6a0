import DocShape.Proofs.Reading

/-!
# Reading containers

Arrays and objects are read in one way, with their own marks and their own elements: `Json.items` and
`Json.members` are the same loop (`Json.elements`), whose elements are values or members
(`Json.items_eq_elements`, `Json.members_eq_elements`). If each element answers a part of the tokens
as wanted, the loop answers all parts with commas between them (`Json.elements_answers`, by induction
on the parts), and the container answers its tokens (`Json.value_container_answers`).

Blanks may stand between all tokens. A reader skips those that JSON knows and halts in front of the
others (`Json.HaltedByBlanks`), as none of its parts begins with a blank.

Relation: `Json.value` at any level of nesting, the innermost one included, where only an empty
container may be read. Dialects may be any.
-/

set_option autoImplicit false

namespace DocShape.Json

/-! ## Between the tokens of a container -/

/-- A mark is no blank. -/
theorem isBlank_head_mark {c : Char} (hc : c ∈ marks) (rest : Text) :
    ∀ d ∈ (c :: rest).head?, Text.isBlank d = false := by
  intro d hd
  obtain rfl := Option.some.inj hd
  exact isBlank_of_mem_marks hc

/-- A text of tokens begins with no blank. -/
theorem isBlank_head_laidOut {tokens : List Text} {s : Text} (hlaid : LaidOut tokens s)
    (hlexical : Lexical tokens) (rest : Text) :
    ∀ d ∈ (s ++ rest).head?, Text.isBlank d = false := by
  obtain ⟨c, more, rfl, hc⟩ := hlaid.isBlank_head hlexical
  intro d hd
  obtain rfl := Option.some.inj hd
  exact hc

/-- A mark behind blanks ends a bare word. -/
theorem delimits_head_append {gap : Text} (hgap : AllBlank gap) {c : Char} (hc : c ∈ marks)
    (rest : Text) : ∀ d ∈ (gap ++ c :: rest).head?, delimits d = true := by
  rcases gap with _ | ⟨b, gap⟩
  · intro d hd
    obtain rfl := Option.some.inj hd
    exact delimits_of_mem_marks hc
  · intro d hd
    obtain rfl := Option.some.inj hd
    exact delimits_of_isBlank (hgap b List.mem_cons_self)

theorem Stuck.ne {c : Char} (hc : Text.isBlank c = false) {rest text : Text} (h : Stuck text) :
    text ≠ c :: rest := by
  obtain ⟨d, more, rfl, hblank, -⟩ := h
  intro heq
  obtain rfl := (List.cons.inj heq).1
  rw [hblank] at hc
  cases hc

/-- A reader is halted where it is stuck. -/
def HaltedByBlanks {α : Type} (reader : Text → Reading α) : Prop :=
  ∀ text, Stuck text → ∃ halt, reader text = .error halt

/-! ## Elements -/

section Elements

variable {α : Type} (missing : Fault) (closing : Char) (element : Text → Reading α)

/-- The elements of a container from the first one on, to the closing mark. -/
def elements : (fuel : Nat) → Text → Reading (List α)
  | 0, text => .error (.fault missing text.length)
  | fuel + 1, text =>
      andThen (element text) fun a rest =>
        match skipGap rest with
        | [] => .error (.fault .expectedComma 0)
        | c :: rest =>
            if c = closing then .ok ([a], rest)
            else if c = ',' then
              (elements fuel (skipGap rest)).map fun (others, rest) => (a :: others, rest)
            else .error (.fault .expectedComma (c :: rest).length)

/-- What is read behind an element. -/
def afterElement (fuel : Nat) (a : α) (text : Text) : Reading (List α) :=
  match text with
  | [] => .error (.fault .expectedComma 0)
  | c :: rest =>
      if c = closing then .ok ([a], rest)
      else if c = ',' then
        (elements missing closing element fuel (skipGap rest)).map fun (others, rest) =>
          (a :: others, rest)
      else .error (.fault .expectedComma (c :: rest).length)

theorem elements_succ (fuel : Nat) (text : Text) :
    elements missing closing element (fuel + 1) text =
      andThen (element text) fun a rest =>
        afterElement missing closing element fuel a (skipGap rest) := rfl

variable {missing closing element}

/-- What is read behind an element is told by the mark that stands there. -/
theorem eq_afterElement {fuel : Nat} {a : α} {text : Text} {answer : Reading (List α)}
    (hclosing : ∀ rest, text = closing :: rest → answer = .ok ([a], rest))
    (hcomma : ∀ rest, text = ',' :: rest → answer =
      (elements missing closing element fuel (skipGap rest)).map fun (others, rest) =>
        (a :: others, rest))
    (hother : (∀ rest, text ≠ closing :: rest) → (∀ rest, text ≠ ',' :: rest) →
      answer = .error (.fault .expectedComma text.length)) :
    answer = afterElement missing closing element fuel a text := by
  rcases text with _ | ⟨c, rest⟩
  · exact hother (fun _ heq => nomatch heq) fun _ heq => nomatch heq
  rw [afterElement]
  by_cases hc : c = closing
  · rw [if_pos hc]
    exact hclosing rest (by rw [hc])
  by_cases hc' : c = ','
  · rw [if_neg hc, if_pos hc']
    exact hcomma rest (by rw [hc'])
  · rw [if_neg hc, if_neg hc']
    exact hother (fun _ heq => hc (List.cons.inj heq).1) fun _ heq => hc' (List.cons.inj heq).1

theorem elements_haltedByBlanks (helement : HaltedByBlanks element) (fuel : Nat) :
    HaltedByBlanks (elements missing closing element fuel) := by
  intro text h
  cases fuel with
  | zero => exact ⟨_, rfl⟩
  | succ fuel =>
    obtain ⟨halt, hhalt⟩ := helement text h
    exact ⟨halt, by rw [elements_succ, hhalt, andThen]⟩

theorem afterElement_haltedByBlanks (hclosing : closing ∈ marks) (fuel : Nat) (a : α) :
    HaltedByBlanks (afterElement missing closing element fuel a) := by
  rintro _ ⟨c, rest, rfl, hblank, -⟩
  have hne {d : Char} (hd : d ∈ marks) : c ≠ d := by
    rintro rfl
    rw [isBlank_of_mem_marks hd] at hblank
    cases hblank
  have hcomma : c ≠ ',' := hne (by decide)
  exact ⟨_, by rw [afterElement, if_neg (hne hclosing), if_neg hcomma]⟩

/-- Behind the last element the container is closed. -/
theorem afterElement_closes (hclosing : closing ∈ marks) (fuel : Nat) {a : α} {gap : Text}
    (hgap : AllBlank gap) (rest : Text) {good : Prop} (hplain : good → Plain gap)
    {wanted : List α → Prop} (ha : wanted [a]) :
    Answers (afterElement missing closing element fuel a (skipGap (gap ++ closing :: rest))) good
      wanted rest := by
  have hclose : Answers (afterElement missing closing element fuel a (closing :: rest)) good wanted
      rest := by
    rw [afterElement, if_pos rfl]
    exact ⟨ha, rfl⟩
  exact hclose.afterGap (afterElement_haltedByBlanks hclosing fuel a) hgap
    (isBlank_head_mark hclosing rest) hplain

/-- Behind any other element and a comma the others are read. -/
theorem afterElement_goesOn (hclosing : closing ∈ marks) (hcomma : closing ≠ ',')
    (hhalted : HaltedByBlanks element) {fuel : Nat} {a : α} {before after text rest : Text}
    (hbefore : AllBlank before) (hafter : AllBlank after)
    (hhead : ∀ c ∈ text.head?, Text.isBlank c = false) {good : Prop}
    (hplain : good → Plain before ∧ Plain after) {wanted wanted' : List α → Prop}
    (hothers : Answers (elements missing closing element fuel text) good wanted' rest)
    (hwanted : ∀ others, wanted' others → wanted (a :: others)) :
    Answers (afterElement missing closing element fuel a
      (skipGap (before ++ ',' :: (after ++ text)))) good wanted rest := by
  have hbehind : Answers (afterElement missing closing element fuel a (',' :: (after ++ text))) good
      wanted rest := by
    rw [afterElement, if_neg hcomma.symm, if_pos rfl]
    exact (hothers.afterGap (elements_haltedByBlanks hhalted fuel) hafter hhead
      fun h => (hplain h).2).map hwanted
  exact hbehind.afterGap (afterElement_haltedByBlanks hclosing fuel a) hbefore
    (isBlank_head_mark (by decide) _) fun h => (hplain h).1

variable (missing closing) in
/-- Elements are read one after the other if each of them is. -/
theorem elements_answers {σ : Type} {reads : σ → List Text → Prop} {wanted : σ → α → Prop}
    {dialect : Dialect} {deep : Prop} (hclosing : closing ∈ marks) (hcomma : closing ≠ ',')
    (hlexical : ∀ source part, reads source part → part ≠ [] ∧ Lexical part)
    (hhalted : HaltedByBlanks element) {sources : List σ} {parts : List (List Text)}
    (hparts : List.Forall₂ reads sources parts)
    (helement : ∀ source ∈ sources, ∀ part s rest, reads source part → LaidOut part s →
      (∀ c ∈ rest.head?, delimits c = true) →
        Answers (element (s ++ rest)) (Legible dialect s ∧ deep) (wanted source) rest)
    (hne : parts ≠ []) {t gap : Text} (hlaid : LaidOut (commaJoined parts) t)
    (hgap : AllBlank gap) (rest : Text) {fuel : Nat}
    (hfuel : (t ++ (gap ++ closing :: rest)).length < fuel) :
    Answers (elements missing closing element fuel (t ++ (gap ++ closing :: rest)))
      (Legible dialect (t ++ gap) ∧ deep) (List.Forall₂ wanted sources) rest := by
  -- by induction on the parts, each unit of fuel for one of them
  induction hparts generalizing t fuel with
  | nil => exact absurd rfl hne
  | @cons source part sources parts hpart hparts ih =>
    obtain ⟨hfirst, hothers⟩ := List.forall_mem_cons.1 helement
    obtain ⟨fuel, rfl⟩ := Nat.exists_eq_succ_of_ne_zero (Nat.ne_zero_of_lt hfuel)
    rw [elements_succ]
    cases hparts with
    | nil =>
      have hread := (hfirst part t _ hpart hlaid (delimits_head_append hgap hclosing rest)).mono
        fun hgood : Legible dialect (t ++ gap) ∧ deep => ⟨hgood.1.left, hgood.2⟩
      exact hread.andThen fun a ha =>
        afterElement_closes hclosing fuel hgap rest (fun hgood => hgood.1.right.1) (.cons ha .nil)
    | @cons next nextPart sources parts hnext hparts =>
      have hmore : List.Forall₂ reads (next :: sources) (nextPart :: parts) := .cons hnext hparts
      have hlexicalMore : Lexical (commaJoined (nextPart :: parts)) := by
        apply lexical_commaJoined
        intro other hother
        obtain ⟨source, -, hreads⟩ := exists_of_mem_right hmore hother
        exact (hlexical source other hreads).2
      obtain ⟨u, before, after, v, hu, hbefore, hafter, hv, rfl⟩ :=
        (laidOut_append_mark_iff (hlexical source part hpart).1
          (commaJoined_ne_nil (hlexical next nextPart hnext).1 parts)).1 hlaid
      have htext : u ++ (before ++ ([','] ++ (after ++ v))) ++ (gap ++ closing :: rest) =
          u ++ (before ++ ',' :: (after ++ (v ++ (gap ++ closing :: rest)))) := by simp
      have hpieces : u ++ (before ++ ([','] ++ (after ++ v))) ++ gap =
          u ++ (before ++ ([','] ++ (after ++ (v ++ gap)))) := by simp
      rw [htext] at hfuel ⊢
      rw [hpieces]
      -- what is asked of the whole text is asked of its pieces
      generalize hgood : Legible dialect (u ++ (before ++ ([','] ++ (after ++ (v ++ gap))))) = whole
      have hwhole (h : whole) : Legible dialect (u ++ (before ++ ([','] ++ (after ++ (v ++ gap))))) :=
        hgood ▸ h
      have hread := (hfirst part u _ hpart hu (delimits_head_append hbefore (c := ',') (by decide)
        (after ++ (v ++ (gap ++ closing :: rest))))).mono
        fun h : whole ∧ deep => ⟨(hwhole h.1).left, h.2⟩
      have hshorter : (v ++ (gap ++ closing :: rest)).length < fuel := by
        simp only [List.length_append, List.length_cons] at hfuel ⊢
        omega
      have hbehind := (ih hothers (List.cons_ne_nil nextPart parts) hv hshorter).mono
        fun h : whole ∧ deep => ⟨(hwhole h.1).right.right.right.right, h.2⟩
      have hplain (h : whole ∧ deep) : Plain before ∧ Plain after :=
        ⟨(hwhole h.1).right.left.1, (hwhole h.1).right.right.right.left.1⟩
      exact hread.andThen fun a ha => afterElement_goesOn hclosing hcomma hhalted hbefore hafter
        (isBlank_head_laidOut hv hlexicalMore _) hplain hbehind fun others hothers =>
          .cons ha hothers

end Elements

/-! ## Items and members -/

theorem items_eq_elements (item : Text → Reading Json) (fuel : Nat) (text : Text) :
    items item fuel text = elements .expectedValue ']' item fuel text := by
  induction fuel generalizing text with
  | zero => rfl
  | succ fuel ih =>
    rw [items, elements_succ]
    rcases item text with halt | ⟨value, rest⟩
    · rfl
    · rw [andThen]
      simp only
      generalize skipGap rest = behind
      refine eq_afterElement (fun rest heq => ?_) (fun rest heq => ?_) fun hclosing hcomma => ?_
      · subst heq
        rfl
      · subst heq
        rw [← ih]
        rfl
      · split
        next => exact absurd rfl (hclosing _)
        next => exact absurd rfl (hcomma _)
        next => rfl

/-- A member of an object with the quotation mark its key begins with. -/
def quotedMember (dialect : Dialect) (item : Text → Reading Json) :
    Text → Reading (Text × Json)
  | '"' :: text => member dialect item text
  | text => .error (.fault .expectedName text.length)

theorem members_eq_elements (dialect : Dialect) (item : Text → Reading Json) (fuel : Nat)
    (text : Text) :
    members dialect item fuel text =
      elements .expectedName '}' (quotedMember dialect item) fuel text := by
  induction fuel generalizing text with
  | zero =>
    rw [members, elements]
    intro fuel rest heq
    cases heq
  | succ fuel ih =>
    rw [elements_succ]
    by_cases hquote : ∃ rest, text = '"' :: rest
    · obtain ⟨rest, rfl⟩ := hquote
      rw [members, quotedMember]
      rcases member dialect item rest with halt | ⟨entry, rest⟩
      · rfl
      · rw [andThen]
        simp only
        generalize skipGap rest = behind
        refine eq_afterElement (fun rest heq => ?_) (fun rest heq => ?_) fun hclosing hcomma => ?_
        · subst heq
          rfl
        · subst heq
          rw [← ih]
          rfl
        · split
          next => exact absurd rfl (hclosing _)
          next => exact absurd rfl (hcomma _)
          next => rfl
    · rw [members, quotedMember]
      · rfl
      · exact fun rest heq => hquote ⟨rest, heq⟩
      · exact fun fuel rest _ heq => hquote ⟨rest, heq⟩

theorem quotedMember_haltedByBlanks (dialect : Dialect) (item : Text → Reading Json) :
    HaltedByBlanks (quotedMember dialect item) := by
  intro text h
  refine ⟨.fault .expectedName text.length, ?_⟩
  rw [quotedMember]
  exact fun rest => h.ne (by decide)

/-- What is read behind a key. -/
def afterKey (item : Text → Reading Json) (key : Text) : Text → Reading (Text × Json)
  | ':' :: rest => (item (skipGap rest)).map fun (value, rest) => ((key, value), rest)
  | rest => .error (.fault .expectedColon rest.length)

theorem afterKey_haltedByBlanks (item : Text → Reading Json) (key : Text) :
    HaltedByBlanks (afterKey item key) := by
  intro text h
  refine ⟨.fault .expectedColon text.length, ?_⟩
  rw [afterKey]
  exact fun rest => h.ne (by decide)

theorem member_eq (dialect : Dialect) (item : Text → Reading Json) (text : Text) :
    member dialect item text =
      andThen (stringBody dialect text) fun key rest => afterKey item key (skipGap rest) := by
  rw [member]
  rcases stringBody dialect text with halt | ⟨key, rest⟩
  · rfl
  · exact (afterKey.eq_def item key (skipGap rest)).symm

/-- A member is read as its key and the value behind it. -/
theorem quotedMember_answers {dialect : Dialect} {deep : Prop} {item : Text → Reading Json}
    (hhalted : HaltedByBlanks item) {key : Text} {value : List Text} {wanted : Json → Prop}
    (hne : value ≠ []) (hlexical : Lexical value)
    (hvalue : ∀ s rest, LaidOut value s → (∀ c ∈ rest.head?, delimits c = true) →
      Answers (item (s ++ rest)) (Legible dialect s ∧ deep) wanted rest)
    {s : Text} (hlaid : LaidOut (propertyTokens key value) s) {rest : Text}
    (hrest : ∀ c ∈ rest.head?, delimits c = true) :
    Answers (quotedMember dialect item (s ++ rest)) (Legible dialect s ∧ deep)
      (fun entry => entry.1 = key ∧ wanted entry.2) rest := by
  have hkey : [writeString false key] ≠ [] := List.cons_ne_nil _ _
  obtain ⟨u, before, after, v, hu, hbefore, hafter, hv, rfl⟩ :=
    (laidOut_append_mark_iff hkey hne).1 hlaid
  obtain rfl : u = writeString false key := by
    cases hu with
    | last => rfl
    | cons _ _ _ hnone => cases hnone
  have htext : writeString false key ++ (before ++ ([':'] ++ (after ++ v))) ++ rest =
      '"' :: (key.flatMap (stringChar false) ++ '"' :: (before ++ ':' :: (after ++ (v ++ rest)))) := by
    simp [writeString]
  rw [htext, quotedMember, member_eq, stringBody_flatMap_stringChar, andThen]
  -- what is asked of the whole text is asked of its pieces
  generalize hgood : Legible dialect (writeString false key ++ (before ++ ([':'] ++ (after ++ v)))) =
    whole
  have hwhole (h : whole) :
      Legible dialect (writeString false key ++ (before ++ ([':'] ++ (after ++ v)))) := hgood ▸ h
  have hread := (hvalue v rest hv hrest).mono
    fun h : whole ∧ deep => ⟨(hwhole h.1).right.right.right.right, h.2⟩
  have hcolon : Answers (afterKey item key (':' :: (after ++ (v ++ rest)))) (whole ∧ deep)
      (fun entry => entry.1 = key ∧ wanted entry.2) rest :=
    (hread.afterGap hhalted hafter (isBlank_head_laidOut hv hlexical rest)
      fun h => (hwhole h.1).right.right.right.left.1).map fun value hvalue => ⟨rfl, hvalue⟩
  exact hcolon.afterGap (afterKey_haltedByBlanks item key) hbefore
    (isBlank_head_mark (by decide) _) fun h => (hwhole h.1).right.left.1

/-! ## Containers -/

namespace Container

/-- The mark a container begins with. -/
def opening : Container → Char
  | .array => '['
  | .object => '{'

/-- The mark a container ends with. -/
def closing : Container → Char
  | .array => ']'
  | .object => '}'

/-- The container that holds nothing. -/
def empty : Container → Json
  | .array => .array []
  | .object => .object []

end Container

/-- What is read behind the blanks after an opening mark: the mark that closes an empty container,
or something else. -/
def insideOf (container : Container) (empty other : Text → Reading Json) (text : Text) :
    Reading Json :=
  match text with
  | [] => other []
  | c :: rest => if c = container.closing then empty rest else other (c :: rest)

theorem emptyContainer?_eq (container : Container) (text : Text) :
    emptyContainer? container text =
      match skipGap text with
      | [] => none
      | c :: rest => if c = container.closing then some (container.empty, rest) else none := by
  rw [emptyContainer?.eq_def]
  generalize skipGap text = inside
  rcases inside with _ | ⟨c, inside⟩
  · cases container <;> rfl
  · by_cases hclose : c = container.closing
    · subst hclose
      cases container <;> rfl
    · simp only [if_neg hclose]
      cases container with
      | array =>
        split
        next heq => exact absurd (List.cons.inj heq).1 hclose
        next hcontainer _ => cases hcontainer
        next => rfl
      | object =>
        split
        next hcontainer _ => cases hcontainer
        next heq => exact absurd (List.cons.inj heq).1 hclose
        next => rfl

/-- The elements of a container that is not empty. -/
def filled (dialect : Dialect) (item : Text → Reading Json) (container : Container) (text : Text) :
    Reading Json :=
  match container with
  | .array => (items item (text.length + 1) text).map fun (values, rest) => (.array values, rest)
  | .object =>
      (members dialect item (text.length + 1) text).map fun (entries, rest) =>
        (.object (lastOfEach entries), rest)

theorem containerWith_eq (dialect : Dialect) (item : Text → Reading Json) (container : Container)
    (text : Text) :
    containerWith dialect item container text =
      insideOf container (fun rest => .ok (container.empty, rest)) (filled dialect item container)
        (skipGap text) := by
  rw [containerWith, emptyContainer?_eq]
  generalize skipGap text = inside
  rcases inside with _ | ⟨c, inside⟩
  · cases container <;> rfl
  · by_cases hclose : c = container.closing
    · simp only [insideOf, if_pos hclose]
    · simp only [insideOf, if_neg hclose]
      cases container <;> rfl

theorem innermost_eq (dialect : Dialect) (container : Container) (text : Text) :
    innermost dialect container text =
      insideOf container
        (fun rest =>
          if dialect.emptyCounts then .error (.tooDeep container) else .ok (container.empty, rest))
        (fun _ => .error (.tooDeep container)) (skipGap text) := by
  rw [innermost, emptyContainer?_eq]
  generalize skipGap text = inside
  rcases inside with _ | ⟨c, inside⟩
  · rfl
  · by_cases hclose : c = container.closing
    · simp only [insideOf, if_pos hclose]
    · simp only [insideOf, if_neg hclose]

theorem Container.closing_mem_marks (container : Container) : container.closing ∈ marks := by
  cases container <;> decide

theorem insideOf_haltedByBlanks {container : Container} {empty other : Text → Reading Json}
    (hother : HaltedByBlanks other) : HaltedByBlanks (insideOf container empty other) := by
  intro text h
  obtain ⟨c, rest, rfl, hblank, -⟩ := id h
  have hclose : c ≠ container.closing := by
    rintro rfl
    rw [isBlank_of_mem_marks container.closing_mem_marks] at hblank
    cases hblank
  rw [insideOf, if_neg hclose]
  exact hother _ h

/-- Only the token that is a mark begins with it. -/
theorem insideOf_of_laidOut {container : Container} {empty other : Text → Reading Json}
    {tokens : List Text} {s : Text} (hlaid : LaidOut tokens s) (hlexical : Lexical tokens)
    (hne : tokens.head? ≠ some [container.closing]) (rest : Text) :
    insideOf container empty other (s ++ rest) = other (s ++ rest) := by
  obtain ⟨token, more, behind, rfl, rfl⟩ := hlaid.head
  -- by the kind of the first token: no string and no bare word begins with a mark
  have htoken := hlexical.1 token List.mem_cons_self
  have hmark := container.closing_mem_marks
  obtain ⟨c, tail, rfl, -⟩ := htoken.head
  have hclose : c ≠ container.closing := by
    intro hc
    rw [← hc] at hmark hne
    cases htoken with
    | mark => exact hne rfl
    | string => exact absurd hmark (by decide)
    | bare hbare => exact not_bare_of_delimits (delimits_of_mem_marks hmark) hbare
  rw [List.cons_append, List.cons_append, insideOf, if_neg hclose]

theorem head?_commaJoined {part : List Text} (hpart : part ≠ []) (parts : List (List Text)) :
    (commaJoined (part :: parts)).head? = part.head? := by
  rcases parts with _ | ⟨next, parts⟩
  · rfl
  · rw [commaJoined, List.head?_append_of_ne_nil _ hpart]

/-- The inside of a container is read: nothing, or the elements between its marks. -/
theorem insideOf_answers (empty other : Text → Reading Json) {container : Container} {good : Prop}
    {wanted : Json → Prop} {dialect : Dialect} {parts : List (List Text)} {s rest : Text}
    (hlaid : LaidOut (enclosed container.opening container.closing parts) s)
    (hparts : ∀ part ∈ parts, part ≠ [] ∧ Lexical part ∧ part.head? ≠ some [container.closing])
    (hgood : good → Legible dialect s) (hhalted : HaltedByBlanks other)
    (hempty : parts = [] → Answers (empty rest) good wanted rest)
    (hother : parts ≠ [] → ∀ t gap, LaidOut (commaJoined parts) t → AllBlank gap →
      (good → Legible dialect (t ++ gap)) →
        Answers (other (t ++ (gap ++ container.closing :: rest))) good wanted rest) :
    ∃ text, s ++ rest = container.opening :: text ∧
      Answers (insideOf container empty other (skipGap text)) good wanted rest := by
  have hhaltedInside : HaltedByBlanks (insideOf container empty other) :=
    insideOf_haltedByBlanks hhalted
  rcases parts with _ | ⟨part, parts⟩
  · obtain ⟨gap, hgap, rfl⟩ := laidOut_enclosed_nil_iff.1 hlaid
    refine ⟨gap ++ container.closing :: rest, by simp, ?_⟩
    have hclose : Answers (insideOf container empty other (container.closing :: rest)) good wanted
        rest := by
      rw [insideOf, if_pos rfl]
      exact hempty rfl
    exact hclose.afterGap hhaltedInside hgap (isBlank_head_mark container.closing_mem_marks rest)
      fun h => (hgood h).right.left.1
  · obtain ⟨hpart, -, hhead⟩ := hparts part List.mem_cons_self
    have hlexical := lexical_commaJoined fun other hother => (hparts other hother).2.1
    obtain ⟨gap, t, gap', hgap, ht, hgap', rfl⟩ :=
      (laidOut_enclosed_iff (commaJoined_ne_nil hpart parts)).1 hlaid
    refine ⟨gap ++ (t ++ (gap' ++ container.closing :: rest)), by simp, ?_⟩
    have hinside : Answers (insideOf container empty other (t ++ (gap' ++ container.closing :: rest)))
        good wanted rest := by
      rw [insideOf_of_laidOut ht hlexical (by rw [head?_commaJoined hpart]; exact hhead)]
      refine hother (List.cons_ne_nil part parts) t gap' ht hgap' fun h => ?_
      have hpieces := (hgood h).right.right
      rw [← List.append_assoc] at hpieces
      exact hpieces.left
    exact hinside.afterGap hhaltedInside hgap (isBlank_head_laidOut ht hlexical _)
      fun h => (hgood h).right.left.1

/-- A container is read by its opening mark. -/
theorem value_opening (dialect : Dialect) (container : Container) (text : Text) :
    value dialect 0 (container.opening :: text) = innermost dialect container text ∧
      ∀ nesting, value dialect (nesting + 1) (container.opening :: text) =
        containerWith dialect (value dialect nesting) container text := by
  cases container with
  | array => exact ⟨rfl, fun nesting => rfl⟩
  | object => exact ⟨rfl, fun nesting => rfl⟩

theorem value_haltedByBlanks (dialect : Dialect) (nesting : Nat) :
    HaltedByBlanks (value dialect nesting) :=
  fun _ h => h.value dialect nesting

theorem filled_haltedByBlanks {dialect : Dialect} {item : Text → Reading Json}
    (hitem : HaltedByBlanks item) (container : Container) :
    HaltedByBlanks (filled dialect item container) := by
  intro text h
  cases container with
  | array =>
    obtain ⟨halt, hhalt⟩ := elements_haltedByBlanks hitem (text.length + 1) text h
    exact ⟨halt, by rw [filled, items_eq_elements, hhalt]; rfl⟩
  | object =>
    have hmember := quotedMember_haltedByBlanks dialect item
    obtain ⟨halt, hhalt⟩ := elements_haltedByBlanks hmember (text.length + 1) text h
    exact ⟨halt, by rw [filled, members_eq_elements, hhalt]; rfl⟩

/-- A container is read if what is in it is, unless it stands too deep. -/
theorem value_container_answers {dialect : Dialect} {nesting : Nat} {container : Container}
    {wanted : Json → Prop} {deep : Prop} {parts : List (List Text)} {s rest : Text}
    (hlaid : LaidOut (enclosed container.opening container.closing parts) s)
    (hparts : ∀ part ∈ parts, part ≠ [] ∧ Lexical part ∧ part.head? ≠ some [container.closing])
    (hdeep : deep → nesting ≠ 0) (hempty : parts = [] → wanted container.empty)
    (hfilled : parts ≠ [] → ∀ inner, nesting = inner + 1 → ∀ t gap,
      LaidOut (commaJoined parts) t → AllBlank gap →
        Answers (filled dialect (value dialect inner) container
          (t ++ (gap ++ container.closing :: rest))) (Legible dialect (t ++ gap) ∧ deep) wanted
          rest) :
    Answers (value dialect nesting (s ++ rest)) (Legible dialect s ∧ deep) wanted rest := by
  cases nesting with
  | zero =>
    -- nothing may stand this deep but what is empty
    have hnone : ¬ (Legible dialect s ∧ deep) := fun h => hdeep h.2 rfl
    have hempty' (hnil : parts = []) : Answers
        (if dialect.emptyCounts then .error (.tooDeep container) else .ok (container.empty, rest))
        (Legible dialect s ∧ deep) wanted rest := by
      split
      · exact hnone
      · exact ⟨hempty hnil, rfl⟩
    obtain ⟨text, htext, hanswers⟩ := insideOf_answers
      (fun rest =>
        if dialect.emptyCounts then .error (.tooDeep container) else .ok (container.empty, rest))
      (fun _ => .error (.tooDeep container)) hlaid hparts And.left (fun _ _ => ⟨_, rfl⟩) hempty'
      fun _ _ _ _ _ _ => hnone
    rw [htext, (value_opening dialect container text).1, innermost_eq]
    exact hanswers
  | succ inner =>
    obtain ⟨text, htext, hanswers⟩ := insideOf_answers (fun rest => .ok (container.empty, rest))
      (filled dialect (value dialect inner) container) hlaid hparts And.left
      (filled_haltedByBlanks (value_haltedByBlanks dialect inner) container)
      (fun hnil => ⟨hempty hnil, rfl⟩)
      fun hcons t gap ht hgap hgood =>
        (hfilled hcons inner rfl t gap ht hgap).mono fun h => ⟨hgood h, h.2⟩
    rw [htext, (value_opening dialect container text).2, containerWith_eq]
    exact hanswers

end DocShape.Json
