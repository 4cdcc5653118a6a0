import DocShape.Proofs.Blame
import DocShape.Proofs.Numbers

/-!
# Chains of messages are read back

A failed parse is shown as a text with a line for each message, indented two spaces further than the
one before. The text gives the messages back (`MessageChain.messagesIn`): every message is a line of
its own (`Text.OwnLine`), without a line feed in it and without a blank in front that could be taken
for indentation.

Chains of arbitrary messages are not told apart by their texts. Those of failed parses are, because a
message quotes nothing but pieces of the text that was parsed, and blanks were removed from that
before anything was cut out of it (`FaultIn.quotesBlankless`).

Relation: the failures of `parseWithin` with any limit, under every policy and on every text.
-/

set_option autoImplicit false

namespace DocShape

/-! ## Lines -/

namespace Text

theorem splitAll_of_not_mem {mark : Char} {text : Text} (h : mark ∉ text) :
    splitAll mark text = [text] := by
  induction text with
  | nil => rfl
  | cons c text ih =>
    obtain ⟨hc, htext⟩ := List.ne_and_not_mem_of_not_mem_cons h
    rw [splitAll, if_neg hc.symm, ih htext]

theorem splitAll_append_mark {mark : Char} {text : Text} (h : mark ∉ text) (rest : Text) :
    splitAll mark (text ++ mark :: rest) = text :: splitAll mark rest := by
  induction text with
  | nil => rw [List.nil_append, splitAll, if_pos rfl]
  | cons c text ih =>
    obtain ⟨hc, htext⟩ := List.ne_and_not_mem_of_not_mem_cons h
    rw [List.cons_append, splitAll, if_neg hc.symm, ih htext]

/-- Parts without the mark are what the joined text is split into. -/
theorem splitAll_joinWith {mark : Char} {parts : List Text} (hne : parts ≠ [])
    (h : ∀ part ∈ parts, mark ∉ part) : splitAll mark (joinWith [mark] parts) = parts := by
  induction parts with
  | nil => exact absurd rfl hne
  | cons part parts ih =>
    rw [List.forall_mem_cons] at h
    cases parts with
    | nil => rw [joinWith, splitAll_of_not_mem h.1]
    | cons next parts =>
      rw [joinWith, List.append_assoc, List.singleton_append, splitAll_append_mark h.1,
        ih (List.cons_ne_nil _ _) h.2]

/-- A text can stand as a line behind an indentation: it does not begin with a blank, and the only
blanks in it are spaces. -/
structure OwnLine (text : Text) : Prop where
  unindented : ∀ c ∈ text.head?, isBlank c = false
  unbroken : ∀ c ∈ text, isBlank c = true → c = ' '

/-- Character by character: deciding the conditions as they stand would run through all characters. -/
theorem ownLine_iff {text : Text} :
    text.OwnLine ↔ (text.head?.all fun c => !isBlank c) = true ∧
      (text.all fun c => !isBlank c || c == ' ') = true := by
  simp only [Option.all_eq_true, List.all_eq_true, Bool.not_eq_true', Bool.or_eq_true, beq_iff_eq]
  constructor
  · intro h
    refine ⟨h.unindented, fun c hc => ?_⟩
    cases hblank : isBlank c with
    | false => exact .inl rfl
    | true => exact .inr (h.unbroken c hc hblank)
  · rintro ⟨hindent, hblanks⟩
    refine ⟨hindent, fun c hc hblank => (hblanks c hc).resolve_left ?_⟩
    rw [hblank]
    exact Bool.noConfusion

instance (text : Text) : Decidable text.OwnLine := decidable_of_iff' _ ownLine_iff

theorem OwnLine.lineFeed_not_mem {text : Text} (h : text.OwnLine) : '\n' ∉ text :=
  fun hmem => absurd (h.unbroken '\n' hmem (by decide)) (by decide)

/-- The spaces in front of such a line can be told from it. -/
theorem OwnLine.dropWhile_spaces {text : Text} (h : text.OwnLine) (count : Nat) :
    (spaces count ++ text).dropWhile (fun c => c == ' ') = text := by
  have hspaces : ∀ c ∈ spaces count, (c == ' ') = true :=
    fun c hc => beq_iff_eq.2 (List.eq_of_mem_replicate hc)
  rw [List.dropWhile_append_of_pos hspaces]
  cases text with
  | nil => rfl
  | cons c text =>
    have hc : (c == ' ') = false := by
      rw [beq_eq_false_iff_ne]
      rintro rfl
      exact absurd (h.unindented ' ' rfl) (by decide)
    exact List.dropWhile_cons_of_neg (by rw [hc]; exact Bool.false_ne_true)

end Text

/-! ## The text of a chain -/

namespace MessageChain

/-- The messages in the text of a chain: its lines without the spaces in front of them. -/
def messagesIn (text : Text) : List Text :=
  (Text.splitAll '\n' text).map fun line => line.dropWhile fun c => c == ' '

theorem indented_eq_mapIdx (indent : Nat) (messages : List Text) :
    indented indent messages =
      messages.mapIdx fun i message => Text.spaces (indent + 2 * i) ++ message := by
  induction messages generalizing indent with
  | nil => rfl
  | cons message messages ih =>
    have hnext (i : Nat) : indent + 2 * (i + 1) = indent + 2 + 2 * i := by omega
    rw [indented, ih, List.mapIdx_cons]
    simp only [hnext, Nat.mul_zero, Nat.add_zero]

theorem numbered_eq_mapIdx (number : Nat) (messages : List Text) :
    numbered number messages = messages.mapIdx fun i message =>
      Text.spaces 2 ++ Text.ofNat (number + i) ++ ". ".toList ++ message := by
  induction messages generalizing number with
  | nil => rfl
  | cons message messages ih =>
    have hnext (i : Nat) : number + 1 + i = number + (i + 1) := by omega
    rw [numbered, ih, List.mapIdx_cons]
    simp only [hnext, Nat.add_zero]

theorem map_dropWhile_indented (indent : Nat) {messages : List Text}
    (h : ∀ message ∈ messages, message.OwnLine) :
    (indented indent messages).map (fun line => line.dropWhile fun c => c == ' ') = messages := by
  induction messages generalizing indent with
  | nil => rfl
  | cons message messages ih =>
    rw [List.forall_mem_cons] at h
    rw [indented, List.map_cons, h.1.dropWhile_spaces, ih _ h.2]

variable {chain : MessageChain}

theorem indented_toList (chain : MessageChain) :
    indented 0 chain.toList =
      chain.toList.mapIdx fun i message => Text.spaces (2 * i) ++ message := by
  rw [indented_eq_mapIdx]
  simp only [Nat.zero_add]

/-- The lines of a chain are its messages, each indented further than the one before. -/
theorem splitAll_render (h : ∀ message ∈ chain.toList, message.OwnLine) :
    Text.splitAll '\n' chain.render =
      chain.toList.mapIdx fun i message => Text.spaces (2 * i) ++ message := by
  rw [render, Text.splitAll_joinWith, indented_toList]
  · exact List.cons_ne_nil _ _
  · rw [indented_toList]
    intro line hline hfeed
    -- a line feed would have to stand in the indentation or in the message
    obtain ⟨i, hi, rfl⟩ := List.mem_mapIdx.1 hline
    rcases List.mem_append.1 hfeed with hspaces | hmessage
    · exact absurd (List.eq_of_mem_replicate hspaces) (by decide)
    · exact (h _ (List.getElem_mem hi)).lineFeed_not_mem hmessage

/-- The text of a chain gives the messages back. -/
theorem messagesIn_render (h : ∀ message ∈ chain.toList, message.OwnLine) :
    messagesIn chain.render = chain.toList := by
  rw [messagesIn, splitAll_render h, ← indented_toList, map_dropWhile_indented 0 h]

/-- A message with a line feed in it would be taken for two. -/
example : (mk "a\n  b".toList []).render = (mk "a".toList ["b".toList]).render := by decide

/-- The lines of the numbered list are its heading and the messages with their numbers. -/
theorem splitAll_report (h : ∀ message ∈ chain.toList, message.OwnLine) :
    Text.splitAll '\n' chain.report = "Schema parse failed:".toList ::
      chain.toList.mapIdx fun i message =>
        Text.spaces 2 ++ Text.ofNat (1 + i) ++ ". ".toList ++ message := by
  rw [report, Text.splitAll_joinWith (List.cons_ne_nil _ _), numbered_eq_mapIdx]
  rw [List.forall_mem_cons, numbered_eq_mapIdx]
  refine ⟨by decide, fun line hline hfeed => ?_⟩
  obtain ⟨i, hi, rfl⟩ := List.mem_mapIdx.1 hline
  simp only [List.mem_append] at hfeed
  rcases hfeed with ((hspaces | hdigits) | hpoint) | hmessage
  · exact absurd (List.eq_of_mem_replicate hspaces) (by decide)
  · exact absurd (isDigit_of_mem_ofNat hdigits) (by decide)
  · exact absurd hpoint (by decide)
  · exact (h _ (List.getElem_mem hi)).lineFeed_not_mem hmessage

theorem toList_injective {chain chain' : MessageChain} (h : chain.toList = chain'.toList) :
    chain = chain' := by
  obtain ⟨houtermost, hinner⟩ := List.cons.inj h
  cases chain
  cases chain'
  exact congrArg₂ MessageChain.mk houtermost hinner

end MessageChain

/-! ## What messages quote -/

/-- The piece of text that the message for a cause quotes. -/
def Cause.quoted : Cause → Text
  | .notAnObject text => text
  | .noColon segment => segment
  | .unknownToken token => token
  | .repeatedKey key => key

/-- What a blame names has no blanks in it. -/
structure Blame.QuotesBlankless (blame : Blame) : Prop where
  path : ∀ property ∈ blame.path, Text.Blankless property.1 ∧ Text.Blankless property.2
  cause : Text.Blankless blame.cause.quoted

/-- A name that a value is read by is a piece of the value. -/
theorem Names.blankless {raw token : Text} (h : Names raw token) (hblank : Text.Blankless raw) :
    Text.Blankless token := by
  have hspelt := ValueForm.spelt_ofText raw
  rcases h with h | h
  · rw [h] at hspelt
    cases hspelt with
    | rules token _ => exact (Text.blankless_append_iff.1 hblank).1
    | plain => exact hblank
  · rw [h] at hspelt
    cases hspelt with
    | brackets token => exact (Text.blankless_append_iff.1 hblank).1
    | bracketsRules token rules => exact (Text.blankless_append_iff.1 hblank).1

theorem FirstBad.blankless {policy : KeyPolicy} {text segment : Text}
    (h : FirstBad policy text segment) (hblank : Text.Blankless text) :
    Text.Blankless segment := by
  obtain ⟨before, after, hcut, -⟩ := h
  exact blankless_of_mem_topSegments hblank (hcut ▸ List.mem_append_right _ List.mem_cons_self)

/-- What is wrong in a text without blanks is told in pieces of it. -/
theorem FaultIn.quotesBlankless {policy : KeyPolicy} {text : Text} {blame : Blame}
    (h : FaultIn policy text blame) (hblank : Text.Blankless text) : blame.QuotesBlankless := by
  induction h with
  | noColon hbad _ => exact ⟨List.forall_mem_nil _, hbad.blankless hblank⟩
  | unknownToken hbad _ hname _ =>
    have hsegment := hbad.blankless hblank
    obtain ⟨hkey, hraw⟩ := Text.blankless_append_iff.1 hsegment
    refine ⟨List.forall_mem_singleton.2 ⟨hsegment, hkey⟩, ?_⟩
    exact hname.blankless (Text.blankless_cons_iff.1 hraw).2
  | inner hbad _ hholds _ ih =>
    -- the object inside is cut out of the segment, and the messages about it come behind
    have hsegment := hbad.blankless hblank
    obtain ⟨hkey, hraw⟩ := Text.blankless_append_iff.1 hsegment
    have hinner := ih (hholds.blankless (Text.blankless_cons_iff.1 hraw).2)
    exact ⟨List.forall_mem_cons.2 ⟨⟨hsegment, hkey⟩, hinner.path⟩, hinner.cause⟩
  | repeatedKey _ _ hrepeated =>
    -- the key is the beginning of a segment
    obtain ⟨front, back, hkeys, -⟩ := hrepeated
    refine ⟨List.forall_mem_nil _, ?_⟩
    obtain ⟨segment, hsegment, rfl⟩ :=
      List.mem_map.1 (hkeys ▸ List.mem_append_right front List.mem_cons_self)
    exact fun c hc =>
      blankless_of_mem_topSegments hblank hsegment c (List.takeWhile_subset _ hc)

theorem Fault.quotesBlankless {policy : KeyPolicy} {text : Text} {blame : Blame}
    (h : Fault policy text blame) (hblank : Text.Blankless text) : blame.QuotesBlankless := by
  rcases h with ⟨-, rfl⟩ | h
  · exact ⟨List.forall_mem_nil _, hblank⟩
  · exact h.quotesBlankless hblank

/-! ## Messages of failed parses -/

/-- A message that quotes a text without blanks can stand as a line. -/
theorem Text.OwnLine.quote {front quoted : Text} (hfront : front.OwnLine ∧ front ≠ [])
    (h : Text.Blankless quoted) : (front ++ quoted ++ "'".toList).OwnLine := by
  constructor
  · intro c hc
    rw [List.append_assoc, List.head?_append_of_ne_nil front hfront.2] at hc
    exact hfront.1.unindented c hc
  · intro c hc hblank
    simp only [List.mem_append] at hc
    rcases hc with (hc | hc) | hc
    · exact hfront.1.unbroken c hc hblank
    · rw [h c hc] at hblank
      cases hblank
    · rw [List.mem_singleton.1 hc] at hblank
      exact absurd hblank (by decide)

theorem Blame.QuotesBlankless.ownLine_messages {blame : Blame} (h : blame.QuotesBlankless) :
    ∀ message ∈ blame.messages, message.OwnLine := by
  obtain ⟨path, cause⟩ := blame
  obtain ⟨hpath, hcause⟩ := h
  rw [messages, List.forall_mem_append]
  constructor
  · intro message hmessage
    obtain ⟨property, hproperty, hmem⟩ := List.mem_flatMap.1 hmessage
    obtain ⟨hsegment, hkey⟩ := hpath property hproperty
    rcases List.mem_cons.1 hmem with rfl | hmem
    · exact Text.OwnLine.quote (by decide +kernel) hsegment
    · rw [List.mem_singleton.1 hmem]
      exact Text.OwnLine.quote (by decide +kernel) hkey
  · cases cause with
    | notAnObject text =>
      rw [causeMessages, List.forall_mem_singleton]
      exact Text.OwnLine.quote (by decide +kernel) hcause
    | noColon segment =>
      rw [causeMessages, List.forall_mem_cons, List.forall_mem_singleton]
      exact ⟨Text.OwnLine.quote (by decide +kernel) hcause,
        Text.OwnLine.quote (by decide +kernel) hcause⟩
    | unknownToken token =>
      rw [causeMessages, List.forall_mem_singleton]
      exact Text.OwnLine.quote (by decide +kernel) hcause
    | repeatedKey key =>
      rw [causeMessages, List.forall_mem_singleton]
      exact Text.OwnLine.quote (by decide +kernel) hcause

/-- Every message of a failed parse can stand as a line. -/
theorem ownLine_of_parseWithin {limit : Nat} {policy : KeyPolicy} {text : Text} {failure : Failure}
    (h : parseWithin limit policy text = .error failure) :
    ∀ message ∈ failure.chain.toList, message.OwnLine := by
  cases failure with
  | tooDeep =>
    -- this failure has one message, which quotes nothing
    have hfixed : ∀ message ∈ Failure.tooDeep.chain.toList, message.OwnLine := by decide +kernel
    exact hfixed
  | rejected path cause =>
    obtain ⟨blame, hblame, hfault⟩ := exists_fault_of_parseWithin h
    rw [← hblame, blame.toList_chain_failure]
    exact (hfault.quotesBlankless (Text.blankless_removeBlanks text)).ownLine_messages

/-- **The chain of a failed parse is read back from its text.** The text of the chain has one line
for each message, the message behind twice as many spaces as there are messages before it. No
message begins with a blank or has a line feed in it, so dropping the spaces gives the messages back,
and two failed parses with the same text, under whatever limits and policies, have the same chain.
As a numbered list the chain has a heading and again one line for each message. -/
theorem parseWithin_chain_reads_back (limit : Nat) (policy : KeyPolicy) (text : Text)
    {failure : Failure} (h : parseWithin limit policy text = .error failure) :
    let messages := failure.chain.toList
    Text.splitAll '\n' failure.chain.render =
        messages.mapIdx (fun i message => Text.spaces (2 * i) ++ message) ∧
      (∀ message ∈ messages, message.OwnLine ∧ '\n' ∉ message) ∧
      MessageChain.messagesIn failure.chain.render = messages ∧
      (∀ limit' policy' text' failure', parseWithin limit' policy' text' = .error failure' →
        failure'.chain.render = failure.chain.render → failure'.chain = failure.chain) ∧
      Text.splitAll '\n' failure.chain.report = "Schema parse failed:".toList ::
        messages.mapIdx (fun i message =>
          Text.spaces 2 ++ Text.ofNat (1 + i) ++ ". ".toList ++ message) ∧
      (Text.splitAll '\n' failure.chain.report).length = messages.length + 1 := by
  intro messages
  have hlines := ownLine_of_parseWithin h
  have hreport := MessageChain.splitAll_report hlines
  refine ⟨MessageChain.splitAll_render hlines,
    fun message hmessage => ⟨hlines message hmessage, (hlines message hmessage).lineFeed_not_mem⟩,
    MessageChain.messagesIn_render hlines, fun limit' policy' text' failure' h' hrender => ?_,
    hreport, ?_⟩
  · -- both chains are read back from the same text
    have hread' := MessageChain.messagesIn_render (ownLine_of_parseWithin h')
    rw [hrender, MessageChain.messagesIn_render hlines] at hread'
    exact MessageChain.toList_injective hread'.symm
  · rw [hreport, List.length_cons, List.length_mapIdx]

/-- Line feeds and other blanks around and inside the keys of a text; the failure is two objects deep,
and its messages show none of them. -/
theorem parse_chain_reads_back_blanks :
    let text := "\x7ba :\n \x7b b\t: Array<\x7bc: num\u2003ber,\n  d e\x7d>\x7d\x7d".toList
    let messages := ["Failed to parse property 'a:\x7bb:Array<\x7bc:number,de\x7d>\x7d'".toList,
      "Failed to parse value of property 'a'".toList,
      "Failed to parse property 'b:Array<\x7bc:number,de\x7d>'".toList,
      "Failed to parse value of property 'b'".toList,
      "Failed to parse property 'de'".toList,
      "Expected key-value property, got 'de'".toList]
    ∃ failure, parse .last text = .error failure ∧ failure.chain.toList = messages ∧
      Text.splitAll '\n' failure.chain.render =
        messages.mapIdx (fun i message => Text.spaces (2 * i) ++ message) ∧
      MessageChain.messagesIn failure.chain.render = messages ∧
      (Text.splitAll '\n' failure.chain.report).length = 7 := by
  intro text messages
  have hcheck : (failure? (parse .last text)).any (fun failure =>
      decide (failure.chain.toList = messages)) = true := by
    decide +kernel
  obtain ⟨failure, hfailure, hcheck⟩ := (Option.any_eq_true _ _).1 hcheck
  have hparse := failure?_eq_some_iff.1 hfailure
  have hmessages := of_decide_eq_true hcheck
  obtain ⟨hlines, -, hread, -, -, hlength⟩ :=
    parseWithin_chain_reads_back nestingLimit .last text hparse
  rw [hmessages] at hlines hread hlength
  exact ⟨failure, hparse, hmessages, hlines, hread, hlength⟩

end DocShape
