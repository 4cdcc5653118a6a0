import DocShape.Proofs.Blame

/-!
# The nesting limit only cuts off

A parse is told how many levels of objects it may go below the outermost one. With more levels it
answers as with fewer, unless it ran out of levels before, and that is told by one message of its
own (`Failure.toList_chain_eq_iff`). Of two faults the limit never hides the first one, because both
parses go through the properties in the same order.

Every object inside another one opens a brace of its own (`HeldIn.count_lt`), also where braces are
not balanced. So a text with no more opening braces than levels is always answered otherwise than by
that message, and the parser comes to an end with as many levels as the text opens braces.

Relation: `parseWithin` under every policy and with every limit, on every text; `nestingLimit` is
one of the limits.
-/

set_option autoImplicit false

namespace DocShape

/-! ## The message about nesting -/

theorem Cause.message_ne_tooDeepMessage (cause : Cause) : cause.message ≠ tooDeepMessage := by
  have hfirst : cause.message.head? ≠ some 'S' := by
    cases cause with
    | notAnObject text => exact show some 'E' ≠ some 'S' by decide
    | noColon segment => exact show some 'E' ≠ some 'S' by decide
    | unknownToken token => exact show some 'E' ≠ some 'S' by decide
    | repeatedKey key => exact show some 'D' ≠ some 'S' by decide
  intro h
  exact hfirst (congrArg List.head? h)

/-- The message about nesting stands alone, and no other failure is told by it alone. -/
theorem Failure.toList_chain_eq_iff {failure : Failure} :
    failure.chain.toList = [tooDeepMessage] ↔ failure = .tooDeep := by
  constructor
  · intro h
    cases failure with
    | tooDeep => rfl
    | rejected path cause =>
      rw [toList_chain_rejected, ← List.nil_append [tooDeepMessage]] at h
      obtain ⟨-, hcause⟩ := List.append_inj' h rfl
      exact absurd (List.singleton_inj.1 hcause) cause.message_ne_tooDeepMessage
  · rintro rfl
    rfl

/-! ## Objects inside an object -/

/-- The object that a value holds opens a brace, and the value opens all that the object does. -/
theorem Holds.count_bounds {raw object : Text} (h : Holds raw object) :
    0 < object.count '{' ∧ object.count '{' ≤ raw.count '{' := by
  have hopen (content : Text) : 0 < ('{' :: content ++ ['}']).count '{' := by simp
  cases h with
  | object content => exact ⟨hopen content, Nat.le_refl _⟩
  | objects content =>
    have hinside : '{' :: content ++ ['}'] <:+:
        "Array<".toList ++ ('{' :: content ++ ['}'] ++ ['>']) :=
      ⟨"Array<".toList, ['>'], List.append_assoc _ _ _⟩
    exact ⟨hopen content, hinside.sublist.count_le '{'⟩

/-- An object inside another one opens a brace, and fewer braces than the other one. -/
theorem HeldIn.count_lt {text object : Text} (h : HeldIn text object) :
    0 < object.count '{' ∧ object.count '{' < text.count '{' := by
  obtain ⟨key, raw, hsegment, -, hholds⟩ := h
  obtain ⟨hopen, hraw⟩ := hholds.count_bounds
  refine ⟨hopen, ?_⟩
  cases hinterior : Brace.interior? text with
  | none => simp [topSegments, hinterior] at hsegment
  | some content =>
    obtain rfl := Brace.interior?_eq_some_iff.1 hinterior
    rw [topSegments_braced] at hsegment
    calc object.count '{'
        ≤ raw.count '{' := hraw
      _ ≤ (key ++ ':' :: raw).count '{' := by simp
      _ ≤ (Text.joinWith [','] (Brace.segments content)).count '{' :=
          (Text.infix_joinWith hsegment).sublist.count_le '{'
      _ = content.count '{' := by rw [Brace.joinWith_segments]
      _ < ('{' :: content ++ ['}']).count '{' := by simp

/-! ## Running out of levels -/

theorem Failure.within_eq_tooDeep_iff {step : Step} {failure : Failure} :
    failure.within step = .tooDeep ↔ failure = .tooDeep := by
  cases failure <;> simp [within]

/-- A level only runs out of levels where an object inside it does. -/
theorem exists_heldIn_of_objectWith_tooDeep {policy : KeyPolicy} {nested : Text → Parsed Schema}
    {text : Text} (hblank : Text.Blankless text)
    (h : objectWith policy nested text = .error .tooDeep) :
    ∃ object, HeldIn text object ∧ Text.Blankless object ∧ nested object = .error .tooDeep := by
  cases hinterior : Brace.interior? text with
  | none => simp [objectWith, hinterior, reject] at h
  | some content =>
    obtain rfl := Brace.interior?_eq_some_iff.1 hinterior
    have hsegments : ∀ segment ∈ topSegments ('{' :: content ++ ['}']), Text.Blankless segment :=
      fun segment => blankless_of_mem_topSegments hblank
    -- merging fails in another way, so a property is at fault, and of it the value
    rcases objectWith_eq_error h with hentries | ⟨entries, key, -, -, hfailure⟩
    · obtain ⟨before, segment, after, failure, hcut, -, hsegment, hfailure⟩ :=
        entriesWith_eq_error hsegments hentries
      obtain rfl := Failure.within_eq_tooDeep_iff.1 hfailure.symm
      have hmem : segment ∈ topSegments ('{' :: content ++ ['}']) := by
        rw [hcut]
        simp
      have hsegmentBlank := hsegments segment hmem
      rcases entryWith_eq_error hsegmentBlank hsegment with
        ⟨-, hrest⟩ | ⟨key, raw, failure, rfl, hkey, hvalue, hrest⟩
      · cases hrest
      · obtain rfl := Failure.within_eq_tooDeep_iff.1 hrest.symm
        rcases valueWith_eq_error hvalue with ⟨object, hholds, hobject⟩ | ⟨token, -, -, hrest⟩
        · rw [Text.blankless_append_iff, Text.blankless_cons_iff] at hsegmentBlank
          exact ⟨object, ⟨key, raw, hmem, hkey, hholds⟩, hholds.blankless hsegmentBlank.2.2,
            hobject⟩
        · cases hrest
    · cases hfailure

/-- Levels enough for the braces that are opened are levels enough. -/
theorem parseObject_ne_tooDeep {policy : KeyPolicy} {limit : Nat} {text : Text}
    (hblank : Text.Blankless text) (h : text.count '{' ≤ limit + 1) :
    parseObject policy limit text ≠ .error .tooDeep := by
  induction limit generalizing text with
  | zero =>
    intro hdeep
    rw [parseObject_eq_objectWith] at hdeep
    obtain ⟨object, hheld, -, -⟩ := exists_heldIn_of_objectWith_tooDeep hblank hdeep
    -- the object inside opens one brace more than are left
    have hcount := hheld.count_lt
    omega
  | succ limit ih =>
    intro hdeep
    rw [parseObject_eq_objectWith] at hdeep
    obtain ⟨object, hheld, hobject, hinner⟩ := exists_heldIn_of_objectWith_tooDeep hblank hdeep
    have hcount := hheld.count_lt
    exact ih hobject (by omega) hinner

/-- **The nesting limit only cuts off.** A parse that is not answered by the message about nesting
is answered in the same way with more levels. With `limit` levels below the outermost object, no
text of at most `limit + 1` opening braces is answered by that message. -/
theorem parseWithin_limit_cuts_off (policy : KeyPolicy) (text : Text) {limit limit' : Nat}
    (hle : limit ≤ limit') :
    ((∀ failure, parseWithin limit policy text = .error failure →
        failure.chain.toList ≠ [tooDeepMessage]) →
      parseWithin limit' policy text = parseWithin limit policy text) ∧
    ((Text.removeBlanks text).count '{' ≤ limit + 1 →
      ∀ failure, parseWithin limit policy text = .error failure →
        failure.chain.toList ≠ [tooDeepMessage]) := by
  constructor
  · intro hanswer
    have hfollows : Follows Excuse.tooDeep (· = ·) (parseWithin limit policy text)
        (parseWithin limit' policy text) :=
      innerParser_follows (Nat.succ_le_succ hle) (Text.removeBlanks text)
    rcases hfollows.excused_or_eq with ⟨failure, hdeep, hfailure⟩ | heq
    · exact absurd (Failure.toList_chain_eq_iff.2 hdeep) (hanswer failure hfailure)
    · exact heq.symm
  · intro hcount failure hfailure hchain
    obtain rfl := Failure.toList_chain_eq_iff.1 hchain
    exact parseObject_ne_tooDeep (Text.blankless_removeBlanks text) hcount hfailure

/-- The first property is rejected before the levels run out at the second one, whatever the limit,
and the brace at the end is one too many. -/
theorem parseWithin_limit_cuts_off_behind :
    let text := "{a: {b: x}, c: {d: {}}}\x7d".toList
    let messages := ["Failed to parse property 'a:{b:x}'".toList,
      "Failed to parse value of property 'a'".toList, "Failed to parse property 'b:x'".toList,
      "Failed to parse value of property 'b'".toList,
      "Expected one of [string, number, boolean] but got 'x'".toList]
    1 ≤ 3 ∧ (Text.removeBlanks text).count '{' ≤ 3 + 1 ∧
      ∃ failure, parseWithin 1 .last text = .error failure ∧ failure.chain.toList = messages ∧
        parseWithin 3 .last text = .error failure := by
  intro text messages
  have hcheck : (failure? (parseWithin 1 .last text)).any (fun failure =>
      decide (failure.chain.toList = messages)) = true := by
    decide +kernel
  have hcount : (Text.removeBlanks text).count '{' ≤ 3 + 1 := by decide +kernel
  refine ⟨by decide, hcount, ?_⟩
  obtain ⟨failure, hfailure, hcheck⟩ := (Option.any_eq_true _ _).1 hcheck
  have hparse := failure?_eq_some_iff.1 hfailure
  have hmessages := of_decide_eq_true hcheck
  have hanswer : ∀ other, parseWithin 1 .last text = .error other →
      other.chain.toList ≠ [tooDeepMessage] := by
    intro other hother
    obtain rfl := Except.error.inj (hparse.symm.trans hother)
    rw [hmessages]
    decide
  have hmore := (parseWithin_limit_cuts_off .last text (by decide : 1 ≤ 3)).1 hanswer
  exact ⟨failure, hparse, hmessages, hmore.trans hparse⟩

end DocShape
