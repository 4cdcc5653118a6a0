import DocShape.Proofs.Compared
import DocShape.Proofs.Descent
import DocShape.Proofs.Merging

/-!
# Where a failed parse puts the blame

A failed parse names the properties on the way to a cause, each with its key, and then the cause
(`Blame`). What it names can be said on the text alone (`Fault`): at every level the property that
is named is the first one that is not parsed, and the next property that is named stands in the
object that this one holds. The way ends at a property without a colon, at a value whose name is
unknown, or at an object whose properties are all parsed and repeat a key. That a text is not an
object at all is only ever said of the whole text.

There is one such blame at most for a text (`Fault.unique`), and a parse that fails names it, unless
it has run out of levels.

Relation: `parseWithin` with any limit, under every policy.
-/

set_option autoImplicit false

namespace DocShape

/-! ## Messages -/

/-- Where a parse went wrong: the properties on the way, each with its key, and the cause. -/
structure Blame where
  path : List (Text × Text)
  cause : Cause

namespace Blame

/-- The messages about the properties on the way, outermost first. -/
def wayMessages (path : List (Text × Text)) : List Text :=
  path.flatMap fun (segment, key) =>
    ["Failed to parse property '".toList ++ segment ++ "'".toList,
     "Failed to parse value of property '".toList ++ key ++ "'".toList]

/-- The messages about the cause; one about a missing colon comes with its property. -/
def causeMessages : Cause → List Text
  | .notAnObject text => ["Expected \x7b...\x7d, got '".toList ++ text ++ "'".toList]
  | .noColon segment =>
      ["Failed to parse property '".toList ++ segment ++ "'".toList,
       "Expected key-value property, got '".toList ++ segment ++ "'".toList]
  | .unknownToken token =>
      ["Expected one of [string, number, boolean] but got '".toList ++ token ++ "'".toList]
  | .repeatedKey key => ["Duplicate property '".toList ++ key ++ "'".toList]

/-- The messages of a blame. -/
def messages (blame : Blame) : List Text := wayMessages blame.path ++ causeMessages blame.cause

/-- The blame with one more property on the way. -/
def under (segment key : Text) (blame : Blame) : Blame :=
  { blame with path := (segment, key) :: blame.path }

/-- The failure that tells a blame. -/
def failure (blame : Blame) : Failure :=
  .rejected
    (blame.path.flatMap (fun (segment, key) => [.property segment, .valueOf key]) ++
      match blame.cause with
      | .noColon segment => [.property segment]
      | _ => [])
    blame.cause

theorem failure_under (segment key : Text) (blame : Blame) :
    (blame.under segment key).failure =
      (blame.failure.within (.valueOf key)).within (.property segment) := rfl

end Blame

/-- The messages of a failure are those of its steps and the one of its cause. -/
theorem Failure.toList_chain_rejected (path : List Step) (cause : Cause) :
    (Failure.rejected path cause).chain.toList = path.map Step.message ++ [cause.message] := by
  cases path <;> rfl

theorem Blame.toList_chain_failure (blame : Blame) :
    blame.failure.chain.toList = blame.messages := by
  obtain ⟨path, cause⟩ := blame
  rw [failure, Failure.toList_chain_rejected, messages]
  induction path with
  | nil => cases cause <;> rfl
  | cons pair path ih =>
    simp only [wayMessages, List.flatMap_cons, List.append_assoc, List.map_append] at ih ⊢
    rw [ih]
    rfl

/-! ## The first property that is not parsed -/

/-- A property is parsed, with some number of levels of objects in its value. -/
def Parses (policy : KeyPolicy) (segment : Text) : Prop :=
  ∃ limit entry, entryWith (innerParser policy limit) segment = .ok entry

/-- The segment is the first one of the object text that is not parsed. -/
def FirstBad (policy : KeyPolicy) (text segment : Text) : Prop :=
  ∃ before after, topSegments text = before ++ segment :: after ∧
    (∀ earlier ∈ before, Parses policy earlier) ∧ ¬ Parses policy segment

/-- Two ways to cut a list at an element are the same, or one of them cuts behind the other. -/
theorem cuts_cases {α : Type} {front back front' back' : List α} {a a' : α}
    (h : front ++ a :: back = front' ++ a' :: back') :
    (front = front' ∧ a = a') ∨ front ++ [a] <+: front' ∨ front' ++ [a'] <+: front := by
  rcases List.append_eq_append_iff.1 h with ⟨rest, hfront, hrest⟩ | ⟨rest, hfront, hrest⟩
  · cases rest with
    | nil =>
      simp only [List.nil_append, List.cons.injEq] at hrest
      exact Or.inl ⟨by simpa using hfront.symm, hrest.1⟩
    | cons b rest =>
      simp only [List.cons_append, List.cons.injEq] at hrest
      refine Or.inr (Or.inl ⟨rest, ?_⟩)
      rw [hfront, hrest.1]
      simp
  · cases rest with
    | nil =>
      simp only [List.nil_append, List.cons.injEq] at hrest
      exact Or.inl ⟨by simpa using hfront, hrest.1.symm⟩
    | cons b rest =>
      simp only [List.cons_append, List.cons.injEq] at hrest
      refine Or.inr (Or.inr ⟨rest, ?_⟩)
      rw [hfront, hrest.1]
      simp

theorem FirstBad.unique {policy : KeyPolicy} {text segment segment' : Text}
    (h : FirstBad policy text segment) (h' : FirstBad policy text segment') :
    segment = segment' := by
  obtain ⟨before, after, hcut, hbefore, hbad⟩ := h
  obtain ⟨before', after', hcut', hbefore', hbad'⟩ := h'
  rcases cuts_cases (hcut.symm.trans hcut') with ⟨-, heq⟩ | hbehind | hbehind
  · exact heq
  · exact absurd (hbefore' segment (hbehind.subset (by simp))) hbad
  · exact absurd (hbefore segment' (hbehind.subset (by simp))) hbad'

theorem FirstRepeated.unique {keys : List Text} {key key' : Text} (h : FirstRepeated keys key)
    (h' : FirstRepeated keys key') : key = key' := by
  obtain ⟨front, back, hcut, hnodup, hmem⟩ := h
  obtain ⟨front', back', hcut', hnodup', hmem'⟩ := h'
  rcases cuts_cases (hcut.symm.trans hcut') with ⟨-, heq⟩ | hbehind | hbehind
  · exact heq
  · -- The part before the later cut would hold the key twice.
    have := hnodup'.sublist hbehind.sublist
    rw [← List.concat_eq_append, List.nodup_concat] at this
    exact absurd hmem this.1
  · have := hnodup.sublist hbehind.sublist
    rw [← List.concat_eq_append, List.nodup_concat] at this
    exact absurd hmem' this.1

/-! ## Faults -/

/-- What is wrong in an object text: the first property that is not parsed has no colon, has a value
with an unknown name, or holds an object in which something is wrong; or all properties are parsed
and a key is repeated where that is an error. -/
inductive FaultIn (policy : KeyPolicy) : Text → Blame → Prop
  | noColon {text segment : Text} :
      FirstBad policy text segment → ':' ∉ segment → FaultIn policy text ⟨[], .noColon segment⟩
  | unknownToken {text key raw token : Text} :
      FirstBad policy text (key ++ ':' :: raw) → ':' ∉ key → Names raw token →
        Primitive.ofName? token = none →
          FaultIn policy text ⟨[(key ++ ':' :: raw, key)], .unknownToken token⟩
  | inner {text key raw object : Text} {blame : Blame} :
      FirstBad policy text (key ++ ':' :: raw) → ':' ∉ key → Holds raw object →
        FaultIn policy object blame →
          FaultIn policy text (blame.under (key ++ ':' :: raw) key)
  | repeatedKey {text key : Text} :
      policy = .error → (∀ segment ∈ topSegments text, Parses policy segment) →
        FirstRepeated ((topSegments text).map keyOf) key →
          FaultIn policy text ⟨[], .repeatedKey key⟩

/-- What is wrong with a schema text without blanks: it is not between braces, or something is wrong
in the object. -/
def Fault (policy : KeyPolicy) (text : Text) (blame : Blame) : Prop :=
  ((¬ ∃ content, text = '{' :: content ++ ['}']) ∧ blame = ⟨[], .notAnObject text⟩) ∨
    FaultIn policy text blame

/-- A property is cut at its first colon in one way only. -/
theorem cut_unique {key key' raw raw' : Text} (hkey : ':' ∉ key) (hkey' : ':' ∉ key')
    (h : key ++ ':' :: raw = key' ++ ':' :: raw') : key = key' ∧ raw = raw' := by
  have hcut := Text.cutAt?_append hkey raw
  rw [h, Text.cutAt?_append hkey' raw', Option.some.injEq, Prod.mk.injEq] at hcut
  exact ⟨hcut.1.symm, hcut.2.symm⟩

theorem Holds.unique {raw object object' : Text} (h : Holds raw object) (h' : Holds raw object') :
    object = object' := by
  rcases holds_iff.1 h with hform | hform <;> rcases holds_iff.1 h' with hform' | hform' <;>
    rw [hform] at hform' <;> cases hform' <;> rfl

theorem Names.unique {raw token token' : Text} (h : Names raw token) (h' : Names raw token') :
    token = token' := by
  rcases h with hform | hform <;> rcases h' with hform' | hform' <;>
    rw [hform] at hform' <;> cases hform' <;> rfl

/-- A value that is read by a name holds no object. -/
theorem Names.not_holds {raw token object : Text} (h : Names raw token) : ¬ Holds raw object := by
  intro hholds
  rcases h with hform | hform <;> rcases holds_iff.1 hholds with hform' | hform' <;>
    simp [hform] at hform'

/-- There is one thing wrong in an object text at most: the first one. -/
theorem FaultIn.unique {policy : KeyPolicy} {text : Text} {blame blame' : Blame}
    (h : FaultIn policy text blame) (h' : FaultIn policy text blame') : blame = blame' := by
  have hall {text segment : Text} (hbad : FirstBad policy text segment)
      (hparses : ∀ segment ∈ topSegments text, Parses policy segment) : False := by
    obtain ⟨before, after, hcut, -, hbad⟩ := hbad
    exact hbad (hparses segment (by simp [hcut]))
  induction h generalizing blame' with
  | noColon hbad hcolon =>
    cases h' with
    | noColon hbad' hcolon' => rw [hbad.unique hbad']
    | unknownToken hbad' => simp [hbad.unique hbad'] at hcolon
    | inner hbad' => simp [hbad.unique hbad'] at hcolon
    | repeatedKey _ hparses => exact (hall hbad hparses).elim
  | unknownToken hbad hkey hname _ =>
    cases h' with
    | noColon hbad' hcolon => simp [← hbad.unique hbad'] at hcolon
    | unknownToken hbad' hkey' hname' _ =>
      obtain ⟨rfl, rfl⟩ := cut_unique hkey hkey' (hbad.unique hbad')
      rw [hname.unique hname']
    | inner hbad' hkey' hholds =>
      obtain ⟨rfl, rfl⟩ := cut_unique hkey hkey' (hbad.unique hbad')
      exact absurd hholds hname.not_holds
    | repeatedKey _ hparses => exact (hall hbad hparses).elim
  | inner hbad hkey hholds _ ih =>
    cases h' with
    | noColon hbad' hcolon => simp [← hbad.unique hbad'] at hcolon
    | unknownToken hbad' hkey' hname =>
      obtain ⟨rfl, rfl⟩ := cut_unique hkey hkey' (hbad.unique hbad')
      exact absurd hholds hname.not_holds
    | inner hbad' hkey' hholds' hinner =>
      obtain ⟨rfl, rfl⟩ := cut_unique hkey hkey' (hbad.unique hbad')
      obtain rfl := hholds.unique hholds'
      rw [ih hinner]
    | repeatedKey _ hparses => exact (hall hbad hparses).elim
  | repeatedKey _ hparses hrepeated =>
    cases h' with
    | noColon hbad => exact (hall hbad hparses).elim
    | unknownToken hbad => exact (hall hbad hparses).elim
    | inner hbad => exact (hall hbad hparses).elim
    | repeatedKey _ _ hrepeated' => rw [hrepeated.unique hrepeated']

/-- Only object texts have something wrong in them. -/
theorem FaultIn.exists_content {policy : KeyPolicy} {text : Text} {blame : Blame}
    (h : FaultIn policy text blame) : ∃ content, text = '{' :: content ++ ['}'] := by
  cases hinterior : Brace.interior? text with
  | some content => exact ⟨content, Brace.interior?_eq_some_iff.1 hinterior⟩
  | none =>
    -- A text that is no object has no segments to blame.
    have hnil : topSegments text = [] := by
      rw [topSegments, hinterior]
    have hbad {segment : Text} (h : FirstBad policy text segment) : False := by
      obtain ⟨before, after, hcut, -⟩ := h
      simp [hnil] at hcut
    cases h with
    | noColon h => exact (hbad h).elim
    | unknownToken h => exact (hbad h).elim
    | inner h => exact (hbad h).elim
    | repeatedKey _ _ hrepeated =>
      obtain ⟨front, back, hcut, -⟩ := hrepeated
      simp [hnil] at hcut

/-- There is one thing wrong with a text at most. -/
theorem Fault.unique {policy : KeyPolicy} {text : Text} {blame blame' : Blame}
    (h : Fault policy text blame) (h' : Fault policy text blame') : blame = blame' := by
  rcases h with ⟨hnot, rfl⟩ | h
  · rcases h' with ⟨-, rfl⟩ | h'
    · rfl
    · exact absurd h'.exists_content hnot
  · rcases h' with ⟨hnot, -⟩ | h'
    · exact absurd h.exists_content hnot
    · exact h.unique h'

/-! ## Failed parses -/

theorem Failure.within_eq_rejected {inner : Failure} {step : Step} {path : List Step}
    {cause : Cause} (h : inner.within step = .rejected path cause) :
    ∃ rest, inner = .rejected rest cause := by
  cases inner with
  | tooDeep => simp [within] at h
  | rejected rest cause' =>
    simp only [within, Failure.rejected.injEq] at h
    exact ⟨rest, by rw [h.2]⟩

/-- One level names what is wrong in the object if the levels below do. -/
theorem exists_faultIn_of_objectWith {policy : KeyPolicy} {limit : Nat} {content : Text}
    {path : List Step} {cause : Cause} (hblank : Text.Blankless ('{' :: content ++ ['}']))
    (hnested : ∀ object path cause, Text.Blankless object →
      (∃ content, object = '{' :: content ++ ['}']) →
        innerParser policy limit object = .error (.rejected path cause) →
          ∃ blame, FaultIn policy object blame ∧ blame.failure = .rejected path cause)
    (h : objectWith policy (innerParser policy limit) ('{' :: content ++ ['}']) =
      .error (.rejected path cause)) :
    ∃ blame, FaultIn policy ('{' :: content ++ ['}']) blame ∧
      blame.failure = .rejected path cause := by
  have hsegments : ∀ segment ∈ topSegments ('{' :: content ++ ['}']), Text.Blankless segment :=
    fun segment => blankless_of_mem_topSegments hblank
  rcases objectWith_eq_error h with hentries | ⟨entries, key, hentries, hmerge, hfailure⟩
  · obtain ⟨before, segment, after, failure, hcut, hbefore, hsegment, hfailure⟩ :=
      entriesWith_eq_error hsegments hentries
    obtain ⟨rest, rfl⟩ := Failure.within_eq_rejected hfailure.symm
    have hbad : FirstBad policy ('{' :: content ++ ['}']) segment := by
      refine ⟨before, after, hcut, ?_, ?_⟩
      · intro earlier hearlier
        exact ⟨limit, hbefore earlier hearlier⟩
      · -- what is rejected with these levels is read with no number of levels
        rintro ⟨limit', entry, hread⟩
        exact entryWith_ne_ok_of_rejected hsegment limit' entry hread
    have hsegmentBlank : Text.Blankless segment := by
      apply hsegments
      rw [hcut]
      simp
    rcases entryWith_eq_error hsegmentBlank hsegment with
      ⟨hcolon, hrest⟩ | ⟨key, raw, failure, rfl, hkey, hvalue, hrest⟩
    · refine ⟨_, .noColon hbad hcolon, ?_⟩
      rw [hfailure, hrest]
      rfl
    · rcases valueWith_eq_error hvalue with ⟨object, hholds, hobject⟩ | ⟨token, hname, hnone, rfl⟩
      · obtain ⟨inside, rfl⟩ := Failure.within_eq_rejected hrest.symm
        rw [Text.blankless_append_iff, Text.blankless_cons_iff] at hsegmentBlank
        have hbraced : ∃ content, object = '{' :: content ++ ['}'] := by
          cases hholds <;> exact ⟨_, rfl⟩
        obtain ⟨blame, hfault, hblame⟩ :=
          hnested object inside cause (hholds.blankless hsegmentBlank.2.2) hbraced hobject
        refine ⟨_, .inner hbad hkey hholds hfault, ?_⟩
        rw [Blame.failure_under, hblame, ← hrest, hfailure]
      · refine ⟨_, .unknownToken hbad hkey hname hnone, ?_⟩
        rw [hfailure, hrest]
        rfl
  · -- All properties are read, so the keys that were merged are those of the segments.
    have hreads := (entriesWith_eq_ok_iff hsegments).1 hentries
    obtain ⟨hpolicy, hrepeated⟩ := firstRepeated_of_merge hmerge
    rw [map_fst_of_reads hreads] at hrepeated
    refine ⟨_, .repeatedKey hpolicy ?_ hrepeated, hfailure.symm⟩
    intro segment hsegment
    obtain ⟨entry, -, hread⟩ := exists_of_mem_left hreads hsegment
    exact ⟨limit, entry, (entryWith_eq_ok_iff (hsegments segment hsegment)).2 hread⟩

/-- A parse of an object that fails names what is wrong in it, unless it runs out of levels. -/
theorem exists_faultIn_of_parseObject {policy : KeyPolicy} {limit : Nat} {content : Text}
    {path : List Step} {cause : Cause} (hblank : Text.Blankless ('{' :: content ++ ['}']))
    (h : parseObject policy limit ('{' :: content ++ ['}']) = .error (.rejected path cause)) :
    ∃ blame, FaultIn policy ('{' :: content ++ ['}']) blame ∧
      blame.failure = .rejected path cause := by
  induction limit generalizing content path cause with
  | zero =>
    rw [parseObject_eq_objectWith] at h
    apply exists_faultIn_of_objectWith hblank _ h
    intro object path cause _ _ hobject
    -- No level is left, and that is not a rejection.
    cases hobject
  | succ limit ih =>
    rw [parseObject_eq_objectWith] at h
    apply exists_faultIn_of_objectWith hblank _ h
    rintro object path cause hobjectBlank ⟨content, rfl⟩ hobject
    exact ih hobjectBlank hobject

/-- A parse that is rejected names what is wrong with the text. -/
theorem exists_fault_of_parseWithin {limit : Nat} {policy : KeyPolicy} {text : Text}
    {path : List Step} {cause : Cause}
    (h : parseWithin limit policy text = .error (.rejected path cause)) :
    ∃ blame, blame.failure = .rejected path cause ∧ Fault policy (Text.removeBlanks text) blame := by
  have hblank := Text.blankless_removeBlanks text
  rw [parseWithin] at h
  generalize Text.removeBlanks text = normal at h hblank ⊢
  cases hinterior : Brace.interior? normal with
  | none =>
    rw [parseObject_eq_objectWith, objectWith, hinterior] at h
    obtain ⟨rfl, rfl⟩ : [] = path ∧ .notAnObject normal = cause := by simpa [reject] using h
    refine ⟨⟨[], .notAnObject normal⟩, rfl, Or.inl ⟨?_, rfl⟩⟩
    rintro ⟨content, hcontent⟩
    rw [Brace.interior?_eq_some_iff.2 hcontent] at hinterior
    cases hinterior
  | some content =>
    obtain rfl := Brace.interior?_eq_some_iff.1 hinterior
    obtain ⟨blame, hfault, hblame⟩ := exists_faultIn_of_parseObject hblank h
    exact ⟨blame, hblame, Or.inr hfault⟩

/-- **Where a failed parse puts the blame.** A parse that fails, but not for want of levels, tells
by its messages the one thing that is wrong with the text. -/
theorem parseWithin_failure_blames (limit : Nat) (policy : KeyPolicy) (text : Text)
    {failure : Failure} (h : parseWithin limit policy text = .error failure)
    (hdeep : failure ≠ .tooDeep) :
    ∃ blame, failure.chain.toList = blame.messages ∧ Fault policy (Text.removeBlanks text) blame ∧
      ∀ other, Fault policy (Text.removeBlanks text) other → other = blame := by
  cases failure with
  | tooDeep => contradiction
  | rejected path cause =>
    obtain ⟨blame, hblame, hfault⟩ := exists_fault_of_parseWithin h
    rw [← hblame]
    exact ⟨blame, blame.toList_chain_failure, hfault, fun other hother => hother.unique hfault⟩

/-- The blame goes through an array of objects to the first of two bad properties there. Neither the
property without a colon behind it nor the key that is repeated before it is named. -/
theorem parse_failure_blames_first :
    let text := "{r:{k:string,k:number},a:{b:Array<{c:number, d:text, e}>},f}".toList
    let messages := ["Failed to parse property 'a:{b:Array<{c:number,d:text,e}>}'".toList,
      "Failed to parse value of property 'a'".toList,
      "Failed to parse property 'b:Array<{c:number,d:text,e}>'".toList,
      "Failed to parse value of property 'b'".toList,
      "Failed to parse property 'd:text'".toList,
      "Failed to parse value of property 'd'".toList,
      "Expected one of [string, number, boolean] but got 'text'".toList]
    ∃ failure, parse .last text = .error failure ∧ failure.chain.toList = messages ∧
      ∃ blame, blame.messages = messages ∧ Fault .last (Text.removeBlanks text) blame := by
  intro text messages
  have hcheck : (failure? (parse .last text)).any (fun failure =>
      decide (failure ≠ .tooDeep) && decide (failure.chain.toList = messages)) = true := by
    decide +kernel
  obtain ⟨failure, hfailure, hcheck⟩ := (Option.any_eq_true _ _).1 hcheck
  have hparse := failure?_eq_some_iff.1 hfailure
  simp only [Bool.and_eq_true, decide_eq_true_eq] at hcheck
  obtain ⟨hdeep, hmessages⟩ := hcheck
  obtain ⟨blame, hblame, hfault, -⟩ :=
    parseWithin_failure_blames nestingLimit .last text hparse hdeep
  exact ⟨failure, hparse, hmessages, blame, hblame.symm.trans hmessages, hfault⟩

end DocShape
