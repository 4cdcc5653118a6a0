import DocShape.Proofs.Blame

/-!
# The key policies compared

The policies differ in what a repeated key means and in nothing else. The last and the first
declaration of a key lead to the same failures and to the same keys at the top
(`parseObject_last_follows_first`). The error policy answers what any other one does, or fails with
a repeated key as the cause (`parseObject_error_follows`), and that happens only if an object text
that the parser comes to repeats a key (`FaultIn.exists_descends`). Where it succeeds, no such
object text repeats a key (`nodup_of_parseObject_error`).

Relation: `parseWithin` with any limit. Nothing is said about how deep the text nests, since a run
that has no level left is a failure like others here.
-/

set_option autoImplicit false

namespace DocShape

/-! ## The last and the first declaration -/

/-- The last and the first declaration of a key lead to the same failures, and to the same keys. -/
theorem parseObject_last_follows_first (limit : Nat) (text : Text) :
    Follows Excuse.never (fun schema schema' => schema.keys = schema'.keys)
      (parseObject .last limit text) (parseObject .first limit text) := by
  apply Follows.parseObject
  intro nested nested' hnested inner
  -- Nothing has to be known of the shapes that are read, only that both runs read them.
  have hvalue : ∀ raw, Follows Excuse.never (fun _ _ => True) (valueWith nested raw)
      (valueWith nested' raw) := by
    apply Follows.valueWith
    · intro shape
      trivial
    · intro schema schema' _
      trivial
    · intro schema schema' _
      trivial
    · exact hnested
  apply Follows.objectWith hvalue
  intro entries entries' hentries
  have hlast : KeyPolicy.last ≠ .error := by decide
  have hfirst : KeyPolicy.first ≠ .error := by decide
  obtain ⟨schema, hschema⟩ := exists_merge hlast entries
  obtain ⟨schema', hschema'⟩ := exists_merge hfirst entries'
  have hkeys : entries.map Prod.fst = entries'.map Prod.fst :=
    map_eq_map_of_forall₂ (hentries.imp fun _ _ hentry => hentry.1)
  rw [mergeEntries_eq_ok_iff.2 hschema, mergeEntries_eq_ok_iff.2 hschema']
  apply Follows.read
  rw [Schema.keys, Schema.keys, keys_of_merge hschema, keys_of_merge hschema', hkeys]

/-! ## The error policy -/

/-- The excuse that a key is repeated. -/
def Excuse.repeatedKey : Excuse where
  excuses := fun failure => ∃ path key, failure = .rejected path (.repeatedKey key)
  within := by
    rintro step _ ⟨path, key, rfl⟩
    exact ⟨step :: path, key, rfl⟩

/-- The error policy merges as any other one does, or a key is repeated. -/
theorem mergeEntries_error_follows (policy : KeyPolicy) (entries : Schema) :
    Follows Excuse.repeatedKey (· = ·) (mergeEntries .error entries)
      (mergeEntries policy entries) := by
  by_cases hnodup : (entries.map Prod.fst).Nodup
  · rw [mergeEntries_eq_ok_iff.2 (merge_of_nodup .error hnodup),
      mergeEntries_eq_ok_iff.2 (merge_of_nodup policy hnodup)]
    exact .read rfl
  · cases hmerge : merge .error entries with
    | ok schema => exact absurd ((merge_eq_ok_iff.1 hmerge).1 rfl) hnodup
    | error key =>
      simp only [mergeEntries, hmerge]
      exact .excused ⟨[], key, rfl⟩

/-- The error policy answers as any other one does, or a key is repeated somewhere. -/
theorem parseObject_error_follows (policy : KeyPolicy) (limit : Nat) (text : Text) :
    Follows Excuse.repeatedKey (· = ·) (parseObject .error limit text)
      (parseObject policy limit text) := by
  apply Follows.parseObject
  intro nested nested' hnested
  exact Follows.objectWith_eq hnested (mergeEntries_error_follows policy)

/-- A repeated key that is blamed is repeated in an object text that the parser comes to. -/
theorem FaultIn.exists_descends {policy : KeyPolicy} {text : Text} {blame : Blame}
    (h : FaultIn policy text blame) {key : Text} (hkey : blame.cause = .repeatedKey key) :
    ∃ object, Descends text object ∧ FirstRepeated ((topSegments object).map keyOf) key := by
  induction h with
  | noColon hbad hcolon => cases hkey
  | unknownToken hbad hkey' hname hnone => cases hkey
  | @inner text front raw object blame hbad hcolon hholds _ ih =>
    obtain ⟨inside, hdescends, hrepeated⟩ := ih hkey
    have hheld : HeldIn text object := by
      obtain ⟨before, after, hcut, -⟩ := hbad
      exact ⟨front, raw, by simp [hcut], hcolon, hholds⟩
    exact ⟨inside, .head hheld hdescends, hrepeated⟩
  | repeatedKey _ _ hrepeated =>
    obtain rfl : _ = key := by simpa using hkey
    exact ⟨_, .refl, hrepeated⟩

/-- A value that is read and holds an object has that object read. -/
theorem ValueReads.exists_of_holds {inner : Text → Schema → Prop} {raw object : Text}
    {shape : Shape} (h : ValueReads inner raw shape) (hholds : Holds raw object) :
    ∃ schema, inner object schema := by
  -- The four forms without an object are read by a name.
  cases h with
  | primitive kind =>
    exact absurd hholds (Names.not_holds (Or.inl (ValueForm.ofText_name kind)))
  | ruled kind hrules =>
    exact absurd hholds (Names.not_holds (Or.inl (ValueForm.ofText_rules kind hrules)))
  | primitives kind =>
    exact absurd hholds (Names.not_holds (Or.inr (ValueForm.ofText_brackets kind)))
  | ruledPrimitives kind rules =>
    exact absurd hholds (Names.not_holds (Or.inr (ValueForm.ofText_brackets_rules kind rules)))
  | @object content schema hschema =>
    obtain rfl := hholds.unique (.object content)
    exact ⟨schema, hschema⟩
  | @objects content schema hschema =>
    obtain rfl := hholds.unique (.objects content)
    exact ⟨schema, hschema⟩

/-- Where the error policy succeeds, no object text that the parser comes to repeats a key. -/
theorem nodup_of_parseObject_error {limit : Nat} {text : Text} {schema : Schema}
    (hblank : Text.Blankless text) (h : parseObject .error limit text = .ok schema) :
    ∀ object, Descends text object → ((topSegments object).map keyOf).Nodup := by
  refine parseObject_induction
    (motive := fun _ text _ => ∀ object, Descends text object →
      ((topSegments object).map keyOf).Nodup) ?_ hblank h
  intro limit segments entries schema _ hseparate hreads hmerge object hdescends
  have hsegments : topSegments (objectText segments) = segments := by
    rw [objectText, topSegments_braced,
      Brace.segments_joinWith hseparate (ne_singleton_nil_of_reads hreads)]
  rcases hdescends.cases_head with rfl | ⟨next, ⟨key, raw, hsegment, hkey, hholds⟩, hdescends⟩
  · have hnodup := (merge_eq_ok_iff.1 hmerge).1 rfl
    rwa [hsegments, ← map_fst_of_reads hreads]
  · -- The next object text is the value of a property, and was read with fewer levels.
    rw [hsegments] at hsegment
    obtain ⟨entry, -, hread⟩ := exists_of_mem_left hreads hsegment
    obtain ⟨-, hvalue⟩ := (propertyReads_append_iff hkey).1 hread
    obtain ⟨inside, below, -, hmotive⟩ := hvalue.exists_of_holds hholds
    exact hmotive object hdescends

/-! ## All three -/

/-- The message of the cause is about a key that is declared twice. -/
def Failure.TellsRepeatedKey (failure : Failure) : Prop :=
  ∃ key, failure.chain.innermost = "Duplicate property '".toList ++ key ++ "'".toList

theorem Failure.innermost_chain_rejected (path : List Step) (cause : Cause) :
    (Failure.rejected path cause).chain.innermost = cause.message := by
  cases path with
  | nil => rfl
  | cons step path => simp [chain, MessageChain.innermost]

/-- The error policy reads what any other one reads, or tells that a key is declared twice. -/
theorem parseWithin_error_eq_or (policy : KeyPolicy) (limit : Nat) (text : Text) :
    (∃ failure, parseWithin limit .error text = .error failure ∧ failure.TellsRepeatedKey) ∨
      parseWithin limit .error text = parseWithin limit policy text := by
  have hfollows := parseObject_error_follows policy limit (Text.removeBlanks text)
  rcases hfollows.excused_or_eq with ⟨_, ⟨path, key, rfl⟩, herror⟩ | heq
  · exact Or.inl ⟨_, herror, key, Failure.innermost_chain_rejected path _⟩
  · exact Or.inr heq

/-- The error policy succeeds exactly where another one does and no object text that the parser
comes to repeats a key. -/
theorem exists_parseWithin_error_iff (policy : KeyPolicy) (limit : Nat) (text : Text) :
    (∃ schema, parseWithin limit .error text = .ok schema) ↔
      (∃ schema, parseWithin limit policy text = .ok schema) ∧
        ∀ object, Descends (Text.removeBlanks text) object →
          ((topSegments object).map keyOf).Nodup := by
  have hblank := Text.blankless_removeBlanks text
  have hfollows := parseObject_error_follows policy limit (Text.removeBlanks text)
  simp only [parseWithin]
  generalize Text.removeBlanks text = normal at hblank hfollows ⊢
  constructor
  · rintro ⟨schema, hschema⟩
    refine ⟨⟨schema, ?_⟩, nodup_of_parseObject_error hblank hschema⟩
    rw [hschema] at hfollows
    rcases hfollows.excused_or_eq with ⟨failure, -, herror⟩ | heq
    · cases herror
    · exact heq.symm
  · rintro ⟨⟨schema, hschema⟩, hnodup⟩
    rcases hfollows.excused_or_eq with ⟨_, ⟨path, key, rfl⟩, herror⟩ | heq
    · -- The repeated key that would be blamed stands in an object text without repeated keys.
      exfalso
      cases hinterior : Brace.interior? normal with
      | none => simp [parseObject_eq_objectWith, objectWith, hinterior, reject] at hschema
      | some content =>
        obtain rfl := Brace.interior?_eq_some_iff.1 hinterior
        obtain ⟨blame, hfault, hblame⟩ := exists_faultIn_of_parseObject hblank herror
        have hcause : blame.cause = .repeatedKey key := by
          rw [Blame.failure, Failure.rejected.injEq] at hblame
          exact hblame.2
        obtain ⟨object, hdescends, front, back, hkeys, -, hmem⟩ := hfault.exists_descends hcause
        have hobject := hnodup object hdescends
        rw [hkeys, List.nodup_append] at hobject
        exact hobject.2.2 key hmem key List.mem_cons_self rfl
    · exact ⟨schema, heq.trans hschema⟩

/-- **The key policies agree except on repeated keys.** Under the last and the first declaration of
a key the same texts are parsed, with the same failures and the same keys. The error policy parses a
text exactly if they do and no object text that the parser comes to repeats a key; then all three
read the same schema. Where it fails otherwise than they do, it tells that a key is repeated. -/
theorem parseWithin_policies_agree (limit : Nat) (text : Text) :
    let last := parseWithin limit .last text
    let first := parseWithin limit .first text
    let error := parseWithin limit .error text
    (((∃ schema, last = .ok schema) ↔ ∃ schema, first = .ok schema) ∧
      (∀ failure, last = .error failure ↔ first = .error failure) ∧
      ∀ schema schema', last = .ok schema → first = .ok schema' → schema.keys = schema'.keys) ∧
    (((∃ schema, error = .ok schema) ↔ (∃ schema, last = .ok schema) ∧
        ∀ object, Descends (Text.removeBlanks text) object →
          ((topSegments object).map keyOf).Nodup) ∧
      ∀ schema, error = .ok schema → last = .ok schema ∧ first = .ok schema) ∧
    (∀ schema failure, last = .ok schema → error = .error failure → failure.TellsRepeatedKey) ∧
    ∀ failure, last = .error failure →
      error = .error failure ∨ ∃ other, error = .error other ∧ other.TellsRepeatedKey := by
  intro last first error
  have hlastFirst : Follows Excuse.never (fun schema schema' => schema.keys = schema'.keys)
      last first := parseObject_last_follows_first limit (Text.removeBlanks text)
  have herrorLast := parseWithin_error_eq_or .last limit text
  refine ⟨?_, ⟨exists_parseWithin_error_iff .last limit text, ?_⟩, ?_, ?_⟩
  · generalize last = last, first = first at hlastFirst
    cases hlastFirst with
    | excused hexcuse => exact hexcuse.elim
    | failed failure => simp
    | read hkeys => simpa using hkeys
  · intro schema hschema
    have heq (policy : KeyPolicy) : parseWithin limit policy text = .ok schema := by
      rcases parseWithin_error_eq_or policy limit text with ⟨failure, hfailure, -⟩ | heq
      · rw [show error = .error failure from hfailure] at hschema
        cases hschema
      · exact heq.symm.trans hschema
    exact ⟨heq .last, heq .first⟩
  · intro schema failure hlast herror
    rcases herrorLast with ⟨other, hother, htells⟩ | heq
    · obtain rfl : other = failure := Except.error.inj (hother.symm.trans herror)
      exact htells
    · have hsame := herror.symm.trans (heq.trans hlast)
      cases hsame
  · intro failure hlast
    rcases herrorLast with htells | heq
    · exact Or.inr htells
    · exact Or.inl (heq.trans hlast)

end DocShape
