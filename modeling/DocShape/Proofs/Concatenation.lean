import DocShape.Proofs.Alike
import DocShape.Proofs.Parsed

/-!
# Property lists put together

The properties of two schema texts may be written into one text, with a comma between them. If the
first list has as many opening braces as closing ones, the parser finds the properties of both
again, also where a brace is closed before it is opened (`PropertyList.exists_merge_joined`). What
it makes of them is the two schemas merged: the keys of the first one come first, then the keys that
only the second one has, and a key in both is settled by the policy. Only the error policy refuses
keys in common, and it names the first one of the second list (`parseWithin_concatenated`).

Relation: `parseWithin` with any limit, which is the same for the parts and the whole.
-/

set_option autoImplicit false

namespace DocShape

/-- Properties that are read one part after the other are read together. -/
theorem entriesWith_append {nested : Text → Parsed Schema} {segments segments' : List Text}
    {entries entries' : List (Text × Shape)} (h : entriesWith nested segments = .ok entries)
    (h' : entriesWith nested segments' = .ok entries') :
    entriesWith nested (segments ++ segments') = .ok (entries ++ entries') := by
  induction segments generalizing entries with
  | nil =>
    obtain rfl : [] = entries := by simpa [entriesWith] using h
    exact h'
  | cons segment segments ih =>
    rw [entriesWith] at h
    rw [List.cons_append, entriesWith]
    cases hentry : inside (.property (Text.trim segment))
        (entryWith nested (Text.trim segment)) with
    | error failure => simp [hentry] at h
    | ok entry =>
      rw [hentry] at h
      obtain ⟨rest, hrest, rfl⟩ := map_eq_ok_iff.1 h
      exact map_eq_ok_iff.2 ⟨rest ++ entries', ih hrest, rfl⟩

/-- A list of properties, neither empty nor with blanks in it, that is parsed when it stands in
braces. -/
structure PropertyList (limit : Nat) (policy : KeyPolicy) (list : Text) (schema : Schema) :
    Prop where
  ne_nil : list ≠ []
  blankless : Text.Blankless list
  parses : parseWithin limit policy (objectText [list]) = .ok schema

namespace PropertyList

variable {limit : Nat} {policy : KeyPolicy} {front back : Text} {schema schema' : Schema}

/-- The properties of a list are read one by one and merged. -/
theorem exists_entries (h : PropertyList limit policy front schema) :
    ∃ entries, entriesWith (innerParser policy limit) (Brace.segments front) = .ok entries ∧
      merge policy entries = .ok schema := by
  have hblank : Text.Blankless (objectText [front]) := by
    rw [blankless_objectText_iff, List.forall_mem_singleton]
    exact h.blankless
  have hparses := h.parses
  have hinterior : Brace.interior? (objectText [front]) = some front :=
    Brace.interior?_eq_some_iff.2 rfl
  rw [parseWithin, Text.removeBlanks_eq_self hblank, parseObject_eq_objectWith, objectWith,
    hinterior] at hparses
  dsimp only at hparses
  cases hentries : entriesWith (innerParser policy limit) (Brace.segments front) with
  | error failure => simp [hentries] at hparses
  | ok entries =>
    rw [hentries] at hparses
    exact ⟨entries, rfl, mergeEntries_eq_ok_iff.1 hparses⟩

/-- Two lists in one text are merged as one list of properties. -/
theorem exists_merge_joined (h : PropertyList limit policy front schema)
    (h' : PropertyList limit policy back schema') (heven : front.count '{' = front.count '}') :
    ∃ entries entries', merge policy entries = .ok schema ∧ merge policy entries' = .ok schema' ∧
      parseWithin limit policy (objectText [front, back]) =
        mergeEntries policy (entries ++ entries') := by
  obtain ⟨entries, hentries, hmerge⟩ := h.exists_entries
  obtain ⟨entries', hentries', hmerge'⟩ := h'.exists_entries
  refine ⟨entries, entries', hmerge, hmerge', ?_⟩
  have hblank : Text.Blankless (objectText [front, back]) := by
    rw [blankless_objectText_iff, List.forall_mem_cons, List.forall_mem_singleton]
    exact ⟨h.blankless, h'.blankless⟩
  have hinterior : Brace.interior? (objectText [front, back]) = some (front ++ ',' :: back) := by
    rw [Brace.interior?_eq_some_iff]
    simp [objectText, Text.joinWith]
  -- The first list ends at depth zero, where it began, so the comma behind it cuts.
  have hsegments : Brace.segments (front ++ ',' :: back) =
      Brace.segments front ++ Brace.segments back :=
    Brace.segments_append_comma h.ne_nil h'.ne_nil (Brace.depth_eq_zero_iff.2 heven)
  simp only [parseWithin, Text.removeBlanks_eq_self hblank, parseObject_eq_objectWith, objectWith,
    hinterior, hsegments, entriesWith_append hentries hentries']

/-- Lists without a key in common are parsed one after the other. -/
theorem joined_of_disjoint (h : PropertyList limit policy front schema)
    (h' : PropertyList limit policy back schema') (heven : front.count '{' = front.count '}')
    (hdisjoint : ∀ key ∈ schema'.keys, key ∉ schema.keys) :
    parseWithin limit policy (objectText [front, back]) = .ok (schema ++ schema') := by
  obtain ⟨entries, entries', hmerge, hmerge', hjoined⟩ := h.exists_merge_joined h' heven
  rw [hjoined, mergeEntries_eq_ok_iff]
  exact merge_append_of_disjoint hmerge hmerge' hdisjoint

/-- A policy that refuses no key settles the properties of both lists. -/
theorem exists_joined (hpolicy : policy ≠ .error) (h : PropertyList limit policy front schema)
    (h' : PropertyList limit policy back schema') (heven : front.count '{' = front.count '}') :
    ∃ entries entries' both, merge policy entries = .ok schema ∧
      merge policy entries' = .ok schema' ∧ merge policy (entries ++ entries') = .ok both ∧
      parseWithin limit policy (objectText [front, back]) = .ok both := by
  obtain ⟨entries, entries', hmerge, hmerge', hjoined⟩ := h.exists_merge_joined h' heven
  obtain ⟨both, hboth⟩ := exists_merge hpolicy (entries ++ entries')
  refine ⟨entries, entries', both, hmerge, hmerge', hboth, ?_⟩
  rw [hjoined, mergeEntries_eq_ok_iff]
  exact hboth

/-- Under `last` the second list has the first word on a key in both. -/
theorem joined_last (h : PropertyList limit .last front schema)
    (h' : PropertyList limit .last back schema') (heven : front.count '{' = front.count '}') :
    ∃ both, parseWithin limit .last (objectText [front, back]) = .ok both ∧
      both.keys = schema.keys ++ (schema'.keys.filter fun key => key ∉ schema.keys) ∧
      ∀ key, both.get? key = (schema'.get? key).or (schema.get? key) := by
  obtain ⟨entries, entries', both, hmerge, hmerge', hboth, hjoined⟩ :=
    exists_joined (by decide) h h' heven
  exact ⟨both, hjoined, keys_of_merge_append hmerge hmerge' hboth,
    lookup_of_merge_append_last hmerge hmerge' hboth⟩

/-- Under `first` the first list has it. -/
theorem joined_first (h : PropertyList limit .first front schema)
    (h' : PropertyList limit .first back schema') (heven : front.count '{' = front.count '}') :
    ∃ both, parseWithin limit .first (objectText [front, back]) = .ok both ∧
      both.keys = schema.keys ++ (schema'.keys.filter fun key => key ∉ schema.keys) ∧
      ∀ key, both.get? key = (schema.get? key).or (schema'.get? key) := by
  obtain ⟨entries, entries', both, hmerge, hmerge', hboth, hjoined⟩ :=
    exists_joined (by decide) h h' heven
  exact ⟨both, hjoined, keys_of_merge_append hmerge hmerge' hboth,
    lookup_of_merge_append (by decide) hmerge hmerge' hboth⟩

/-- Under `error` only lists without a key in common are parsed together. -/
theorem joined_error_iff (h : PropertyList limit .error front schema)
    (h' : PropertyList limit .error back schema') (heven : front.count '{' = front.count '}') :
    parseWithin limit .error (objectText [front, back]) = .ok (schema ++ schema') ↔
      ∀ key ∈ schema'.keys, key ∉ schema.keys := by
  constructor
  · intro hok key hkey' hkey
    obtain ⟨entries, entries', -, -, hjoined⟩ := h.exists_merge_joined h' heven
    rw [hjoined, mergeEntries_eq_ok_iff] at hok
    -- What is merged has distinct keys, so no key is in both parts.
    have hnodup := nodup_of_merge hok
    rw [List.map_append, List.nodup_append] at hnodup
    exact hnodup.2.2 key hkey key hkey' rfl
  · exact h.joined_of_disjoint h' heven

/-- Otherwise the first key of the second list that is in the first one is refused. -/
theorem joined_error_of_shared {key : Text} (h : PropertyList limit .error front schema)
    (h' : PropertyList limit .error back schema') (heven : front.count '{' = front.count '}')
    (hshared : (schema'.keys.find? fun key => key ∈ schema.keys) = some key) :
    parseWithin limit .error (objectText [front, back]) = reject (.repeatedKey key) := by
  obtain ⟨entries, entries', hmerge, hmerge', hjoined⟩ := h.exists_merge_joined h' heven
  obtain rfl : schema = entries := eq_append_of_mergeInto_error hmerge
  obtain rfl : schema' = entries' := eq_append_of_mergeInto_error hmerge'
  have hrepeated : FirstRepeated ((schema ++ schema').map Prod.fst) key := by
    rw [List.map_append]
    exact firstRepeated_append (nodup_of_merge hmerge) (nodup_of_merge hmerge') hshared
  rw [hjoined, mergeEntries, merge_error_of_firstRepeated hrepeated]

/-- Lists without a key in common give the same properties in either order. -/
theorem joined_swapped (h : PropertyList limit policy front schema)
    (h' : PropertyList limit policy back schema') (heven : front.count '{' = front.count '}')
    (heven' : back.count '{' = back.count '}')
    (hdisjoint : ∀ key ∈ schema'.keys, key ∉ schema.keys) :
    ∃ both both', parseWithin limit policy (objectText [front, back]) = .ok both ∧
      parseWithin limit policy (objectText [back, front]) = .ok both' ∧
      both.alike both' = true := by
  have hdisjoint' : ∀ key ∈ schema.keys, key ∉ schema'.keys := by
    intro key hkey hkey'
    exact hdisjoint key hkey' hkey
  have hok := h.joined_of_disjoint h' heven hdisjoint
  have hok' := h'.joined_of_disjoint h heven' hdisjoint'
  refine ⟨schema ++ schema', schema' ++ schema, hok, hok', ?_⟩
  -- What is parsed has distinct keys on every level, and then order does not matter.
  have hproper := proper_of_parseObject (Text.blankless_removeBlanks _) hok
  exact Schema.alike_of_perm hproper.distinct List.perm_append_comm

end PropertyList

/-- **Concatenating property lists merges the schemas.** Let two lists of properties be parsed, the
first with as many opening braces as closing ones. The properties of both, in one text, are the keys
of the first schema and then those that are new in the second; under `last` the second schema has
the first word on their shapes, under `first` the first one. Under `error` the properties of the
second schema follow those of the first if they have no key in common, and otherwise the first key
of the second schema that the first one has is refused. Lists without a key in common may change
places, if the second one has as many opening braces as closing ones, too. -/
theorem parseWithin_concatenated {limit : Nat} {policy : KeyPolicy} {front back : Text}
    {schema schema' : Schema} (h : PropertyList limit policy front schema)
    (h' : PropertyList limit policy back schema') (heven : front.count '{' = front.count '}') :
    let joined := parseWithin limit policy (objectText [front, back])
    (policy = .last → ∃ both, joined = .ok both ∧
      both.keys = schema.keys ++ (schema'.keys.filter fun key => key ∉ schema.keys) ∧
      ∀ key, both.get? key = (schema'.get? key).or (schema.get? key)) ∧
    (policy = .first → ∃ both, joined = .ok both ∧
      both.keys = schema.keys ++ (schema'.keys.filter fun key => key ∉ schema.keys) ∧
      ∀ key, both.get? key = (schema.get? key).or (schema'.get? key)) ∧
    (policy = .error →
      (joined = .ok (schema ++ schema') ↔ ∀ key ∈ schema'.keys, key ∉ schema.keys) ∧
      ∀ key, (schema'.keys.find? fun key => key ∈ schema.keys) = some key →
        ∃ failure, joined = .error failure ∧
          failure.chain.toList = ["Duplicate property '".toList ++ key ++ "'".toList]) ∧
    (back.count '{' = back.count '}' → (∀ key ∈ schema'.keys, key ∉ schema.keys) →
      ∃ both both', joined = .ok both ∧
        parseWithin limit policy (objectText [back, front]) = .ok both' ∧
        both.alike both' = true) := by
  intro joined
  refine ⟨?last, ?first, ?error, ?swapped⟩
  case last =>
    rintro rfl
    exact h.joined_last h' heven
  case first =>
    rintro rfl
    exact h.joined_first h' heven
  case error =>
    rintro rfl
    refine ⟨h.joined_error_iff h' heven, ?_⟩
    intro key hshared
    exact ⟨_, h.joined_error_of_shared h' heven hshared, rfl⟩
  case swapped =>
    intro heven' hdisjoint
    exact h.joined_swapped h' heven heven' hdisjoint

/-- A brace is closed before it is opened in the first list, and both lists have the key a. -/
theorem parse_concatenated_stray :
    let front := "\x7dx\x7b:string,a:number".toList
    let back := "c:string,a:boolean[]".toList
    front.count '{' = front.count '}' ∧
    (∃ both, parse .last (objectText [front, back]) = .ok both ∧
      both.keys = ["\x7dx\x7b".toList, ['a'], ['c']] ∧
      both.get? ['a'] = some (.array (.primitive .boolean))) ∧
    ∃ failure, parse .error (objectText [front, back]) = .error failure ∧
      failure.chain.toList = ["Duplicate property 'a'".toList] := by
  intro front back
  have heven : front.count '{' = front.count '}' := by decide
  have hfront : ∀ policy, PropertyList nestingLimit policy front
      [("\x7dx\x7b".toList, .primitive .string), (['a'], .primitive .number)] := by
    intro policy
    refine ⟨by decide, by decide, ?_⟩
    cases policy <;> rfl
  have hback : ∀ policy, PropertyList nestingLimit policy back
      [(['c'], .primitive .string), (['a'], .array (.primitive .boolean))] := by
    intro policy
    refine ⟨by decide, by decide, ?_⟩
    cases policy <;> rfl
  obtain ⟨hlast, -⟩ := parseWithin_concatenated (hfront .last) (hback .last) heven
  obtain ⟨both, hboth, hkeys, hget⟩ := hlast rfl
  obtain ⟨-, -, herror, -⟩ := parseWithin_concatenated (hfront .error) (hback .error) heven
  obtain ⟨-, hrefused⟩ := herror rfl
  refine ⟨heven, ⟨both, hboth, ?_, ?_⟩, hrefused ['a'] (by decide)⟩
  · rw [hkeys]
    decide
  · rw [hget]
    rfl

end DocShape
