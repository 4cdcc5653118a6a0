import DocShape.Proofs.Level
import Mathlib.Logic.Relation

/-!
# Descending into an object text

The parser goes from an object text to the object texts that stand as values in it. This module has
the words for that: the top-level segments of an object text (`topSegments`), the key of a segment
(`keyOf`), the object text that a value holds (`Holds`), and the object texts that are reached
from a text in any number of steps (`Descends`).

A level that fails does so at one of its segments or when the properties are merged; the lemmas here
say which failure comes from where (`entriesWith_eq_error`, `entryWith_eq_error`,
`valueWith_eq_error`).

Relation: one level, with the parser of the inner objects as a parameter.
-/

set_option autoImplicit false

namespace DocShape

/-- The top-level segments of an object text. A text that is not between braces has none. -/
def topSegments (text : Text) : List Text :=
  match Brace.interior? text with
  | none => []
  | some content => Brace.segments content

theorem topSegments_braced (content : Text) :
    topSegments ('{' :: content ++ ['}']) = Brace.segments content := by
  rw [topSegments, Brace.interior?_eq_some_iff.2 rfl]

/-- An object text is its segments between braces. -/
theorem objectText_topSegments (content : Text) :
    objectText (topSegments ('{' :: content ++ ['}'])) = '{' :: content ++ ['}'] := by
  rw [topSegments_braced, objectText, Brace.joinWith_segments]

theorem blankless_of_mem_topSegments {text segment : Text} (hblank : Text.Blankless text)
    (h : segment ∈ topSegments text) : Text.Blankless segment := by
  cases hinterior : Brace.interior? text with
  | none => simp [topSegments, hinterior] at h
  | some content =>
    obtain rfl := Brace.interior?_eq_some_iff.1 hinterior
    rw [← objectText_topSegments, blankless_objectText_iff] at hblank
    exact hblank segment h

/-- The key of a segment: what stands before its first colon. -/
def keyOf (segment : Text) : Text := segment.takeWhile fun c => c != ':'

theorem keyOf_append {key : Text} (h : ':' ∉ key) (raw : Text) :
    keyOf (key ++ ':' :: raw) = key := by
  have hkey : ∀ c ∈ key, (c != ':') = true := by
    intro c hc
    rw [bne_iff_ne]
    rintro rfl
    exact h hc
  rw [keyOf, List.takeWhile_append_of_pos hkey]
  simp

/-- A value holds an object text: it is that text, or an array of it. -/
inductive Holds : (raw object : Text) → Prop
  | object (content : Text) : Holds ('{' :: content ++ ['}']) ('{' :: content ++ ['}'])
  | objects (content : Text) :
      Holds ("Array<".toList ++ ('{' :: content ++ ['}'] ++ ['>'])) ('{' :: content ++ ['}'])

theorem holds_iff {raw object : Text} :
    Holds raw object ↔
      ValueForm.ofText raw = .object object ∨ ValueForm.ofText raw = .objects object := by
  constructor
  · intro h
    cases h with
    | object content => exact Or.inl (ValueForm.ofText_braced content)
    | objects content => exact Or.inr (ValueForm.ofText_array_braced content)
  · intro h
    have hspelt := ValueForm.spelt_ofText raw
    rcases h with h | h
    · rw [h] at hspelt
      cases hspelt with
      | object content => exact .object content
    · rw [h] at hspelt
      cases hspelt with
      | objects content => exact .objects content

theorem Holds.blankless {raw object : Text} (h : Holds raw object) (hblank : Text.Blankless raw) :
    Text.Blankless object := by
  cases h with
  | object content => exact hblank
  | objects content =>
    rw [Text.blankless_append_iff, Text.blankless_append_iff] at hblank
    exact hblank.2.1

/-- The name that a value without an object is read by. -/
def Names (raw token : Text) : Prop :=
  ValueForm.ofText raw = .primitive token ∨ ValueForm.ofText raw = .primitives token

/-- An object text is the value of a top-level segment. -/
def HeldIn (text object : Text) : Prop :=
  ∃ key raw, key ++ ':' :: raw ∈ topSegments text ∧ ':' ∉ key ∧ Holds raw object

/-- An object text is reached from a text through values of top-level segments. -/
def Descends : Text → Text → Prop := Relation.ReflTransGen HeldIn

/-! ## Where a level fails -/

theorem Text.cutAt?_eq_none_iff {mark : Char} {text : Text} :
    cutAt? mark text = none ↔ mark ∉ text := by
  induction text with
  | nil => simp [cutAt?]
  | cons c text ih =>
    rw [cutAt?, List.mem_cons, not_or, ← ih]
    split
    · rename_i hc
      simp [hc]
    · rename_i hc
      simp [Ne.symm hc]

theorem map_eq_error_iff {α β : Type} {f : α → β} {answer : Parsed α} {failure : Failure} :
    answer.map f = .error failure ↔ answer = .error failure := by
  cases answer <;> simp [Except.map]

theorem inside_eq_error_iff {α : Type} {step : Step} {answer : Parsed α} {failure : Failure} :
    inside step answer = .error failure ↔
      ∃ inner, answer = .error inner ∧ failure = inner.within step := by
  cases answer <;> simp [inside, eq_comm]

theorem parseToken_eq_error_iff {token : Text} {failure : Failure} :
    parseToken token = .error failure ↔
      Primitive.ofName? token = none ∧ failure = .rejected [] (.unknownToken token) := by
  rw [parseToken]
  cases Primitive.ofName? token <;> simp [reject, eq_comm]

theorem parseProperty_eq_error_iff {segment : Text} {failure : Failure} :
    parseProperty segment = .error failure ↔
      ':' ∉ segment ∧ failure = .rejected [] (.noColon segment) := by
  rw [parseProperty, ← Text.cutAt?_eq_none_iff]
  cases Text.cutAt? ':' segment <;> simp [reject, eq_comm]

/-- A value fails where the object in it does, or because its name is unknown. -/
theorem valueWith_eq_error {nested : Text → Parsed Schema} {raw : Text} {failure : Failure}
    (h : valueWith nested raw = .error failure) :
    (∃ object, Holds raw object ∧ nested object = .error failure) ∨
      ∃ token, Names raw token ∧ Primitive.ofName? token = none ∧
        failure = .rejected [] (.unknownToken token) := by
  rw [valueWith] at h
  cases hform : ValueForm.ofText raw with
  | objects text =>
    rw [hform] at h
    exact Or.inl ⟨text, holds_iff.2 (Or.inr hform), map_eq_error_iff.1 h⟩
  | object text =>
    rw [hform] at h
    exact Or.inl ⟨text, holds_iff.2 (Or.inl hform), map_eq_error_iff.1 h⟩
  | primitives token =>
    rw [hform] at h
    exact Or.inr ⟨token, Or.inr hform, parseToken_eq_error_iff.1 (map_eq_error_iff.1 h)⟩
  | primitive token =>
    rw [hform] at h
    exact Or.inr ⟨token, Or.inl hform, parseToken_eq_error_iff.1 h⟩

/-- A property fails because it has no colon, or where its value does. -/
theorem entryWith_eq_error {nested : Text → Parsed Schema} {segment : Text} {failure : Failure}
    (hblank : Text.Blankless segment) (h : entryWith nested segment = .error failure) :
    (':' ∉ segment ∧ failure = .rejected [] (.noColon segment)) ∨
      ∃ key raw inner, segment = key ++ ':' :: raw ∧ ':' ∉ key ∧
        valueWith nested raw = .error inner ∧ failure = inner.within (.valueOf key) := by
  rw [entryWith] at h
  cases hproperty : parseProperty segment with
  | error inner =>
    left
    rw [hproperty] at h
    obtain rfl : inner = failure := by simpa using h
    exact parseProperty_eq_error_iff.1 hproperty
  | ok parts =>
    right
    obtain ⟨htext, hkey⟩ := (parseProperty_eq_ok_iff hblank).1 hproperty
    rw [hproperty] at h
    obtain ⟨inner, hvalue, rfl⟩ := inside_eq_error_iff.1 (map_eq_error_iff.1 h)
    exact ⟨parts.1, parts.2, inner, htext, hkey, hvalue, rfl⟩

/-- Properties fail at the first one that fails. -/
theorem entriesWith_eq_error {nested : Text → Parsed Schema} {segments : List Text}
    {failure : Failure} (hblank : ∀ segment ∈ segments, Text.Blankless segment)
    (h : entriesWith nested segments = .error failure) :
    ∃ before segment after inner, segments = before ++ segment :: after ∧
      (∀ earlier ∈ before, ∃ entry, entryWith nested earlier = .ok entry) ∧
        entryWith nested segment = .error inner ∧ failure = inner.within (.property segment) := by
  induction segments with
  | nil => simp [entriesWith] at h
  | cons first segments ih =>
    rw [List.forall_mem_cons] at hblank
    rw [entriesWith, Text.trim_eq_self hblank.1] at h
    cases hfirst : entryWith nested first with
    | error inner =>
      have hinside : inside (.property first) (entryWith nested first) =
          .error (inner.within (.property first)) := by
        rw [hfirst, inside]
      rw [hinside] at h
      obtain rfl : inner.within (.property first) = failure := by simpa using h
      exact ⟨[], first, segments, inner, rfl, by simp, hfirst, rfl⟩
    | ok entry =>
      have hinside : inside (.property first) (entryWith nested first) = .ok entry := by
        rw [hfirst, inside]
      rw [hinside] at h
      obtain ⟨before, segment, after, inner, rfl, hbefore, hsegment, hfailure⟩ :=
        ih hblank.2 (map_eq_error_iff.1 h)
      refine ⟨first :: before, segment, after, inner, rfl, ?_, hsegment, hfailure⟩
      rw [List.forall_mem_cons]
      exact ⟨⟨entry, hfirst⟩, hbefore⟩

/-- An object fails where its properties do, or when they are merged. -/
theorem objectWith_eq_error {policy : KeyPolicy} {nested : Text → Parsed Schema} {content : Text}
    {failure : Failure}
    (h : objectWith policy nested ('{' :: content ++ ['}']) = .error failure) :
    entriesWith nested (topSegments ('{' :: content ++ ['}'])) = .error failure ∨
      ∃ entries key, entriesWith nested (topSegments ('{' :: content ++ ['}'])) = .ok entries ∧
        merge policy entries = .error key ∧ failure = .rejected [] (.repeatedKey key) := by
  rw [topSegments_braced]
  simp only [objectWith, Brace.interior?_eq_some_iff.2 rfl] at h
  cases hentries : entriesWith nested (Brace.segments content) with
  | error inner =>
    rw [hentries] at h
    exact Or.inl h
  | ok entries =>
    simp only [hentries, mergeEntries] at h
    cases hmerge : merge policy entries with
    | ok schema => simp [hmerge] at h
    | error key =>
      simp only [hmerge, reject, Except.error.injEq] at h
      exact Or.inr ⟨entries, key, rfl, hmerge, h.symm⟩

/-- The keys of properties that are read are those of their segments. -/
theorem map_fst_of_reads {inner : Text → Schema → Prop} {segments : List Text}
    {entries : List (Text × Shape)} (h : List.Forall₂ (PropertyReads inner) segments entries) :
    entries.map Prod.fst = segments.map keyOf := by
  refine (map_eq_map_of_forall₂ (h.imp ?_)).symm
  rintro segment entry ⟨hkey, raw, rfl, -⟩
  exact keyOf_append hkey raw

end DocShape
