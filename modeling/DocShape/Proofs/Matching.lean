import DocShape.Regex.Basic
import Mathlib.Data.List.Basic

/-!
# Deciding the language of an expression

What follows in a text after an expression has matched its front is computed by `Regex.rests`, and
computed completely: a rest is found exactly when a text of the language stands before it
(`Regex.mem_rests_iff`). So an expression matches a text from end to end exactly when the text is in
its language (`Regex.isMatch_iff_matches`).

The fuel of a repetition is the length of the text. It suffices because a repetition can be made of
steps that each match something (`Regex.Matches.star_inversion`), and each of those makes the text
shorter.

The rest of the module reads the language off an expression, one statement for each constructor.
-/

set_option autoImplicit false

namespace DocShape.Regex

variable {r first second inner : Regex} {s text rest : Text}

/-! ## The language, constructor by constructor -/

theorem matches_empty_iff : Matches .empty s ↔ s = [] := by
  constructor
  · rintro ⟨⟩
    rfl
  · rintro rfl
    exact .empty

theorem matches_literal_iff {c : Char} : Matches (.literal c) s ↔ s = [c] := by
  constructor
  · rintro ⟨⟩
    rfl
  · rintro rfl
    exact .literal c

theorem matches_escaped_iff {c : Char} : Matches (.escaped c) s ↔ s = [c] := by
  constructor
  · rintro ⟨⟩
    rfl
  · rintro rfl
    exact .escaped c

theorem matches_oneOf_iff {characters : CharClass} :
    Matches (.oneOf characters) s ↔ ∃ c, s = [c] ∧ characters.has c = true := by
  constructor
  · rintro ⟨⟩
    exact ⟨_, rfl, ‹_›⟩
  · rintro ⟨c, rfl, hc⟩
    exact .oneOf hc

theorem matches_seq_iff :
    Matches (.seq first second) s ↔ ∃ u v, Matches first u ∧ Matches second v ∧ s = u ++ v := by
  constructor
  · intro h
    cases h with
    | seq hfirst hsecond => exact ⟨_, _, hfirst, hsecond, rfl⟩
  · rintro ⟨u, v, hfirst, hsecond, rfl⟩
    exact .seq hfirst hsecond

theorem matches_alt_iff : Matches (.alt first second) s ↔ Matches first s ∨ Matches second s := by
  constructor
  · intro h
    cases h with
    | altFirst hfirst => exact .inl hfirst
    | altSecond hsecond => exact .inr hsecond
  · rintro (hfirst | hsecond)
    · exact .altFirst hfirst
    · exact .altSecond hsecond

theorem matches_group_iff : Matches (.group inner) s ↔ Matches inner s := by
  constructor
  · intro h
    cases h with
    | group h => exact h
  · exact .group

theorem matches_optional_iff : Matches (.optional inner) s ↔ s = [] ∨ Matches inner s := by
  constructor
  · intro h
    cases h with
    | optionalNone => exact .inl rfl
    | optionalSome h => exact .inr h
  · rintro (rfl | h)
    · exact .optionalNone
    · exact .optionalSome h

theorem matches_plus_iff :
    Matches (.plus inner) s ↔
      ∃ u v, Matches inner u ∧ Matches (.star inner) v ∧ s = u ++ v := by
  constructor
  · intro h
    cases h with
    | plus hinner hstar => exact ⟨_, _, hinner, hstar, rfl⟩
  · rintro ⟨u, v, hinner, hstar, rfl⟩
    exact .plus hinner hstar

/-- A repetition matches nothing, or its first step matches something. -/
theorem Matches.star_inversion (h : Matches (.star inner) s) :
    s = [] ∨ ∃ u v, u ≠ [] ∧ Matches inner u ∧ Matches (.star inner) v ∧ s = u ++ v := by
  generalize hr : Regex.star inner = r at h
  induction h with
  | starDone => exact .inl rfl
  | @starMore inner' u v hinner hstar _ ih =>
    cases hr
    -- a first step that matches nothing is left out
    rcases u with _ | ⟨c, u⟩
    · exact ih rfl
    · exact .inr ⟨c :: u, v, List.cons_ne_nil c u, hinner, hstar, rfl⟩
  | _ => cases hr

theorem matches_star_iff :
    Matches (.star inner) s ↔
      s = [] ∨ ∃ u v, u ≠ [] ∧ Matches inner u ∧ Matches (.star inner) v ∧ s = u ++ v := by
  constructor
  · exact Matches.star_inversion
  · rintro (rfl | ⟨u, v, _, hinner, hstar, rfl⟩)
    · exact .starDone
    · exact .starMore hinner hstar

/-- A repetition matches more if its step does. -/
theorem Matches.star_imp {r r' : Regex} {s : Text} (hr : ∀ s, r.Matches s → r'.Matches s)
    (h : Matches (.star r) s) : Matches (.star r') s := by
  generalize hstar : Regex.star r = looped at h
  induction h with
  | starDone => exact .starDone
  | starMore hinner _ _ ih =>
    cases hstar
    exact .starMore (hr _ hinner) (ih rfl)
  | _ => cases hstar

/-- The characters of a class, any number of them. -/
theorem matches_star_oneOf_iff {characters : CharClass} :
    Matches (.star (.oneOf characters)) s ↔ ∀ c ∈ s, characters.has c = true := by
  induction s with
  | nil => exact iff_of_true .starDone fun c hc => absurd hc List.not_mem_nil
  | cons c s ih =>
    rw [matches_star_iff, List.forall_mem_cons, ← ih]
    constructor
    · rintro (h | ⟨u, v, _, hu, hv, heq⟩)
      · exact absurd h (List.cons_ne_nil c s)
      · obtain ⟨d, rfl, hd⟩ := matches_oneOf_iff.1 hu
        obtain ⟨rfl, rfl⟩ := List.cons.inj heq
        exact ⟨hd, hv⟩
    · rintro ⟨hc, hs⟩
      exact .inr ⟨[c], s, List.cons_ne_nil c [], .oneOf hc, hs, rfl⟩

theorem matches_plus_oneOf_iff {characters : CharClass} :
    Matches (.plus (.oneOf characters)) s ↔ s ≠ [] ∧ ∀ c ∈ s, characters.has c = true := by
  rw [matches_plus_iff]
  constructor
  · rintro ⟨u, v, hu, hv, rfl⟩
    obtain ⟨c, rfl, hc⟩ := matches_oneOf_iff.1 hu
    refine ⟨List.cons_ne_nil c v, ?_⟩
    rw [List.singleton_append, List.forall_mem_cons]
    exact ⟨hc, matches_star_oneOf_iff.1 hv⟩
  · rintro ⟨hne, h⟩
    rcases s with _ | ⟨c, s⟩
    · exact absurd rfl hne
    · rw [List.forall_mem_cons] at h
      exact ⟨[c], s, .oneOf h.1, matches_star_oneOf_iff.2 h.2, rfl⟩

/-- A sequence matches its parts one after the other. -/
theorem matches_sequence_cons_iff {rs : List Regex} :
    Matches (sequence (r :: rs)) s ↔
      ∃ u v, Matches r u ∧ Matches (sequence rs) v ∧ s = u ++ v := by
  rcases rs with _ | ⟨next, rs⟩
  · simp [sequence, matches_empty_iff]
  · rw [sequence, matches_seq_iff]

theorem matches_sequence_nil_iff : Matches (sequence []) s ↔ s = [] := matches_empty_iff

/-- A sequence can be cut in two. -/
theorem matches_sequence_append_iff {rs rs' : List Regex} {s : Text} :
    Matches (sequence (rs ++ rs')) s ↔
      ∃ u v, Matches (sequence rs) u ∧ Matches (sequence rs') v ∧ s = u ++ v := by
  induction rs generalizing s with
  | nil => simp [matches_sequence_nil_iff]
  | cons r rs ih =>
    rw [List.cons_append, matches_sequence_cons_iff]
    constructor
    · rintro ⟨u, _, hr, hrest, rfl⟩
      obtain ⟨v, w, hrs, hrs', rfl⟩ := ih.1 hrest
      exact ⟨u ++ v, w, matches_sequence_cons_iff.2 ⟨u, v, hr, hrs, rfl⟩, hrs',
        (List.append_assoc u v w).symm⟩
    · rintro ⟨_, w, hfront, hrs', rfl⟩
      obtain ⟨u, v, hr, hrs, rfl⟩ := matches_sequence_cons_iff.1 hfront
      exact ⟨u, v ++ w, hr, ih.2 ⟨v, w, hrs, hrs', rfl⟩, List.append_assoc u v w⟩

/-- The characters that can stand anywhere in the texts of an expression. -/
def Uses : Regex → Char → Prop
  | .empty, _ => False
  | .literal c, d => d = c
  | .escaped c, d => d = c
  | .oneOf characters, d => characters.has d = true
  | .seq first second, d => first.Uses d ∨ second.Uses d
  | .alt first second, d => first.Uses d ∨ second.Uses d
  | .group inner, d => inner.Uses d
  | .star inner, d => inner.Uses d
  | .plus inner, d => inner.Uses d
  | .optional inner, d => inner.Uses d

theorem Matches.uses {c : Char} (h : Matches r s) (hc : c ∈ s) : r.Uses c := by
  induction h with
  | empty => cases hc
  | literal d => exact List.mem_singleton.1 hc
  | escaped d => exact List.mem_singleton.1 hc
  | oneOf hd => exact List.mem_singleton.1 hc ▸ hd
  | seq _ _ ihfirst ihsecond => exact (List.mem_append.1 hc).imp ihfirst ihsecond
  | altFirst _ ih => exact .inl (ih hc)
  | altSecond _ ih => exact .inr (ih hc)
  | group _ ih => exact ih hc
  | starDone => cases hc
  | starMore _ _ ihinner ihstar => exact (List.mem_append.1 hc).elim ihinner ihstar
  | plus _ _ ihinner ihstar => exact (List.mem_append.1 hc).elim ihinner ihstar
  | optionalNone => cases hc
  | optionalSome _ ih => exact ih hc

/-! ## What follows in a text -/

theorem mem_dropIf_iff {p : Char → Bool} :
    rest ∈ dropIf p text ↔ ∃ c, p c = true ∧ text = c :: rest := by
  rcases text with _ | ⟨c, text⟩
  · simp [dropIf]
  · rw [dropIf]
    by_cases hc : p c = true
    · rw [if_pos hc, List.mem_singleton]
      constructor
      · rintro rfl
        exact ⟨c, hc, rfl⟩
      · rintro ⟨d, _, heq⟩
        exact (List.cons.inj heq).2.symm
    · rw [if_neg hc]
      constructor
      · intro h
        exact absurd h List.not_mem_nil
      · rintro ⟨d, hd, heq⟩
        exact absurd ((List.cons.inj heq).1 ▸ hd) hc

/-- A repeated step leaves what its repetition leaves, if the fuel is not less than the length of
the text. -/
theorem mem_repeated_iff
    (hstep : ∀ text rest, rest ∈ inner.rests text ↔ ∃ s, inner.Matches s ∧ text = s ++ rest)
    {fuel : Nat} (hfuel : text.length ≤ fuel) :
    rest ∈ repeated inner.rests fuel text ↔ ∃ s, Matches (.star inner) s ∧ text = s ++ rest := by
  induction fuel generalizing text with
  | zero =>
    have htext : text = [] := List.eq_nil_of_length_eq_zero (Nat.le_zero.1 hfuel)
    subst htext
    rw [repeated, List.mem_singleton]
    constructor
    · rintro rfl
      exact ⟨[], .starDone, rfl⟩
    · rintro ⟨s, _, heq⟩
      exact (List.append_eq_nil_iff.1 heq.symm).2
  | succ fuel ih =>
    rw [repeated, List.mem_cons, List.mem_flatMap]
    simp only [List.mem_filter, decide_eq_true_eq]
    constructor
    · rintro (rfl | ⟨mid, ⟨hmid, hshorter⟩, hrest⟩)
      · exact ⟨[], .starDone, rfl⟩
      · obtain ⟨u, hu, rfl⟩ := (hstep text mid).1 hmid
        obtain ⟨v, hv, rfl⟩ := (ih (by omega)).1 hrest
        exact ⟨u ++ v, .starMore hu hv, (List.append_assoc u v rest).symm⟩
    · rintro ⟨s, hs, rfl⟩
      -- only steps that take something are tried, and others are not needed
      rcases hs.star_inversion with rfl | ⟨u, v, hne, hu, hv, rfl⟩
      · exact .inl rfl
      · have hlength : 0 < u.length := List.length_pos_iff.2 hne
        simp only [List.length_append] at hfuel
        refine .inr ⟨v ++ rest, ⟨(hstep _ _).2 ⟨u, hu, List.append_assoc u v rest⟩, ?_⟩, ?_⟩
        · simp only [List.length_append]
          omega
        · exact (ih (by simp only [List.length_append]; omega)).2 ⟨v, hv, rfl⟩

/-- A rest is found exactly when a text of the language stands before it. -/
theorem mem_rests_iff : rest ∈ r.rests text ↔ ∃ s, r.Matches s ∧ text = s ++ rest := by
  induction r generalizing text rest with
  | empty => simp [rests, matches_empty_iff, eq_comm]
  | literal c => simp [rests, mem_dropIf_iff, matches_literal_iff]
  | escaped c => simp [rests, mem_dropIf_iff, matches_escaped_iff]
  | oneOf characters => simp [rests, mem_dropIf_iff, matches_oneOf_iff, and_comm]
  | seq first second ihfirst ihsecond =>
    rw [rests, List.mem_eraseDups, List.mem_flatMap]
    constructor
    · rintro ⟨mid, hmid, hrest⟩
      obtain ⟨u, hu, rfl⟩ := ihfirst.1 hmid
      obtain ⟨v, hv, rfl⟩ := ihsecond.1 hrest
      exact ⟨u ++ v, .seq hu hv, (List.append_assoc u v rest).symm⟩
    · rintro ⟨s, hs, rfl⟩
      obtain ⟨u, v, hu, hv, rfl⟩ := matches_seq_iff.1 hs
      exact ⟨v ++ rest, ihfirst.2 ⟨u, hu, List.append_assoc u v rest⟩, ihsecond.2 ⟨v, hv, rfl⟩⟩
  | alt first second ihfirst ihsecond =>
    rw [rests, List.mem_append, ihfirst, ihsecond, ← exists_or]
    simp only [matches_alt_iff, or_and_right]
  | group inner ih => rw [rests, ih]; simp only [matches_group_iff]
  | star inner ih => exact mem_repeated_iff (fun _ _ => ih) (Nat.le_refl _)
  | plus inner ih =>
    rw [rests, List.mem_flatMap]
    constructor
    · rintro ⟨mid, hmid, hrest⟩
      obtain ⟨u, hu, rfl⟩ := ih.1 hmid
      obtain ⟨v, hv, rfl⟩ := (mem_repeated_iff (fun _ _ => ih) (Nat.le_refl _)).1 hrest
      exact ⟨u ++ v, .plus hu hv, (List.append_assoc u v rest).symm⟩
    · rintro ⟨s, hs, rfl⟩
      obtain ⟨u, v, hu, hv, rfl⟩ := matches_plus_iff.1 hs
      exact ⟨v ++ rest, ih.2 ⟨u, hu, List.append_assoc u v rest⟩,
        (mem_repeated_iff (fun _ _ => ih) (Nat.le_refl _)).2 ⟨v, hv, rfl⟩⟩
  | optional inner ih =>
    rw [rests, List.mem_cons, ih]
    simp only [matches_optional_iff, or_and_right, exists_or, exists_eq_left, List.nil_append]
    rw [eq_comm]

/-- An expression matches a text from end to end exactly when the text is in its language. -/
theorem isMatch_iff_matches : r.isMatch text = true ↔ r.Matches text := by
  rw [isMatch, List.any_eq_true]
  constructor
  · rintro ⟨rest, hrest, hempty⟩
    obtain ⟨s, hs, rfl⟩ := mem_rests_iff.1 hrest
    rw [List.isEmpty_iff.1 hempty, List.append_nil]
    exact hs
  · intro h
    exact ⟨[], mem_rests_iff.2 ⟨text, h, (List.append_nil text).symm⟩, rfl⟩

end DocShape.Regex
