import DocShape.Brace
import DocShape.Text.Blank
import Mathlib.Data.List.Basic

/-!
# Balanced texts and where a text is cut

A text is balanced when no part it begins with closes more braces than it opens and the whole text
closes all it opens (`Balanced`). It is uncut when none of its commas stands where the braces before
it are even in number (`Uncut`). The texts that the library calls safe are the balanced and uncut
ones (`isSafe_iff`), and both properties can be computed.

A list of texts is separate when none of them is cut and every one but the last has as many opening
braces as closing ones (`Separate`). The segments of a text are separate, and a separate list joined
by commas is cut into the same list again (`separate_segments`, `segments_joinWith`), so `segments`
is the only way to take a text apart like that (`segments_eq_iff_joinWith`). Nothing here asks for
balanced braces: the depth may be negative on the way and anything at the end.
-/

set_option autoImplicit false

namespace DocShape.Brace

@[simp] theorem weight_open : weight '{' = 1 := rfl

@[simp] theorem weight_close : weight '}' = -1 := rfl

/-- Only braces weigh anything. -/
theorem weight_of_ne {c : Char} (ho : c ≠ '{') (hc : c ≠ '}') : weight c = 0 := by
  simp [weight, ho, hc]

@[simp] theorem depth_nil : depth [] = 0 := rfl

@[simp] theorem depth_cons (c : Char) (text : Text) :
    depth (c :: text) = weight c + depth text := rfl

/-- The depth compares how many braces a text opens with how many it closes. -/
theorem depth_eq_count_sub_count (text : Text) :
    depth text = (text.count '{' : Int) - text.count '}' := by
  induction text with
  | nil => rfl
  | cons c text ih =>
    rw [depth_cons, ih, List.count_cons, List.count_cons]
    by_cases ho : c = '{'
    · subst ho
      simp
      omega
    by_cases hc : c = '}'
    · subst hc
      simp
      omega
    · simp [weight_of_ne ho hc, ho, hc]

/-- A text ends at depth zero exactly when it opens as many braces as it closes. -/
theorem depth_eq_zero_iff {text : Text} : depth text = 0 ↔ text.count '{' = text.count '}' := by
  rw [depth_eq_count_sub_count]
  omega

/-! ## Balanced texts -/

/-- A text that begins at the given depth never goes below zero and ends there. -/
def BalancedFrom (level : Int) (text : Text) : Prop :=
  (∀ front, front <+: text → 0 ≤ level + depth front) ∧ level + depth text = 0

/-- No part a text begins with has more closing braces than opening ones, and the text has as many
of the one as of the other. -/
def Balanced (text : Text) : Prop :=
  (∀ front, front <+: text → 0 ≤ depth front) ∧ depth text = 0

theorem balancedFrom_zero_iff {text : Text} : BalancedFrom 0 text ↔ Balanced text := by
  simp [BalancedFrom, Balanced]

theorem balancedFrom_nil_iff {level : Int} : BalancedFrom level [] ↔ level = 0 := by
  constructor
  · rintro ⟨-, h⟩
    simpa using h
  · rintro rfl
    exact ⟨fun front hfront => by simp [List.prefix_nil.1 hfront], by simp⟩

theorem balancedFrom_cons_iff {level : Int} {c : Char} {text : Text} :
    BalancedFrom level (c :: text) ↔ 0 ≤ level ∧ BalancedFrom (level + weight c) text := by
  constructor
  · rintro ⟨hfront, hend⟩
    refine ⟨by simpa using hfront [] List.nil_prefix, ?_, ?_⟩
    · intro front h
      have := hfront (c :: front) ((List.prefix_cons_inj c).2 h)
      rw [depth_cons] at this
      omega
    · rw [depth_cons] at hend
      omega
  · rintro ⟨hlevel, hfront, hend⟩
    refine ⟨fun front h => ?_, by rw [depth_cons]; omega⟩
    rcases List.prefix_cons_iff.1 h with rfl | ⟨rest, rfl, hrest⟩
    · simpa using hlevel
    · have := hfront rest hrest
      rw [depth_cons]
      omega

instance decidableBalancedFrom : (level : Int) → (text : Text) → Decidable (BalancedFrom level text)
  | _, [] => decidable_of_iff _ balancedFrom_nil_iff.symm
  | level, c :: text =>
      have := decidableBalancedFrom (level + weight c) text
      decidable_of_iff _ balancedFrom_cons_iff.symm

instance (text : Text) : Decidable (Balanced text) := decidable_of_iff _ balancedFrom_zero_iff

theorem balancedFrom_append {level mid : Int} {s t : Text} (hs : BalancedFrom level s)
    (ht : BalancedFrom mid t) : BalancedFrom (level + mid) (s ++ t) := by
  induction s generalizing level with
  | nil =>
    rw [balancedFrom_nil_iff] at hs
    simpa [hs] using ht
  | cons c s ih =>
    rw [balancedFrom_cons_iff] at hs
    rw [List.cons_append, balancedFrom_cons_iff]
    -- The second text begins at `mid`, which is why `mid` cannot be negative.
    have hmid : 0 ≤ mid := by simpa using ht.1 [] List.nil_prefix
    refine ⟨by omega, ?_⟩
    have := ih hs.2
    rwa [show level + weight c + mid = level + mid + weight c by omega] at this

theorem balanced_nil : Balanced [] := by decide

theorem Balanced.append {s t : Text} (hs : Balanced s) (ht : Balanced t) : Balanced (s ++ t) := by
  rw [← balancedFrom_zero_iff] at hs ht ⊢
  exact balancedFrom_append hs ht

/-- Pairs of braces may be put around a balanced text. -/
theorem Balanced.braced {text : Text} (h : Balanced text) : Balanced ('{' :: text ++ ['}']) := by
  rw [← balancedFrom_zero_iff] at h ⊢
  have hclose : BalancedFrom 1 ['}'] := by decide
  exact balancedFrom_cons_iff.2 ⟨Int.le_refl 0, balancedFrom_append h hclose⟩

theorem Balanced.cons {c : Char} {text : Text} (hc : weight c = 0) (h : Balanced text) :
    Balanced (c :: text) := by
  rw [← balancedFrom_zero_iff] at h ⊢
  exact balancedFrom_cons_iff.2 ⟨Int.le_refl 0, by simpa [hc] using h⟩

/-- Balanced texts joined by commas are a balanced text. -/
theorem balanced_joinWith {texts : List Text} (h : ∀ text ∈ texts, Balanced text) :
    Balanced (Text.joinWith [','] texts) := by
  induction texts with
  | nil => exact balanced_nil
  | cons text texts ih =>
    rw [List.forall_mem_cons] at h
    cases texts with
    | nil => exact h.1
    | cons next rest =>
      rw [Text.joinWith, List.append_assoc]
      exact h.1.append (Balanced.cons rfl (ih h.2))

/-! ## Commas that cut -/

/-- No comma of a text that begins at the given depth stands at depth zero. -/
def UncutFrom (level : Int) (text : Text) : Prop :=
  ∀ front back, text = front ++ ',' :: back → level + depth front ≠ 0

/-- No comma of the text stands where what precedes it has as many opening braces as closing
ones. -/
def Uncut (text : Text) : Prop :=
  ∀ front back, text = front ++ ',' :: back → depth front ≠ 0

theorem uncutFrom_zero_iff {text : Text} : UncutFrom 0 text ↔ Uncut text := by
  simp [UncutFrom, Uncut]

theorem uncutFrom_nil (level : Int) : UncutFrom level [] := by
  intro front back h
  simp at h

theorem uncutFrom_cons_iff {level : Int} {c : Char} {text : Text} :
    UncutFrom level (c :: text) ↔ ¬ (c = ',' ∧ level = 0) ∧ UncutFrom (level + weight c) text := by
  constructor
  · intro h
    refine ⟨?_, fun front back htext => ?_⟩
    · rintro ⟨rfl, rfl⟩
      exact h [] text rfl (by simp)
    · have := h (c :: front) back (by rw [htext, List.cons_append])
      rw [depth_cons] at this
      omega
  · rintro ⟨hc, h⟩ front back htext
    cases front with
    | nil =>
      simp only [List.nil_append, List.cons.injEq] at htext
      simpa using fun hlevel => hc ⟨htext.1, hlevel⟩
    | cons d front =>
      simp only [List.cons_append, List.cons.injEq] at htext
      obtain ⟨rfl, htext⟩ := htext
      have := h front back htext
      rw [depth_cons]
      omega

instance decidableUncutFrom : (level : Int) → (text : Text) → Decidable (UncutFrom level text)
  | level, [] => .isTrue (uncutFrom_nil level)
  | level, c :: text =>
      have := decidableUncutFrom (level + weight c) text
      decidable_of_iff _ uncutFrom_cons_iff.symm

instance (text : Text) : Decidable (Uncut text) := decidable_of_iff _ uncutFrom_zero_iff

theorem uncutFrom_append_iff {level : Int} {s t : Text} :
    UncutFrom level (s ++ t) ↔ UncutFrom level s ∧ UncutFrom (level + depth s) t := by
  induction s generalizing level with
  | nil => simp [uncutFrom_nil]
  | cons c s ih =>
    rw [List.cons_append, uncutFrom_cons_iff, uncutFrom_cons_iff, ih, depth_cons, and_assoc,
      Int.add_assoc]

theorem Uncut.append {s t : Text} (hs : Uncut s) (hdepth : depth s = 0) (ht : Uncut t) :
    Uncut (s ++ t) := by
  rw [← uncutFrom_zero_iff] at hs ht ⊢
  exact uncutFrom_append_iff.2 ⟨hs, by simpa [hdepth] using ht⟩

/-- Inside a pair of braces every comma of a balanced text is covered. -/
theorem Balanced.uncut_braced {text : Text} (h : Balanced text) :
    Uncut ('{' :: text ++ ['}']) := by
  intro front back htext
  cases front with
  | nil => simp at htext
  | cons c front =>
    simp only [List.cons_append, List.cons.injEq] at htext
    obtain ⟨rfl, htext⟩ := htext
    -- The comma is not the closing brace, so what stands before it is a beginning of `text`.
    rcases List.append_eq_append_iff.1 htext with ⟨rest, rfl, hrest⟩ | ⟨rest, hfront, hrest⟩
    · cases rest with
      | nil => simp at hrest
      | cons d rest => simp at hrest
    · have := h.1 front ⟨rest, hfront.symm⟩
      rw [depth_cons, weight_open]
      omega

/-! ## Safe texts -/

theorem safeFrom_iff {level : Nat} {text : Text} :
    safeFrom level text = true ↔ BalancedFrom level text ∧ UncutFrom level text := by
  induction text generalizing level with
  | nil => simp [safeFrom, balancedFrom_nil_iff, uncutFrom_nil]
  | cons c text ih =>
    rw [balancedFrom_cons_iff, uncutFrom_cons_iff]
    by_cases ho : c = '{'
    · subst ho
      simp [safeFrom, ih]
    by_cases hc : c = '}'
    · subst hc
      cases level with
      | zero =>
        -- Closing at depth zero ends below zero, and nothing is balanced from there.
        have hnot : ¬ BalancedFrom (-1) text := fun h => by simpa using h.1 [] List.nil_prefix
        simp [safeFrom, hnot]
      | succ level =>
        have hlevel : ((level + 1 : Nat) : Int) + weight '}' = level := by
          rw [weight_close]
          omega
        have hpos : (0 : Int) ≤ (level : Int) + 1 := by omega
        rw [hlevel]
        simp [safeFrom, ih, hpos]
    · have hcomma : (c ≠ ',' ∨ 0 < level) ↔ ¬ (c = ',' ∧ (level : Int) = 0) := by
        by_cases h : c = ',' <;> simp [h, Nat.pos_iff_ne_zero]
      simp only [safeFrom, ho, hc, if_false, weight_of_ne ho hc, Bool.and_eq_true, ih,
        bne_iff_ne, Bool.or_eq_true, decide_eq_true_eq, Int.add_zero, hcomma]
      constructor
      · rintro ⟨hcut, hbalanced, huncut⟩
        exact ⟨⟨by omega, hbalanced⟩, hcut, huncut⟩
      · rintro ⟨⟨-, hbalanced⟩, hcut, huncut⟩
        exact ⟨hcut, hbalanced, huncut⟩

/-- The safe texts are those with balanced braces that are not cut. -/
theorem isSafe_iff {text : Text} : isSafe text = true ↔ Balanced text ∧ Uncut text := by
  rw [isSafe, safeFrom_iff, ← balancedFrom_zero_iff, ← uncutFrom_zero_iff]
  rfl

theorem isSafe_append {s t : Text} (hs : isSafe s = true) (ht : isSafe t = true) :
    isSafe (s ++ t) = true := by
  rw [isSafe_iff] at hs ht ⊢
  exact ⟨hs.1.append ht.1, hs.2.append hs.1.2 ht.2⟩

/-- Safe texts joined by commas become safe again between braces. -/
theorem isSafe_braced {texts : List Text} (h : ∀ text ∈ texts, isSafe text = true) :
    isSafe ('{' :: Text.joinWith [','] texts ++ ['}']) = true := by
  have hjoin : Balanced (Text.joinWith [','] texts) :=
    balanced_joinWith fun text htext => (isSafe_iff.1 (h text htext)).1
  exact isSafe_iff.2 ⟨hjoin.braced, hjoin.uncut_braced⟩

/-! ## Separate texts -/

/-- None of the texts is cut, and all but the last have as many opening braces as closing ones. -/
def Separate : List Text → Prop
  | [] => True
  | text :: rest => Uncut text ∧ (rest ≠ [] → depth text = 0) ∧ Separate rest

instance decidableSeparate : (texts : List Text) → Decidable (Separate texts)
  | [] => .isTrue trivial
  | text :: rest =>
      have := decidableSeparate rest
      inferInstanceAs (Decidable (Uncut text ∧ (rest ≠ [] → depth text = 0) ∧ Separate rest))

/-- Safe texts are separate. -/
theorem separate_of_isSafe {texts : List Text} (h : ∀ text ∈ texts, isSafe text = true) :
    Separate texts := by
  induction texts with
  | nil => trivial
  | cons text rest ih =>
    rw [List.forall_mem_cons] at h
    obtain ⟨hbalanced, huncut⟩ := isSafe_iff.1 h.1
    exact ⟨huncut, fun _ => hbalanced.2, ih h.2⟩

theorem segmentsFrom_of_uncutFrom {level : Int} {text : Text} (h : UncutFrom level text) :
    segmentsFrom level text = [text] := by
  induction text generalizing level with
  | nil => rfl
  | cons c text ih =>
    rw [uncutFrom_cons_iff] at h
    rw [segmentsFrom, if_neg h.1, ih h.2]

/-- A comma at depth zero cuts a text into what stands before it and what stands behind it, each cut
on its own. -/
theorem segmentsFrom_append_comma {level : Int} {s : Text} (hdepth : level + depth s = 0)
    (t : Text) : segmentsFrom level (s ++ ',' :: t) = segmentsFrom level s ++ segmentsFrom 0 t := by
  induction s generalizing level with
  | nil =>
    have hlevel : level = 0 := by simpa using hdepth
    simp [segmentsFrom, hlevel]
  | cons c s ih =>
    rw [depth_cons, ← Int.add_assoc] at hdepth
    rw [List.cons_append, segmentsFrom, segmentsFrom]
    by_cases hcut : c = ',' ∧ level = 0
    · have hrest : 0 + depth s = 0 := by simpa [hcut.1, hcut.2, weight] using hdepth
      rw [if_pos hcut, if_pos hcut, ih hrest, List.cons_append]
    · obtain ⟨first, rest, hfirst⟩ :=
        List.exists_cons_of_ne_nil (segmentsFrom_ne_nil (level + weight c) s)
      rw [if_neg hcut, if_neg hcut, ih hdepth, hfirst]
      rfl

theorem joinWith_cons {text : Text} {rest : List Text} (h : rest ≠ []) :
    Text.joinWith [','] (text :: rest) = text ++ ',' :: Text.joinWith [','] rest := by
  cases rest with
  | nil => contradiction
  | cons next rest => simp [Text.joinWith]

theorem segmentsFrom_joinWith {texts : List Text} (hne : texts ≠ []) (h : Separate texts) :
    segmentsFrom 0 (Text.joinWith [','] texts) = texts := by
  induction texts with
  | nil => contradiction
  | cons text rest ih =>
    obtain ⟨huncut, hdepth, hrest⟩ := h
    rw [← uncutFrom_zero_iff] at huncut
    by_cases hnil : rest = []
    · -- The last text may end at any depth, since no comma follows it.
      subst hnil
      exact segmentsFrom_of_uncutFrom huncut
    · have hzero : 0 + depth text = 0 := by rw [hdepth hnil, Int.add_zero]
      rw [joinWith_cons hnil, segmentsFrom_append_comma hzero, segmentsFrom_of_uncutFrom huncut,
        ih hnil hrest, List.singleton_append]

theorem joinWith_eq_nil_iff {texts : List Text} :
    Text.joinWith [','] texts = [] ↔ texts = [] ∨ texts = [[]] := by
  cases texts with
  | nil => simp [Text.joinWith]
  | cons text rest =>
    by_cases hnil : rest = []
    · subst hnil
      simp [Text.joinWith]
    · simp [joinWith_cons hnil, hnil]

/-- Separate texts joined by commas are cut into the same texts again. The list of one empty text is
the exception, since an empty interior has no segments. -/
theorem segments_joinWith {texts : List Text} (h : Separate texts) (hne : texts ≠ [[]]) :
    segments (Text.joinWith [','] texts) = texts := by
  by_cases hnil : texts = []
  · subst hnil
    rfl
  · have hjoin : Text.joinWith [','] texts ≠ [] := fun hj =>
      (joinWith_eq_nil_iff.1 hj).elim hnil hne
    rw [segments, if_neg (by simpa using hjoin), segmentsFrom_joinWith hnil h]

theorem exists_segmentsFrom_eq_cons (level : Int) (text : Text) :
    ∃ first rest, segmentsFrom level text = first :: rest ∧ UncutFrom level first ∧
      (rest ≠ [] → level + depth first = 0) ∧ Separate rest := by
  induction text generalizing level with
  | nil => exact ⟨[], [], rfl, uncutFrom_nil level, by simp, trivial⟩
  | cons c text ih =>
    by_cases hcut : c = ',' ∧ level = 0
    · -- A comma that cuts leaves an empty segment under way and starts again at depth zero.
      obtain ⟨first, rest, hseg, huncut, hdepth, hrest⟩ := ih 0
      refine ⟨[], first :: rest, ?_, uncutFrom_nil level, fun _ => by simp [hcut.2], ?_⟩
      · rw [segmentsFrom, if_pos hcut, hseg]
      · exact ⟨uncutFrom_zero_iff.1 huncut, fun hne => by simpa using hdepth hne, hrest⟩
    · obtain ⟨first, rest, hseg, huncut, hdepth, hrest⟩ := ih (level + weight c)
      refine ⟨c :: first, rest, ?_, uncutFrom_cons_iff.2 ⟨hcut, huncut⟩, fun hne => ?_, hrest⟩
      · rw [segmentsFrom, if_neg hcut, hseg]
      · rw [depth_cons, ← Int.add_assoc]
        exact hdepth hne

/-- Cutting goes over a comma between two texts if the first one ends at depth zero. -/
theorem segments_append_comma {s t : Text} (hs : s ≠ []) (ht : t ≠ []) (hdepth : depth s = 0) :
    segments (s ++ ',' :: t) = segments s ++ segments t := by
  have hjoined : s ++ ',' :: t ≠ [] := by simp
  simp only [segments, List.isEmpty_iff, hs, ht, hjoined, if_false]
  exact segmentsFrom_append_comma (by rw [hdepth, Int.add_zero]) t

/-- The segments of a text are separate. -/
theorem separate_segments (content : Text) : Separate (segments content) := by
  rw [segments]
  split
  · trivial
  · obtain ⟨first, rest, hseg, huncut, hdepth, hrest⟩ := exists_segmentsFrom_eq_cons 0 content
    rw [hseg]
    exact ⟨uncutFrom_zero_iff.1 huncut, fun hne => by simpa using hdepth hne, hrest⟩

/-- The segments of a text, joined by commas, are the text. -/
theorem joinWith_segments (content : Text) : Text.joinWith [','] (segments content) = content := by
  rw [segments]
  split
  · rename_i h
    rw [List.isEmpty_iff.1 h]
    rfl
  · exact joinWith_segmentsFrom 0 content

/-! ## The only way to cut a text -/

/-- How the segments of a text look, by counting braces: all but the last open as many as they
close, and no segment has a comma where as many are open as are closed. -/
structure Segmented (texts : List Text) : Prop where
  even : ∀ text ∈ texts.dropLast, text.count '{' = text.count '}'
  covered : ∀ text ∈ texts, ∀ front back, text = front ++ ',' :: back →
    front.count '{' ≠ front.count '}'

theorem segmented_cons_iff {text : Text} {rest : List Text} :
    Segmented (text :: rest) ↔ Uncut text ∧ (rest ≠ [] → depth text = 0) ∧ Segmented rest := by
  simp only [Uncut, ne_eq, depth_eq_zero_iff]
  constructor
  · rintro ⟨heven, hcovered⟩
    rw [List.forall_mem_cons] at hcovered
    -- Only a text with another one behind it has to be even.
    rcases rest with _ | ⟨next, rest⟩
    · exact ⟨hcovered.1, by simp, ⟨List.forall_mem_nil _, hcovered.2⟩⟩
    · rw [List.dropLast_cons_cons, List.forall_mem_cons] at heven
      exact ⟨hcovered.1, fun _ => heven.1, ⟨heven.2, hcovered.2⟩⟩
  · rintro ⟨hcovered, heven, hrest⟩
    refine ⟨?_, List.forall_mem_cons.2 ⟨hcovered, hrest.covered⟩⟩
    rcases rest with _ | ⟨next, rest⟩
    · exact List.forall_mem_nil _
    · rw [List.dropLast_cons_cons, List.forall_mem_cons]
      exact ⟨heven (List.cons_ne_nil next rest), hrest.even⟩

theorem separate_iff_segmented {texts : List Text} : Separate texts ↔ Segmented texts := by
  induction texts with
  | nil => exact iff_of_true trivial ⟨List.forall_mem_nil _, List.forall_mem_nil _⟩
  | cons text rest ih =>
    rw [Separate, segmented_cons_iff]
    exact and_congr_right fun _ => and_congr_right fun _ => ih

/-- **Cutting is the only way to undo joining.** The segments of a text that is not empty are the
one list that is segmented and gives the text when it is joined by commas, whatever its braces are
like. Every segmented list is the list of segments of its join, but for the two lists whose join is
empty. -/
theorem segments_eq_iff_joinWith :
    (∀ content texts, content ≠ [] →
      (segments content = texts ↔ Text.joinWith [','] texts = content ∧ Segmented texts)) ∧
    ∀ texts, Segmented texts → texts ≠ [] → texts ≠ [[]] →
      segments (Text.joinWith [','] texts) = texts := by
  constructor
  · intro content texts hcontent
    rw [← separate_iff_segmented]
    constructor
    · rintro rfl
      exact ⟨joinWith_segments content, separate_segments content⟩
    · rintro ⟨rfl, hseparate⟩
      have hne : texts ≠ [[]] := by
        rintro rfl
        exact hcontent rfl
      exact segments_joinWith hseparate hne
  · intro texts hsegmented _ hne
    exact segments_joinWith (separate_iff_segmented.2 hsegmented) hne

/-- Braces that close before they open, empty segments at both ends, and an open brace at the
end. -/
theorem segments_eq_iff_joinWith_stray :
    let content := ",a\x7d,\x7bb,,\x7b,".toList
    let texts := [[], "a\x7d,\x7bb".toList, [], "\x7b,".toList]
    content ≠ [] ∧ Segmented texts ∧ texts ≠ [] ∧ texts ≠ [[]] ∧ segments content = texts ∧
      (Text.joinWith [','] texts = content ∧ Segmented texts) ∧
        segments (Text.joinWith [','] texts) = texts := by
  intro content texts
  have hcontent : content ≠ [] := by decide
  have hsegments : segments content = texts := by decide
  have hne : texts ≠ [] := by decide
  have hne' : texts ≠ [[]] := by decide
  have hsegmented : Segmented texts := separate_iff_segmented.1 (by decide)
  exact ⟨hcontent, hsegmented, hne, hne', hsegments,
    (segments_eq_iff_joinWith.1 content texts hcontent).1 hsegments,
    segments_eq_iff_joinWith.2 texts hsegmented hne hne'⟩

end DocShape.Brace
