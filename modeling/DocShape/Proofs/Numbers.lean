import DocShape.Shape.Pattern
import DocShape.Proofs.Matching
import Mathlib.Tactic.IntervalCases

/-!
# Written numbers are JSON numbers

Whole numbers and finite doubles are written in the number syntax of JSON, which is what
`Regex.numberValue` matches: an optional minus sign, a whole part without superfluous zeros, a
fraction and an exponent (`matches_ofInt`, `matches_write`).

For doubles this rests on one fact about the shortest digits (`shortest_ne_zero_or`): they do not
form a zero, unless the decimal exponent is negative. So a whole part that is written out does not
begin with a zero that does not belong there. The fact holds for any mantissa but zero, normalised
or not.
-/

set_option autoImplicit false

namespace DocShape

/-! ## Digits -/

/-- The digits of a whole number: no zero stands in front of others. -/
def IsWhole (s : Text) : Prop :=
  s = ['0'] ∨
    ∃ c rest, s = c :: rest ∧ (CharClass.range '1' '9').has c = true ∧
      ∀ d ∈ rest, Text.isDigit d = true

theorem isDigit_of_mem_ofNat {n : Nat} {c : Char} (h : c ∈ Text.ofNat n) :
    Text.isDigit c = true := by
  have hdigit := Nat.isDigit_of_mem_toDigits (by decide) (by decide) h
  rw [Char.isDigit, Bool.and_eq_true, decide_eq_true_eq, decide_eq_true_eq] at hdigit
  rw [Text.isDigit, Bool.and_eq_true, decide_eq_true_eq, decide_eq_true_eq]
  exact hdigit

theorem ofNat_ne_nil (n : Nat) : Text.ofNat n ≠ [] := Nat.toDigits_ne_nil

/-- Digits but for the first, which is not a zero, when the number is not zero. -/
theorem ofNat_eq_cons {n : Nat} (hn : n ≠ 0) :
    ∃ c rest, Text.ofNat n = c :: rest ∧ (CharClass.range '1' '9').has c = true := by
  induction n using Nat.strongRecOn with
  | ind n ih =>
    rw [Text.ofNat, Nat.toDigits_eq_if (by decide)]
    by_cases hlt : n < 10
    · rw [if_pos hlt]
      refine ⟨n.digitChar, [], rfl, ?_⟩
      interval_cases n
      · exact absurd rfl hn
      all_goals rfl
    · rw [if_neg hlt]
      obtain ⟨c, rest, heq, hc⟩ := ih (n / 10) (by omega) (by omega)
      rw [Text.ofNat] at heq
      exact ⟨c, rest ++ [(n % 10).digitChar], by rw [heq, List.cons_append], hc⟩

theorem isWhole_ofNat (n : Nat) : IsWhole (Text.ofNat n) := by
  by_cases hn : n = 0
  · subst hn
    exact .inl rfl
  · obtain ⟨c, rest, heq, hc⟩ := ofNat_eq_cons hn
    refine .inr ⟨c, rest, heq, hc, fun d hd => ?_⟩
    exact isDigit_of_mem_ofNat (heq ▸ List.mem_cons_of_mem c hd)

/-- A digit is zero or one of the others. -/
theorem isWhole_singleton {c : Char} (hc : Text.isDigit c = true) : IsWhole [c] := by
  by_cases hzero : c = '0'
  · rw [hzero]
    exact .inl rfl
  · refine .inr ⟨c, [], rfl, ?_, fun d hd => absurd hd List.not_mem_nil⟩
    have hne : c.toNat ≠ '0'.toNat := fun h => hzero (Char.toNat_inj.1 h)
    rw [Text.isDigit, Bool.and_eq_true, decide_eq_true_eq, decide_eq_true_eq] at hc
    rw [CharClass.has, Bool.and_eq_true, decide_eq_true_eq, decide_eq_true_eq]
    have hone : '1'.toNat = '0'.toNat + 1 := rfl
    omega

/-! ## The syntax of numbers -/

/-- A fraction: nothing, or a point and digits. -/
def IsFraction (s : Text) : Prop :=
  s = [] ∨ ∃ digits, digits ≠ [] ∧ (∀ c ∈ digits, Text.isDigit c = true) ∧ s = '.' :: digits

/-- An exponent as it is written: nothing, or its letter, a sign and digits. -/
def IsExponent (s : Text) : Prop :=
  s = [] ∨ ∃ sign digits, (sign = '+' ∨ sign = '-') ∧ digits ≠ [] ∧
    (∀ c ∈ digits, Text.isDigit c = true) ∧ s = 'e' :: sign :: digits

theorem IsFraction.matches {s : Text} (h : IsFraction s) :
    Regex.Matches (.optional (.group (.seq (.escaped '.') (.plus Regex.digit)))) s := by
  rcases h with rfl | ⟨digits, hne, hdigits, rfl⟩
  · exact .optionalNone
  · have hplus : Regex.Matches (.plus Regex.digit) digits :=
      Regex.matches_plus_oneOf_iff.2 ⟨hne, hdigits⟩
    exact .optionalSome (.group (.seq (.escaped '.') hplus))

theorem IsExponent.matches {s : Text} (h : IsExponent s) :
    Regex.Matches (.optional (.group (Regex.sequence
      [.oneOf (.either 'e' 'E'), .optional (.oneOf (.either '+' '-')), .plus Regex.digit]))) s := by
  rcases h with rfl | ⟨sign, digits, hsign, hne, hdigits, rfl⟩
  · exact .optionalNone
  · have hplus : Regex.Matches (.plus Regex.digit) digits :=
      Regex.matches_plus_oneOf_iff.2 ⟨hne, hdigits⟩
    have hletter : Regex.Matches (.oneOf (.either 'e' 'E')) ['e'] := .oneOf (by decide)
    have hmark : Regex.Matches (.oneOf (.either '+' '-')) [sign] := by
      rcases hsign with rfl | rfl
      · exact .oneOf (by decide)
      · exact .oneOf (by decide)
    exact .optionalSome (.group (.seq hletter (.seq (.optionalSome hmark) hplus)))

theorem IsWhole.matches {s : Text} (h : IsWhole s) :
    Regex.Matches
      (.group (.alt (.literal '0') (.seq (.oneOf (.range '1' '9')) (.star Regex.digit)))) s := by
  rcases h with rfl | ⟨c, rest, rfl, hc, hrest⟩
  · exact .group (.altFirst (.literal '0'))
  · have hstar : Regex.Matches (.star Regex.digit) rest := Regex.matches_star_oneOf_iff.2 hrest
    exact .group (.altSecond (.seq (.oneOf hc) hstar))

/-- The parts of a number put together match. -/
theorem matches_numberValue (negative : Bool) {whole fraction exponent : Text}
    (hwhole : IsWhole whole) (hfraction : IsFraction fraction) (hexponent : IsExponent exponent) :
    Regex.numberValue.Matches
      (Binary64.signed negative (whole ++ (fraction ++ exponent))) := by
  have hparts := Regex.Matches.seq hwhole.matches (.seq hfraction.matches hexponent.matches)
  apply Regex.matches_sequence_cons_iff.2
  cases negative with
  | true => exact ⟨['-'], _, .optionalSome (.literal '-'), hparts, rfl⟩
  | false => exact ⟨[], _, .optionalNone, hparts, rfl⟩

/-- Whole numbers are written as numbers. -/
theorem matches_ofInt (i : Int) : Regex.numberValue.Matches (Text.ofInt i) := by
  rcases i with n | n
  · have h := matches_numberValue false (isWhole_ofNat n) (.inl rfl) (.inl rfl)
    rwa [List.append_nil, List.append_nil] at h
  · have h := matches_numberValue true (isWhole_ofNat (n + 1)) (.inl rfl) (.inl rfl)
    rwa [List.append_nil, List.append_nil] at h

/-! ## The shortest digits -/

namespace Binary64

theorem interval_low_pos {mantissa : Nat} (hmantissa : mantissa ≠ 0) (exponent : Int) :
    0 < (interval mantissa exponent).low := by
  have hbelow (b : Bool) : 0 < 4 * mantissa - (if b = true then 1 else 2) := by
    split <;> omega
  simp only [interval]
  cases exponent - 2 with
  | ofNat k => exact Nat.mul_pos (hbelow _) (Nat.pow_pos (by decide))
  | negSucc k => exact Nat.mul_pos (hbelow _) Nat.one_pos

theorem interval_den_pos (mantissa : Nat) (exponent : Int) :
    0 < (interval mantissa exponent).den := by
  simp only [interval]
  cases exponent - 2 with
  | ofNat k => exact Nat.one_pos
  | negSucc k => exact Nat.pow_pos (by decide)

/-- Of the two neighbours on a grid the one below is chosen, the one above, or the even one. None of
them is zero if the one below is not zero whenever it qualifies. -/
theorem neighbour_ne_zero {below above : Bool} {first second : Prop} [Decidable first]
    [Decidable second] {lower n : Nat}
    (h : (match below, above with
      | true, true =>
          if first then some lower
          else if second then some (lower + 1)
          else some (lower + lower % 2)
      | true, false => some lower
      | false, true => some (lower + 1)
      | false, false => none) = some n)
    (hlower : below = true → lower ≠ 0) : n ≠ 0 := by
  cases below <;> cases above
  · cases h
  · exact Option.some.inj h ▸ Nat.succ_ne_zero lower
  · exact Option.some.inj h ▸ hlower rfl
  · have hne := hlower rfl
    simp only at h
    split at h
    · exact Option.some.inj h ▸ hne
    · split at h
      · exact Option.some.inj h ▸ Nat.succ_ne_zero lower
      · exact Option.some.inj h ▸ Nat.ne_of_gt (Nat.add_pos_left (Nat.pos_of_ne_zero hne) _)

/-- No grid finds zero in an interval of positive numbers. -/
theorem onGrid?_ne_zero {i : Interval} (hlow : 0 < i.low) {unit : Int} {n : Nat}
    (h : onGrid? i unit = some n) : n ≠ 0 := by
  -- zero is below the lower end, so it is no neighbour that qualifies
  have hinside (step scale : Nat) (hscale : 0 < scale) (m : Nat)
      (hm : (if i.closed = true then
          decide (i.low * scale ≤ m * step) && decide (m * step ≤ i.high * scale)
        else decide (i.low * scale < m * step) && decide (m * step < i.high * scale)) = true) :
      m ≠ 0 := by
    rintro rfl
    have hpos : 0 < i.low * scale := Nat.mul_pos hlow hscale
    split at hm <;> simp only [Nat.zero_mul, Bool.and_eq_true, decide_eq_true_eq] at hm <;> omega
  cases unit with
  | ofNat k => exact neighbour_ne_zero h (hinside _ _ Nat.one_pos _)
  | negSucc k =>
    have hscale : 0 < Nat.pow 10 (k + 1) := Nat.pow_pos (by decide)
    exact neighbour_ne_zero h (hinside _ _ hscale _)

/-- A search that ends with zero has gone through all grids without finding one. -/
theorem searchGrids_ne_zero_or {i : Interval} (hlow : 0 < i.low) (point : Int)
    (fuel digits : Nat) :
    (searchGrids i point fuel digits).1 ≠ 0 ∨
      i.mid / i.den = 0 ∧
        (searchGrids i point fuel digits).2 = point - ((digits + fuel : Nat) : Int) := by
  induction fuel generalizing digits with
  | zero =>
    rw [searchGrids]
    by_cases hzero : i.mid / i.den = 0
    · exact .inr ⟨hzero, rfl⟩
    · exact .inl hzero
  | succ fuel ih =>
    rw [searchGrids]
    cases hgrid : onGrid? i (point - digits) with
    | some n => exact .inl (onGrid?_ne_zero hlow hgrid)
    | none =>
      rcases ih (digits + 1) with hne | ⟨hzero, hunit⟩
      · exact .inl hne
      · refine .inr ⟨hzero, ?_⟩
        rw [hunit, Nat.add_right_comm, Nat.add_assoc]

/-- Trailing zeros are taken off other numbers than zero only, and never all digits. -/
theorem stripZeros_fst_ne_zero {fuel n : Nat} (hn : n ≠ 0) : (stripZeros fuel n).1 ≠ 0 := by
  induction fuel generalizing n with
  | zero => exact hn
  | succ fuel ih =>
    rw [stripZeros]
    split
    · rename_i hzero
      rw [Bool.and_eq_true, decide_eq_true_eq] at hzero
      exact ih (by omega)
    · exact hn

theorem stripZeros_zero (fuel : Nat) : stripZeros fuel 0 = (0, 0) := by
  cases fuel <;> rfl

/-- The shortest digits of a double that is not zero do not form a zero, unless the double is
smaller than the unit of the last digit. -/
theorem shortest_ne_zero_or {mantissa : Nat} (hmantissa : mantissa ≠ 0) (exponent : Int) :
    (shortest mantissa exponent).1 ≠ 0 ∨
      (shortest mantissa exponent).1 = 0 ∧ (shortest mantissa exponent).2 < 0 := by
  simp only [shortest]
  have hlow := interval_low_pos hmantissa exponent
  have hden := interval_den_pos mantissa exponent
  generalize interval mantissa exponent = i at hlow hden ⊢
  have hsearch := searchGrids_ne_zero_or hlow (pointOf i.mid i.den) 17 1
  generalize searchGrids i (pointOf i.mid i.den) 17 1 = found at hsearch ⊢
  by_cases hzero : found.1 = 0
  · right
    -- no grid has a member, so the number is below one and the unit lies far behind its point
    obtain ⟨hquotient, hunit⟩ := hsearch.resolve_left (absurd hzero)
    have hlt : i.mid < i.den := (Nat.div_eq_zero_iff.1 hquotient).resolve_left (by omega)
    have hpoint : pointOf i.mid i.den = -(leadingZeros 400 i.mid i.den : Int) := by
      rw [pointOf, if_neg (by omega)]
    rw [hzero, stripZeros_zero]
    refine ⟨rfl, ?_⟩
    simp only
    omega
  · exact .inl (stripZeros_fst_ne_zero hzero)

end Binary64

/-! ## Doubles -/

namespace Binary64

/-- Digits with the point after the first one are a number. -/
theorem withExponent_parts (width : Nat) {digits : Text} (hne : digits ≠ [])
    (hdigits : ∀ c ∈ digits, Text.isDigit c = true) (e : Int) :
    ∃ whole fraction exponent, IsWhole whole ∧ IsFraction fraction ∧ IsExponent exponent ∧
      withExponent width digits e = whole ++ (fraction ++ exponent) := by
  obtain ⟨c, rest, rfl⟩ := List.exists_cons_of_ne_nil hne
  rw [List.forall_mem_cons] at hdigits
  refine ⟨[c], if rest.isEmpty then [] else '.' :: rest, _, isWhole_singleton hdigits.1, ?_, ?_,
    by rw [withExponent]; exact List.append_assoc _ _ _⟩
  · by_cases hrest : rest.isEmpty = true
    · rw [if_pos hrest]
      exact .inl rfl
    · rw [if_neg hrest]
      exact .inr ⟨rest, mt List.isEmpty_iff.2 hrest, hdigits.2, rfl⟩
  · refine .inr ⟨_, _, ?_, ?_, ?_, rfl⟩
    · split
      · exact .inr rfl
      · exact .inl rfl
    · exact List.append_ne_nil_of_right_ne_nil _ (ofNat_ne_nil _)
    · intro d hd
      rcases List.mem_append.1 hd with hzeros | hsize
      · rw [List.eq_of_mem_replicate hzeros]
        rfl
      · exact isDigit_of_mem_ofNat hsize

/-- Digits with the point where the exponent puts it are a number, if a whole part does not begin
with a zero. -/
theorem positional_parts {n : Nat} {e : Int} (h : n ≠ 0 ∨ e < 0) :
    ∃ whole fraction, IsWhole whole ∧ IsFraction fraction ∧
      positional (Text.ofNat n) e = whole ++ fraction := by
  cases e with
  | ofNat k =>
    have hn : n ≠ 0 := h.resolve_right (Int.not_lt.2 (Int.natCast_nonneg k))
    obtain ⟨c, rest, heq, hc⟩ := ofNat_eq_cons hn
    have hrest : ∀ d ∈ rest, Text.isDigit d = true := fun d hd =>
      isDigit_of_mem_ofNat (heq ▸ List.mem_cons_of_mem c hd)
    rw [heq]
    -- zeros fill the whole part up where the digits do not suffice
    refine ⟨_, _, .inr ⟨c, rest.take k ++ List.replicate _ '0', rfl, hc, ?_⟩, ?_, rfl⟩
    · intro d hd
      rcases List.mem_append.1 hd with htake | hzeros
      · exact hrest d (List.mem_of_mem_take htake)
      · rw [List.eq_of_mem_replicate hzeros]
        rfl
    · refine .inr ⟨_, ?_, ?_, rfl⟩
      · split
        · decide
        · exact mt List.isEmpty_iff.2 ‹_›
      · intro d hd
        split at hd
        · rw [List.mem_singleton.1 hd]
          rfl
        · exact hrest d (List.mem_of_mem_drop hd)
  | negSucc k =>
    refine ⟨['0'], _, .inl rfl, .inr ⟨List.replicate k '0' ++ Text.ofNat n, ?_, ?_, rfl⟩, rfl⟩
    · exact List.append_ne_nil_of_right_ne_nil _ (ofNat_ne_nil n)
    · intro d hd
      rcases List.mem_append.1 hd with hzeros | hdigits
      · rw [List.eq_of_mem_replicate hzeros]
        rfl
      · exact isDigit_of_mem_ofNat hdigits

end Binary64

/-- Finite doubles are written as numbers. -/
theorem matches_write {x : Binary64} (hfinite : x.isFinite = true) :
    Regex.numberValue.Matches (x.write Binary64.jsonFormat) := by
  rcases x with ⟨negative, mantissa, exponent⟩ | negative | _
  · rcases mantissa with _ | mantissa
    · have hfraction : IsFraction ['.', '0'] := .inr
        ⟨['0'], List.cons_ne_nil _ _, List.forall_mem_singleton.2 rfl, rfl⟩
      exact matches_numberValue negative (.inl rfl) hfraction (.inl rfl)
    · have hne : mantissa + 1 ≠ 0 := Nat.succ_ne_zero mantissa
      have hshortest := Binary64.shortest_ne_zero_or hne exponent
      rcases hdecimal : Binary64.shortest (mantissa + 1) exponent with ⟨n, unit⟩
      rw [hdecimal] at hshortest
      simp only [Binary64.write, Binary64.scientific, hdecimal]
      split
      · -- without an exponent, and a zero has only one digit to put behind the point
        have hsize : n ≠ 0 ∨ unit + ((Text.ofNat n).length : Int) - 1 < 0 := by
          rcases hshortest with hne | ⟨hzero, hunit⟩
          · exact .inl hne
          · right
            simp only at hzero hunit
            rw [hzero]
            have hlength : (Text.ofNat 0).length = 1 := rfl
            omega
        obtain ⟨whole, fraction, hwhole, hfraction, heq⟩ := Binary64.positional_parts hsize
        have hmatch := matches_numberValue negative hwhole hfraction (.inl rfl)
        rwa [List.append_nil, ← heq] at hmatch
      · obtain ⟨whole, fraction, last, hwhole, hfraction, hlast, heq⟩ :=
          Binary64.withExponent_parts Binary64.jsonFormat.exponentWidth (ofNat_ne_nil n)
            (fun _ => isDigit_of_mem_ofNat) (unit + ((Text.ofNat n).length : Int) - 1)
        rw [heq]
        exact matches_numberValue negative hwhole hfraction hlast
  · cases hfinite
  · cases hfinite

end DocShape
