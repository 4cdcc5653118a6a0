import DocShape.Json.Basic
import DocShape.Proofs.Merging
import Mathlib.Algebra.Order.Ring.Int

/-!
# Whole numbers within the range of doubles

A whole number up to the greatest finite double is rounded to a finite double
(`Binary64.isFinite_ofInt`): only at the greatest exponent could rounding lead out of the range, and
there the quotient does not round beyond the greatest mantissa.

The whole numbers of a document are listed (`Json.wholeNumbers`), so that a condition on all of them
passes on to the values inside a container.
-/

set_option autoImplicit false

namespace DocShape

namespace Binary64

/-- The greatest finite double. -/
def greatest : Nat := (2 ^ mantissaBits - 1) * 2 ^ greatestExponent.toNat

/-- A quotient that is at most a whole number is not rounded beyond it. -/
theorem roundedQuotient_le {num den bound : Nat} (hden : 0 < den) (h : num ≤ bound * den) :
    roundedQuotient num den ≤ bound := by
  have hquotient : num / den ≤ bound := by
    rw [mul_comm] at h
    exact Nat.div_le_of_le_mul h
  have hnext : roundedQuotient num den ≤ num / den + 1 := by
    dsimp only [roundedQuotient]
    split_ifs <;> omega
  rcases hquotient.lt_or_eq with hlt | heq
  · exact hnext.trans hlt
  · -- nothing is left to be rounded up
    have hrest : num % den = 0 := by
      have hsplit := Nat.div_add_mod num den
      rw [heq, mul_comm] at hsplit
      omega
    simp [roundedQuotient, hrest, hden, heq]

theorem scaled_natCast (num den k : Nat) : scaled num den (k : Int) = (num, den * 2 ^ k) := rfl

theorem floorLog2_one {n : Nat} (hn : n ≠ 0) : floorLog2 n 1 = (n.log2 : Int) := by
  have hguess : ((n.log2 : Int) - ((Nat.log2 1 : Nat) : Int)) = (n.log2 : Int) := by
    have hone : Nat.log2 1 = 0 := by decide
    rw [hone]
    exact sub_zero _
  have hle : 1 * 2 ^ n.log2 ≤ n := by
    rw [one_mul]
    exact Nat.log2_self_le hn
  simp only [floorLog2, hguess, scaled_natCast]
  exact if_pos hle

/-- A fraction is rounded to a finite double if the exponent is not the greatest one or the mantissa
does not grow out of its bits. -/
theorem isFinite_ofRatio {negative : Bool} {num den : Nat} {exponent : Int}
    (hexponent : max (floorLog2 num den - (mantissaBits - 1)) leastExponent = exponent)
    (h : exponent < greatestExponent ∨ exponent = greatestExponent ∧
      roundedQuotient (scaled num den exponent).1 (scaled num den exponent).2 < 2 ^ mantissaBits) :
    (ofRatio negative num den).isFinite = true := by
  rw [ofRatio]
  split
  · rfl
  · simp only [hexponent]
    generalize roundedQuotient (scaled num den exponent).1 (scaled num den exponent).2 = mantissa
      at h ⊢
    -- a mantissa that grows by a bit moves the exponent up by one
    by_cases hmantissa : mantissa = Nat.pow 2 mantissaBits
    · have hlt : exponent < greatestExponent := by
        rcases h with h | ⟨-, h⟩
        · exact h
        · exact absurd hmantissa h.ne
      simp only [if_pos hmantissa]
      rw [if_neg (by omega)]
      rfl
    · have hle : exponent ≤ greatestExponent := by
        rcases h with h | ⟨h, -⟩
        · exact h.le
        · exact h.le
      simp only [if_neg hmantissa]
      rw [if_neg (by omega)]
      rfl

/-- A whole number within the range of doubles is rounded to a finite one. -/
theorem isFinite_ofInt {i : Int} (h : i.natAbs ≤ greatest) : (ofInt i).isFinite = true := by
  rw [ofInt]
  generalize i.natAbs = n at h
  by_cases hzero : n = 0
  · rw [ofRatio, if_pos hzero]
    rfl
  have hbits : n.log2 < 1024 := by
    rw [Nat.log2_lt hzero]
    exact h.trans_lt (by decide +kernel)
  apply isFinite_ofRatio rfl
  rw [floorLog2_one hzero]
  -- only the numbers of the greatest length can be rounded out of range
  by_cases hlast : n.log2 = 1023
  · refine .inr ⟨by rw [hlast]; rfl, ?_⟩
    have hexponent : max ((n.log2 : Int) - (mantissaBits - 1)) leastExponent =
        (greatestExponent.toNat : Int) := by
      rw [hlast]
      rfl
    rw [greatest] at h
    rw [hexponent, scaled_natCast, one_mul]
    have hpos := Nat.two_pow_pos greatestExponent.toNat
    generalize 2 ^ greatestExponent.toNat = den at h hpos ⊢
    have hle := roundedQuotient_le hpos h
    exact hle.trans_lt (Nat.sub_lt (Nat.two_pow_pos mantissaBits) one_pos)
  · left
    rw [max_lt_iff]
    constructor
    · simp only [mantissaBits, greatestExponent]
      omega
    · decide

theorem exists_finite {x : Binary64} (h : x.isFinite = true) :
    ∃ negative mantissa exponent, x = .finite negative mantissa exponent := by
  cases x with
  | finite negative mantissa exponent => exact ⟨negative, mantissa, exponent, rfl⟩
  | infinite negative => cases h
  | notANumber => cases h

end Binary64

mutual

/-- The whole numbers of a document. -/
def Json.wholeNumbers : Json → List Int
  | .int i => [i]
  | .array values => Json.wholeNumbersOfItems values
  | .object entries => Json.wholeNumbersOfMembers entries
  | _ => []

/-- The whole numbers of the items of an array. -/
def Json.wholeNumbersOfItems : List Json → List Int
  | [] => []
  | value :: values => value.wholeNumbers ++ Json.wholeNumbersOfItems values

/-- The whole numbers of the members of an object. -/
def Json.wholeNumbersOfMembers : List (Text × Json) → List Int
  | [] => []
  | (_, value) :: entries => value.wholeNumbers ++ Json.wholeNumbersOfMembers entries

end

/-- Every whole number of a document lies within the range of finite doubles. -/
def Json.InRange (document : Json) : Prop :=
  ∀ i ∈ document.wholeNumbers, i.natAbs ≤ Binary64.greatest

instance (document : Json) : Decidable document.InRange :=
  inferInstanceAs (Decidable (∀ i ∈ document.wholeNumbers, i.natAbs ≤ Binary64.greatest))

theorem Json.wholeNumbers_array (values : List Json) :
    (Json.array values).wholeNumbers = values.flatMap Json.wholeNumbers := by
  rw [wholeNumbers]
  induction values with
  | nil => rfl
  | cons value values ih => rw [wholeNumbersOfItems, ih, List.flatMap_cons]

theorem Json.wholeNumbers_object (entries : List (Text × Json)) :
    (Json.object entries).wholeNumbers = entries.flatMap fun entry => entry.2.wholeNumbers := by
  rw [wholeNumbers]
  induction entries with
  | nil => rfl
  | cons entry entries ih => rw [wholeNumbersOfMembers, ih, List.flatMap_cons]

theorem Json.InRange.item {values : List Json} (h : (Json.array values).InRange) {value : Json}
    (hvalue : value ∈ values) : value.InRange := by
  intro i hi
  apply h
  rw [wholeNumbers_array]
  exact List.mem_flatMap.2 ⟨value, hvalue, hi⟩

theorem Json.InRange.member {entries : List (Text × Json)} (h : (Json.object entries).InRange)
    {key : Text} {value : Json} (hvalue : Json.member? entries key = some value) :
    value.InRange := by
  intro i hi
  apply h
  rw [wholeNumbers_object]
  exact List.mem_flatMap.2 ⟨(key, value), mem_of_lookup_eq_some hvalue, hi⟩

end DocShape
