import DocShape.Parse
import DocShape.Proofs.Merging

/-!
# Merging told by occurrences

What merging comes to is told here by where the keys stand in the list of declarations, without its
steps. The merged keys are those listed, each once, in the order of their first occurrences
(`ListedOnce`), whichever declaration their values come from: under one policy it is the last one
for the key (`IsLast`), under the other the first one (`IsFirst`). The error policy changes nothing
and refuses the first key that stands in the list again.

Scope: lists of any length with values of any kind; for the properties of an object also the message
that is reported.
-/

set_option autoImplicit false

universe u

namespace DocShape

variable {α : Type u}

/-- The keys that are listed, each once, in the order of their first occurrences. -/
structure ListedOnce (keys listed : List Text) : Prop where
  nodup : keys.Nodup
  mem_iff : ∀ key, key ∈ keys ↔ key ∈ listed
  ordered : keys.Pairwise fun key key' => listed.idxOf key < listed.idxOf key'

/-- The declaration stands in the list, and none before it has its key. -/
def IsFirst (pairs : List (Text × α)) (pair : Text × α) : Prop :=
  ∃ front back, pairs = front ++ pair :: back ∧ pair.1 ∉ front.map Prod.fst

/-- The declaration stands in the list, and none behind it has its key. -/
def IsLast (pairs : List (Text × α)) (pair : Text × α) : Prop :=
  ∃ front back, pairs = front ++ pair :: back ∧ pair.1 ∉ back.map Prod.fst

theorem isFirst_reverse_iff {pairs : List (Text × α)} {pair : Text × α} :
    IsFirst pairs.reverse pair ↔ IsLast pairs pair := by
  constructor
  · rintro ⟨front, back, hpairs, hkey⟩
    refine ⟨back.reverse, front.reverse, ?_, by simpa using hkey⟩
    rw [← List.reverse_reverse pairs, hpairs]
    simp
  · rintro ⟨front, back, rfl, hkey⟩
    exact ⟨back.reverse, front.reverse, by simp, by simpa using hkey⟩

/-- What is looked up is the first declaration of the key. -/
theorem lookup_eq_some_iff_isFirst {pairs : List (Text × α)} {key : Text} {value : α} :
    pairs.lookup key = some value ↔ IsFirst pairs (key, value) := by
  rw [List.lookup_eq_some_iff]
  refine exists_congr fun front => exists_congr fun back => and_congr_right fun _ => ?_
  simp only [bne_iff_ne, List.mem_map, not_exists, not_and]
  exact forall_congr' fun pair => imp_congr_right fun _ => ne_comm

/-- Leaving out what has stood before lists every key once. -/
theorem listedOnce_eraseDups (listed : List Text) : ListedOnce listed.eraseDups listed := by
  have hordered : listed.eraseDups.Pairwise fun key key' =>
      listed.idxOf key < listed.idxOf key' := by
    induction listed with
    | nil => exact .nil
    | cons first listed ih =>
      rw [List.eraseDups_cons, eraseDups_filter, List.pairwise_cons]
      constructor
      · intro key hkey
        have hne : first ≠ key := by
          rintro rfl
          simp at hkey
        rw [List.idxOf_cons_self, List.idxOf_cons_ne _ hne]
        exact Nat.succ_pos _
      · -- Behind the first key all places move by one, if the key is another.
        have hothers : ∀ key ∈ listed.eraseDups.filter fun key => !key == first,
            (first :: listed).idxOf key = (listed.idxOf key).succ := by
          intro key hkey
          have hne : first ≠ key := by
            rintro rfl
            simp at hkey
          exact List.idxOf_cons_ne _ hne
        refine (ih.filter _).imp_of_mem ?_
        intro key key' hkey hkey' hlt
        rw [hothers key hkey, hothers key' hkey']
        exact Nat.succ_lt_succ hlt
  refine ⟨?_, fun key => List.mem_eraseDups, hordered⟩
  -- A key that stood there twice would stand before itself.
  refine hordered.imp ?_
  rintro key _ hlt rfl
  exact Nat.lt_irrefl _ hlt

/-- Every policy but the error one merges into the listed keys, each with the value that counts. -/
theorem exists_merge_listedOnce {policy : KeyPolicy} (hpolicy : policy ≠ .error)
    (pairs : List (Text × α)) : ∃ result, merge policy pairs = .ok result ∧
      ListedOnce (result.map Prod.fst) (pairs.map Prod.fst) ∧
      ∀ pair, pair ∈ result ↔ policy.chosen pairs pair.1 = some pair.2 := by
  obtain ⟨result, hresult⟩ := exists_merge hpolicy pairs
  refine ⟨result, hresult, ?_, fun pair => ?_⟩
  · rw [keys_of_merge hresult]
    exact listedOnce_eraseDups _
  · rw [← lookup_of_merge hresult]
    exact ⟨lookup_eq_some_of_mem (nodup_of_merge hresult), mem_of_lookup_eq_some⟩

/-- The error policy changes nothing. -/
theorem merge_error_eq_ok_iff {pairs result : List (Text × α)} :
    merge .error pairs = .ok result ↔ (pairs.map Prod.fst).Nodup ∧ result = pairs := by
  constructor
  · intro h
    obtain rfl : result = pairs := eq_append_of_mergeInto_error h
    exact ⟨nodup_of_merge h, rfl⟩
  · rintro ⟨hnodup, rfl⟩
    exact merge_of_nodup .error hnodup

/-- It refuses the first key that stands in the list again. -/
theorem merge_error_eq_error_iff {pairs : List (Text × α)} {key : Text} :
    merge .error pairs = .error key ↔ FirstRepeated (pairs.map Prod.fst) key :=
  ⟨fun h => (firstRepeated_of_merge h).2, merge_error_of_firstRepeated⟩

/-- The key that is refused is named by the one message of the failure. -/
theorem mergeEntries_error_eq_error_iff {entries : List (Text × Shape)} {failure : Failure} :
    mergeEntries .error entries = .error failure ↔
      ∃ key, FirstRepeated (entries.map Prod.fst) key ∧
        failure = .rejected [] (.repeatedKey key) := by
  simp only [← merge_error_eq_error_iff, mergeEntries]
  cases merge .error entries with
  | ok schema => simp
  | error key => simp [reject, eq_comm]

/-- **What merging is.** Under the last and the first declaration it always succeeds: the merged
keys are the listed ones, each once and in the order of their first occurrences, and each has the
value of its last or its first occurrence. The error policy succeeds exactly when no key is listed
twice, with the list itself, and refuses a key exactly when it is the first to stand in the list
again; of the properties of an object this is reported by one message with the key. -/
theorem merge_by_occurrences :
    (∀ pairs : List (Text × α),
      (∃ result, merge .last pairs = .ok result ∧
        ListedOnce (result.map Prod.fst) (pairs.map Prod.fst) ∧
        ∀ pair, pair ∈ result ↔ IsLast pairs pair) ∧
      (∃ result, merge .first pairs = .ok result ∧
        ListedOnce (result.map Prod.fst) (pairs.map Prod.fst) ∧
        ∀ pair, pair ∈ result ↔ IsFirst pairs pair) ∧
      (∀ result, merge .error pairs = .ok result ↔
        (pairs.map Prod.fst).Nodup ∧ result = pairs) ∧
      ∀ key, merge .error pairs = .error key ↔ FirstRepeated (pairs.map Prod.fst) key) ∧
    ∀ (entries : List (Text × Shape)) (failure : Failure),
      mergeEntries .error entries = .error failure ↔
        ∃ key, FirstRepeated (entries.map Prod.fst) key ∧
          failure = .rejected [] (.repeatedKey key) ∧
          failure.chain.toList = ["Duplicate property '".toList ++ key ++ "'".toList] := by
  constructor
  · intro pairs
    have hlast := exists_merge_listedOnce (show KeyPolicy.last ≠ .error by decide) pairs
    have hfirst := exists_merge_listedOnce (show KeyPolicy.first ≠ .error by decide) pairs
    simp only [KeyPolicy.chosen, lookup_eq_some_iff_isFirst, isFirst_reverse_iff] at hlast hfirst
    exact ⟨hlast, hfirst, fun _ => merge_error_eq_ok_iff, fun _ => merge_error_eq_error_iff⟩
  · intro entries failure
    rw [mergeEntries_error_eq_error_iff]
    refine exists_congr fun key => and_congr_right fun _ => ?_
    constructor
    · rintro rfl
      exact ⟨rfl, rfl⟩
    · exact And.left

/-- The last value of a key stands where the first one stood. -/
example : merge .last [(['a'], 1), (['b'], 2), (['a'], 3)] = .ok [(['a'], 3), (['b'], 2)] := rfl

end DocShape
