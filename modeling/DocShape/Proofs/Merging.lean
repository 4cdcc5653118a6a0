import DocShape.Merge
import Mathlib.Data.List.Induction
import Mathlib.Data.List.Nodup
import Mathlib.Data.List.Perm.Basic

/-!
# What merging keeps

Merging goes through the declarations one after the other. One step is described once
(`mergeInto_cons_eq_ok_iff`): the key is new and goes to the end, or it is known and the policy
leaves it as it is or puts the new value in its place. The merged entries then have distinct keys
and are all among the declarations (`nodup_of_merge`, `mem_of_merge`), declarations with distinct
keys are merged into themselves (`merge_of_nodup`), and only the error policy fails
(`exists_merge`).

What merging comes to can be said without its steps: the keys in the order of first declaration,
each with the value that counts under the policy (`settled`, `merge_eq_ok_iff`). A merge that fails
names the first key that is repeated (`firstRepeated_of_merge`).

Declarations may be merged in two parts. The keys of the first part come first, and for a key in
both parts the policy says which part has its value (`keys_of_merge_append`); parts without a key in
common are merged one by one (`merge_append_of_disjoint`).
-/

set_option autoImplicit false

universe u

namespace DocShape

variable {α : Type u}

theorem lookup_isSome_iff_mem {key : Text} {entries : List (Text × α)} :
    (entries.lookup key).isSome ↔ key ∈ entries.map Prod.fst := by
  rw [List.lookup_isSome_iff, List.mem_map]
  constructor
  · rintro ⟨entry, hmem, hkey⟩
    exact ⟨entry, hmem, (beq_iff_eq.1 hkey).symm⟩
  · rintro ⟨entry, hmem, rfl⟩
    exact ⟨entry, hmem, beq_self_eq_true entry.1⟩

/-! ## Replacing a value -/

/-- A value is replaced where its key stands. -/
theorem map_fst_upsert {key : Text} {value : α} {entries : List (Text × α)}
    (h : key ∈ entries.map Prod.fst) :
    (upsert key value entries).map Prod.fst = entries.map Prod.fst := by
  induction entries with
  | nil => simp at h
  | cons entry entries ih =>
    rw [upsert]
    split
    · rename_i hkey
      simp [hkey]
    · rename_i hkey
      rw [List.map_cons, List.mem_cons] at h
      have hrest := h.resolve_left (Ne.symm hkey)
      simp [ih hrest]

theorem mem_of_mem_upsert {key : Text} {value : α} {entries : List (Text × α)} {entry : Text × α}
    (h : entry ∈ upsert key value entries) : entry = (key, value) ∨ entry ∈ entries := by
  induction entries with
  | nil =>
    rw [upsert, List.mem_singleton] at h
    exact Or.inl h
  | cons first entries ih =>
    rw [upsert] at h
    split at h
    · rcases List.mem_cons.1 h with h | h
      · exact Or.inl h
      · exact Or.inr (List.mem_cons_of_mem _ h)
    · rcases List.mem_cons.1 h with h | h
      · exact Or.inr (List.mem_cons.2 (Or.inl h))
      · rcases ih h with h | h
        · exact Or.inl h
        · exact Or.inr (List.mem_cons_of_mem _ h)

/-- A new key is put at the end. -/
theorem upsert_of_not_mem {key : Text} (value : α) {entries : List (Text × α)}
    (h : key ∉ entries.map Prod.fst) : upsert key value entries = entries ++ [(key, value)] := by
  induction entries with
  | nil => rfl
  | cons entry entries ih =>
    rw [List.map_cons, List.mem_cons, not_or] at h
    rw [upsert, if_neg (Ne.symm h.1), ih h.2, List.cons_append]

/-! ## Merging -/

theorem mergeInto_cons (policy : KeyPolicy) (merged pairs : List (Text × α)) (key : Text)
    (value : α) :
    mergeInto policy merged ((key, value) :: pairs) =
      if (merged.lookup key).isSome then
        match policy with
        | .error => .error key
        | .first => mergeInto policy merged pairs
        | .last => mergeInto policy (upsert key value merged) pairs
      else mergeInto policy (merged ++ [(key, value)]) pairs := by
  cases policy <;> rfl

/-- What one step of a merge that succeeds can be. -/
theorem mergeInto_cons_eq_ok_iff {policy : KeyPolicy} {merged pairs result : List (Text × α)}
    {key : Text} {value : α} :
    mergeInto policy merged ((key, value) :: pairs) = .ok result ↔
      (key ∉ merged.map Prod.fst ∧
          mergeInto policy (merged ++ [(key, value)]) pairs = .ok result) ∨
        (key ∈ merged.map Prod.fst ∧ policy = .first ∧ mergeInto policy merged pairs = .ok result) ∨
        (key ∈ merged.map Prod.fst ∧ policy = .last ∧
          mergeInto policy (upsert key value merged) pairs = .ok result) := by
  rw [mergeInto_cons]
  by_cases hkey : key ∈ merged.map Prod.fst
  · rw [if_pos (lookup_isSome_iff_mem.2 hkey)]
    cases policy <;> simp [hkey]
  · rw [if_neg (mt lookup_isSome_iff_mem.1 hkey)]
    simp [hkey]

/-- A new key may be put behind distinct ones. -/
theorem nodup_concat {merged : List (Text × α)} {key : Text} (value : α)
    (hkey : key ∉ merged.map Prod.fst) (hmerged : (merged.map Prod.fst).Nodup) :
    ((merged ++ [(key, value)]).map Prod.fst).Nodup := by
  rw [List.map_append, List.map_singleton, ← List.concat_eq_append, List.nodup_concat]
  exact ⟨hkey, hmerged⟩

theorem nodup_of_mergeInto {policy : KeyPolicy} {merged pairs result : List (Text × α)}
    (hmerged : (merged.map Prod.fst).Nodup) (h : mergeInto policy merged pairs = .ok result) :
    (result.map Prod.fst).Nodup := by
  induction pairs generalizing merged with
  | nil =>
    obtain rfl : merged = result := by simpa [mergeInto] using h
    exact hmerged
  | cons pair pairs ih =>
    rcases mergeInto_cons_eq_ok_iff.1 h with ⟨hkey, h⟩ | ⟨-, -, h⟩ | ⟨hkey, -, h⟩
    · exact ih (nodup_concat _ hkey hmerged) h
    · exact ih hmerged h
    · exact ih (by rwa [map_fst_upsert hkey]) h

theorem mem_of_mergeInto {policy : KeyPolicy} {merged pairs result : List (Text × α)}
    {entry : Text × α} (h : mergeInto policy merged pairs = .ok result) (hentry : entry ∈ result) :
    entry ∈ merged ∨ entry ∈ pairs := by
  induction pairs generalizing merged with
  | nil =>
    obtain rfl : merged = result := by simpa [mergeInto] using h
    exact Or.inl hentry
  | cons pair pairs ih =>
    rw [List.mem_cons]
    rcases mergeInto_cons_eq_ok_iff.1 h with ⟨-, h⟩ | ⟨-, -, h⟩ | ⟨-, -, h⟩
    · rcases ih h with hmem | hmem
      · rcases List.mem_append.1 hmem with hmem | hmem
        · exact Or.inl hmem
        · exact Or.inr (Or.inl (List.mem_singleton.1 hmem))
      · exact Or.inr (Or.inr hmem)
    · exact (ih h).imp_right Or.inr
    · rcases ih h with hmem | hmem
      · exact (mem_of_mem_upsert hmem).elim (fun hpair => Or.inr (Or.inl hpair)) Or.inl
      · exact Or.inr (Or.inr hmem)

/-- Merged entries have distinct keys. -/
theorem nodup_of_merge {policy : KeyPolicy} {pairs result : List (Text × α)}
    (h : merge policy pairs = .ok result) : (result.map Prod.fst).Nodup :=
  nodup_of_mergeInto (by simp) h

/-- Merged entries have been declared. -/
theorem mem_of_merge {policy : KeyPolicy} {pairs result : List (Text × α)} {entry : Text × α}
    (h : merge policy pairs = .ok result) (hentry : entry ∈ result) : entry ∈ pairs :=
  (mem_of_mergeInto h hentry).resolve_left List.not_mem_nil

theorem mergeInto_of_nodup (policy : KeyPolicy) {merged pairs : List (Text × α)}
    (h : ((merged ++ pairs).map Prod.fst).Nodup) :
    mergeInto policy merged pairs = .ok (merged ++ pairs) := by
  induction pairs generalizing merged with
  | nil => simp [mergeInto]
  | cons pair pairs ih =>
    -- The first declaration moves to the entries merged before, where its key is new.
    have hsplit : merged ++ pair :: pairs = merged ++ [pair] ++ pairs := by simp
    have hkey : pair.1 ∉ merged.map Prod.fst := by
      rw [List.map_append, List.map_cons, List.nodup_append] at h
      intro hmem
      exact h.2.2 _ hmem _ List.mem_cons_self rfl
    rw [hsplit] at h ⊢
    exact mergeInto_cons_eq_ok_iff.2 (Or.inl ⟨hkey, ih h⟩)

/-- Declarations with distinct keys are merged into themselves. -/
theorem merge_of_nodup (policy : KeyPolicy) {pairs : List (Text × α)}
    (h : (pairs.map Prod.fst).Nodup) : merge policy pairs = .ok pairs :=
  mergeInto_of_nodup policy h

theorem mergeInto_last (merged pairs : List (Text × α)) :
    mergeInto .last merged pairs =
      .ok (pairs.foldl (fun merged (key, value) => upsert key value merged) merged) := by
  induction pairs generalizing merged with
  | nil => rfl
  | cons pair pairs ih =>
    obtain ⟨key, value⟩ := pair
    rw [mergeInto_cons, List.foldl_cons]
    by_cases hkey : key ∈ merged.map Prod.fst
    · rw [if_pos (lookup_isSome_iff_mem.2 hkey)]
      exact ih (upsert key value merged)
    · rw [if_neg (mt lookup_isSome_iff_mem.1 hkey), ← upsert_of_not_mem value hkey]
      exact ih (upsert key value merged)

/-- Entries with distinct keys are kept as they are. -/
theorem lastOfEach_of_nodup {pairs : List (Text × α)} (h : (pairs.map Prod.fst).Nodup) :
    lastOfEach pairs = pairs := by
  have hlast : merge .last pairs = .ok (lastOfEach pairs) := mergeInto_last [] pairs
  rw [merge_of_nodup .last h, Except.ok.injEq] at hlast
  exact hlast.symm

/-- The declarations are the merged entries and those that are given up, in another order. -/
theorem exists_perm_of_merge {policy : KeyPolicy} {pairs result : List (Text × α)}
    (h : merge policy pairs = .ok result) : ∃ rest, pairs.Perm (result ++ rest) := by
  have hnodup : result.Nodup := List.Nodup.of_map Prod.fst (nodup_of_merge h)
  obtain ⟨kept, hperm, hsub⟩ := List.subperm_of_subset hnodup fun entry => mem_of_merge h
  obtain ⟨rest, hrest⟩ := hsub.exists_perm_append
  exact ⟨rest, hrest.trans (hperm.append_right rest)⟩

/-- If no declaration is given up, merging leaves them as they are. -/
theorem eq_of_merge_of_perm {policy : KeyPolicy} {pairs result : List (Text × α)}
    (h : merge policy pairs = .ok result) (hperm : pairs.Perm result) : pairs = result := by
  have hnodup : (pairs.map Prod.fst).Nodup := (hperm.map Prod.fst).nodup_iff.2 (nodup_of_merge h)
  rw [merge_of_nodup policy hnodup, Except.ok.injEq] at h
  exact h

theorem exists_mergeInto {policy : KeyPolicy} (hpolicy : policy ≠ .error)
    (merged pairs : List (Text × α)) : ∃ result, mergeInto policy merged pairs = .ok result := by
  induction pairs generalizing merged with
  | nil => exact ⟨merged, rfl⟩
  | cons pair pairs ih =>
    obtain ⟨key, value⟩ := pair
    simp only [mergeInto_cons_eq_ok_iff]
    -- Only a key that is known already depends on the policy.
    by_cases hkey : key ∈ merged.map Prod.fst
    · cases policy with
      | last => exact (ih _).imp fun _ h => Or.inr (Or.inr ⟨hkey, rfl, h⟩)
      | first => exact (ih _).imp fun _ h => Or.inr (Or.inl ⟨hkey, rfl, h⟩)
      | error => contradiction
    · exact (ih _).imp fun _ h => Or.inl ⟨hkey, h⟩

/-- Only the error policy refuses to merge. -/
theorem exists_merge {policy : KeyPolicy} (hpolicy : policy ≠ .error) (pairs : List (Text × α)) :
    ∃ result, merge policy pairs = .ok result :=
  exists_mergeInto hpolicy [] pairs

/-! ## The settled entries -/

/-- The value that counts for a key: the last one declared for it or the first one. -/
def KeyPolicy.chosen (policy : KeyPolicy) (pairs : List (Text × α)) (key : Text) : Option α :=
  match policy with
  | .last => pairs.reverse.lookup key
  | _ => pairs.lookup key

/-- Every declared key once, in the order of first declaration, with the value that counts. -/
def settled (policy : KeyPolicy) (pairs : List (Text × α)) : List (Text × α) :=
  (pairs.map Prod.fst).eraseDups.filterMap fun key =>
    (policy.chosen pairs key).map fun value => (key, value)

theorem lookup_cons_eq (key other : Text) (value : α) (entries : List (Text × α)) :
    ((key, value) :: entries).lookup other =
      if other = key then some value else entries.lookup other := by
  rw [List.lookup_cons]
  by_cases h : other = key
  · rw [if_pos h, beq_iff_eq.2 h]
  · rw [if_neg h, beq_eq_false_iff_ne.2 h]

theorem lookup_upsert (key other : Text) (value : α) (entries : List (Text × α)) :
    (upsert key value entries).lookup other =
      if other = key then some value else entries.lookup other := by
  induction entries with
  | nil => rw [upsert, lookup_cons_eq]
  | cons entry entries ih =>
    obtain ⟨k, v⟩ := entry
    rw [upsert]
    split
    · rename_i hkey
      subst hkey
      rw [lookup_cons_eq, lookup_cons_eq]
      split <;> rfl
    · rename_i hkey
      rw [lookup_cons_eq, lookup_cons_eq, ih]
      split
      · -- The first entry is found in both lists, and its key is not the one replaced.
        rename_i hother
        subst hother
        rw [if_neg hkey]
      · rfl

theorem lookup_eq_some_of_mem {α : Type u} {entries : List (Text × α)} {entry : Text × α}
    (hnodup : (entries.map Prod.fst).Nodup) (h : entry ∈ entries) :
    entries.lookup entry.1 = some entry.2 := by
  obtain ⟨front, back, rfl⟩ := List.append_of_mem h
  rw [List.lookup_eq_some_iff]
  refine ⟨front, back, rfl, fun other hother => ?_⟩
  rw [List.map_append, List.map_cons, List.nodup_append] at hnodup
  rw [bne_iff_ne]
  exact Ne.symm (hnodup.2.2 _ (List.mem_map_of_mem hother) _ List.mem_cons_self)

theorem mem_of_lookup_eq_some {entries : List (Text × α)} {key : Text} {value : α}
    (h : entries.lookup key = some value) : (key, value) ∈ entries := by
  obtain ⟨front, back, rfl, -⟩ := List.lookup_eq_some_iff.1 h
  simp

/-- With distinct keys it does not matter from which end a key is looked up. -/
theorem lookup_reverse {entries : List (Text × α)} (h : (entries.map Prod.fst).Nodup) (key : Text) :
    entries.reverse.lookup key = entries.lookup key := by
  have hreverse : (entries.reverse.map Prod.fst).Nodup := by
    rw [List.map_reverse]
    exact List.nodup_reverse.2 h
  cases hlookup : entries.lookup key with
  | none =>
    rw [List.lookup_eq_none_iff] at hlookup ⊢
    intro entry hentry
    exact hlookup entry (List.mem_reverse.1 hentry)
  | some value =>
    have hmem := mem_of_lookup_eq_some hlookup
    exact lookup_eq_some_of_mem hreverse (List.mem_reverse.2 hmem)

theorem eraseDups_of_nodup {keys : List Text} (h : keys.Nodup) : keys.eraseDups = keys := by
  induction keys with
  | nil => rfl
  | cons key keys ih =>
    rw [List.nodup_cons] at h
    have hrest : (keys.filter fun other => !other == key) = keys := by
      rw [List.filter_eq_self]
      rintro other hother
      have hne : other ≠ key := fun heq => h.1 (heq ▸ hother)
      simpa using hne
    rw [List.eraseDups_cons, hrest, ih h.2]

/-- A key that has been declared before adds nothing to the list of keys. -/
theorem eraseDups_append_cons {front back : List Text} {key : Text} (h : key ∈ front) :
    (front ++ key :: back).eraseDups = (front ++ back).eraseDups := by
  rw [List.eraseDups_append, List.eraseDups_append, List.cons_removeAll, if_neg (by simpa using h)]

theorem keys_of_mergeInto {policy : KeyPolicy} {merged pairs result : List (Text × α)}
    (hmerged : (merged.map Prod.fst).Nodup) (h : mergeInto policy merged pairs = .ok result) :
    result.map Prod.fst = ((merged ++ pairs).map Prod.fst).eraseDups := by
  induction pairs generalizing merged with
  | nil =>
    obtain rfl : merged = result := by simpa [mergeInto] using h
    rw [List.append_nil, eraseDups_of_nodup hmerged]
  | cons pair pairs ih =>
    obtain ⟨key, value⟩ := pair
    rw [List.map_append, List.map_cons]
    rcases mergeInto_cons_eq_ok_iff.1 h with ⟨hkey, h⟩ | ⟨hkey, -, h⟩ | ⟨hkey, -, h⟩
    · rw [ih (nodup_concat value hkey hmerged) h]
      simp
    · rw [ih hmerged h, List.map_append, eraseDups_append_cons hkey]
    · have hkeys : (upsert key value merged).map Prod.fst = merged.map Prod.fst :=
        map_fst_upsert hkey
      rw [ih (hkeys ▸ hmerged) h, List.map_append, hkeys, eraseDups_append_cons hkey]

/-- What is found under a key after merging is the value that counts among the merged entries and
the declarations to come. -/
theorem lookup_of_mergeInto {policy : KeyPolicy} {merged pairs result : List (Text × α)}
    (hmerged : (merged.map Prod.fst).Nodup) (h : mergeInto policy merged pairs = .ok result)
    (other : Text) : result.lookup other = policy.chosen (merged ++ pairs) other := by
  induction pairs generalizing merged with
  | nil =>
    obtain rfl : merged = result := by simpa [mergeInto] using h
    rw [List.append_nil]
    cases policy with
    | last => exact (lookup_reverse hmerged other).symm
    | first => rfl
    | error => rfl
  | cons pair pairs ih =>
    obtain ⟨key, value⟩ := pair
    rcases mergeInto_cons_eq_ok_iff.1 h with ⟨hkey, h⟩ | ⟨hkey, rfl, h⟩ | ⟨hkey, rfl, h⟩
    · rw [ih (nodup_concat value hkey hmerged) h, List.append_assoc, List.singleton_append]
    · rw [ih hmerged h]
      simp only [KeyPolicy.chosen, List.lookup_append, lookup_cons_eq]
      split
      · -- The value that is skipped stands behind one that is found before it.
        rename_i hother
        obtain ⟨kept, hkept⟩ := Option.isSome_iff_exists.1 (lookup_isSome_iff_mem.2 hkey)
        rw [hother, hkept, Option.some_or, Option.some_or]
      · rfl
    · have hupsert : ((upsert key value merged).map Prod.fst).Nodup := by
        rwa [map_fst_upsert hkey]
      rw [ih hupsert h]
      -- Looked up from the end, the new value hides the old one wherever that stands.
      simp only [KeyPolicy.chosen, List.reverse_append, List.reverse_cons, List.lookup_append,
        lookup_reverse hupsert, lookup_reverse hmerged, lookup_upsert, lookup_cons_eq,
        List.lookup_nil, Option.or_assoc]
      split <;> simp

/-- Merged entries have the keys that were declared, in the order of first declaration. -/
theorem keys_of_merge {policy : KeyPolicy} {pairs result : List (Text × α)}
    (h : merge policy pairs = .ok result) :
    result.map Prod.fst = (pairs.map Prod.fst).eraseDups := by
  have hnil : (([] : List (Text × α)).map Prod.fst).Nodup := List.nodup_nil
  exact keys_of_mergeInto hnil h

/-- What is found under a key after merging is the value that counts. -/
theorem lookup_of_merge {policy : KeyPolicy} {pairs result : List (Text × α)}
    (h : merge policy pairs = .ok result) (key : Text) :
    result.lookup key = policy.chosen pairs key := by
  have hnil : (([] : List (Text × α)).map Prod.fst).Nodup := List.nodup_nil
  exact lookup_of_mergeInto hnil h key

/-- Entries with distinct keys are what is found under their keys. -/
theorem filterMap_lookup {entries : List (Text × α)} (h : (entries.map Prod.fst).Nodup) :
    ((entries.map Prod.fst).filterMap fun key =>
      (entries.lookup key).map fun value => (key, value)) = entries := by
  rw [List.filterMap_map]
  have hentry : ∀ entry ∈ entries,
      ((fun key => (entries.lookup key).map fun value => (key, value)) ∘ Prod.fst) entry =
        some entry := by
    intro entry hentry
    rw [Function.comp_apply, lookup_eq_some_of_mem h hentry]
    rfl
  rw [List.filterMap_congr hentry, List.filterMap_some]

/-- Entries with distinct keys are known by their keys and by what is found under them. -/
theorem entries_ext {entries entries' : List (Text × α)}
    (hkeys : entries.map Prod.fst = entries'.map Prod.fst)
    (hnodup : (entries.map Prod.fst).Nodup)
    (hlookup : ∀ key, entries.lookup key = entries'.lookup key) : entries = entries' := by
  calc entries
      = (entries.map Prod.fst).filterMap fun key =>
          (entries.lookup key).map fun value => (key, value) := (filterMap_lookup hnodup).symm
    _ = (entries'.map Prod.fst).filterMap fun key =>
          (entries'.lookup key).map fun value => (key, value) := by simp only [hkeys, hlookup]
    _ = entries' := filterMap_lookup (hkeys ▸ hnodup)

theorem eq_settled_of_merge {policy : KeyPolicy} {pairs result : List (Text × α)}
    (h : merge policy pairs = .ok result) : result = settled policy pairs := by
  calc result
      = (result.map Prod.fst).filterMap fun key =>
          (result.lookup key).map fun value => (key, value) :=
        (filterMap_lookup (nodup_of_merge h)).symm
    _ = settled policy pairs := by
        simp only [settled, keys_of_merge h, lookup_of_merge h]

theorem eq_append_of_mergeInto_error {merged pairs result : List (Text × α)}
    (h : mergeInto .error merged pairs = .ok result) : result = merged ++ pairs := by
  induction pairs generalizing merged with
  | nil =>
    obtain rfl : merged = result := by simpa [mergeInto] using h
    rw [List.append_nil]
  | cons pair pairs ih =>
    -- Of the three steps only the one for a new key is open to the error policy.
    rcases mergeInto_cons_eq_ok_iff.1 h with ⟨-, h⟩ | ⟨-, hpolicy, -⟩ | ⟨-, hpolicy, -⟩
    · rw [ih h, List.append_assoc, List.singleton_append]
    · cases hpolicy
    · cases hpolicy

/-- Merging settles the entries; only the error policy refuses, when a key is declared again. -/
theorem merge_eq_ok_iff {policy : KeyPolicy} {pairs result : List (Text × α)} :
    merge policy pairs = .ok result ↔
      (policy = .error → (pairs.map Prod.fst).Nodup) ∧ settled policy pairs = result := by
  constructor
  · intro h
    refine ⟨?_, (eq_settled_of_merge h).symm⟩
    rintro rfl
    have hnodup := nodup_of_merge h
    rwa [eq_append_of_mergeInto_error h, List.nil_append] at hnodup
  · rintro ⟨hnodup, rfl⟩
    obtain ⟨result, hresult⟩ : ∃ result, merge policy pairs = .ok result := by
      by_cases hpolicy : policy = .error
      · exact ⟨pairs, merge_of_nodup policy (hnodup hpolicy)⟩
      · exact exists_merge hpolicy pairs
    rw [hresult, eq_settled_of_merge hresult]

/-! ## Declarations in two parts -/

/-- Keys that are left out do not change which of the others are first. -/
theorem eraseDups_filter (p : Text → Bool) (keys : List Text) :
    (keys.filter p).eraseDups = keys.eraseDups.filter p := by
  induction keys using List.reverseRecOn with
  | nil => rfl
  | append_singleton keys key ih =>
    rw [List.filter_append, List.eraseDups_append, List.eraseDups_append, List.filter_append, ih]
    congr 1
    -- The last key counts if it is new, among all keys or among those that are kept.
    by_cases hp : p key = true
    · by_cases hmem : key ∈ keys <;> simp [List.removeAll, List.eraseDups_cons, hp, hmem]
    · by_cases hmem : key ∈ keys <;> simp [List.removeAll, List.eraseDups_cons, hp, hmem]

section Parts

variable {policy : KeyPolicy} {front back merged merged' result : List (Text × α)}

/-- The keys of the first part come first, then those of the second part that are new. -/
theorem keys_of_merge_append (h : merge policy front = .ok merged)
    (h' : merge policy back = .ok merged') (hboth : merge policy (front ++ back) = .ok result) :
    result.map Prod.fst = merged.map Prod.fst ++
      (merged'.map Prod.fst).filter fun key => key ∉ merged.map Prod.fst := by
  rw [keys_of_merge h, keys_of_merge h', keys_of_merge hboth, List.map_append,
    List.eraseDups_append, List.removeAll, eraseDups_filter]
  congr 1
  apply List.filter_congr
  intro key _
  simp

/-- Under the last declaration the second part has the first word. -/
theorem lookup_of_merge_append_last (h : merge .last front = .ok merged)
    (h' : merge .last back = .ok merged') (hboth : merge .last (front ++ back) = .ok result)
    (key : Text) : result.lookup key = (merged'.lookup key).or (merged.lookup key) := by
  rw [lookup_of_merge h, lookup_of_merge h', lookup_of_merge hboth, KeyPolicy.chosen,
    List.reverse_append, List.lookup_append]
  rfl

/-- Under every other policy the first part has it. -/
theorem lookup_of_merge_append (hpolicy : policy ≠ .last) (h : merge policy front = .ok merged)
    (h' : merge policy back = .ok merged') (hboth : merge policy (front ++ back) = .ok result)
    (key : Text) : result.lookup key = (merged.lookup key).or (merged'.lookup key) := by
  have hchosen (pairs : List (Text × α)) : policy.chosen pairs key = pairs.lookup key := by
    cases policy with
    | last => contradiction
    | first => rfl
    | error => rfl
  rw [lookup_of_merge h, lookup_of_merge h', lookup_of_merge hboth, hchosen, hchosen, hchosen,
    List.lookup_append]

/-- Parts without a key in common are merged one by one. -/
theorem merge_append_of_disjoint (h : merge policy front = .ok merged)
    (h' : merge policy back = .ok merged')
    (hdisjoint : ∀ key ∈ merged'.map Prod.fst, key ∉ merged.map Prod.fst) :
    merge policy (front ++ back) = .ok (merged ++ merged') := by
  have hnodup : ((merged ++ merged').map Prod.fst).Nodup := by
    rw [List.map_append, List.nodup_append]
    refine ⟨nodup_of_merge h, nodup_of_merge h', ?_⟩
    rintro key hkey _ hkey' rfl
    exact hdisjoint key hkey' hkey
  obtain ⟨result, hresult⟩ : ∃ result, merge policy (front ++ back) = .ok result := by
    by_cases hpolicy : policy = .error
    · subst hpolicy
      obtain rfl : merged = front := eq_append_of_mergeInto_error h
      obtain rfl : merged' = back := eq_append_of_mergeInto_error h'
      exact ⟨_, merge_of_nodup .error hnodup⟩
    · exact exists_merge hpolicy _
  have hkeys : result.map Prod.fst = (merged ++ merged').map Prod.fst := by
    rw [keys_of_merge_append h h' hresult, List.map_append, List.filter_eq_self.2]
    intro key hkey
    simpa using hdisjoint key hkey
  have hlookup : ∀ key, result.lookup key = (merged ++ merged').lookup key := by
    intro key
    rw [List.lookup_append]
    by_cases hpolicy : policy = .last
    · subst hpolicy
      rw [lookup_of_merge_append_last h h' hresult]
      -- At most one of the parts has the key, so it does not matter which is asked first.
      cases hfound : merged'.lookup key with
      | none => simp
      | some value =>
        have hmem := lookup_isSome_iff_mem.1 (Option.isSome_of_eq_some hfound)
        have hnone : merged.lookup key = none := by
          rw [← Option.not_isSome_iff_eq_none, lookup_isSome_iff_mem]
          exact hdisjoint key hmem
        rw [hnone]
        rfl
    · exact lookup_of_merge_append hpolicy h h' hresult key
  rw [hresult, entries_ext hkeys (nodup_of_merge hresult) hlookup]

end Parts

/-! ## The key that is refused -/

/-- The key is the first one in the list that has stood there before. -/
def FirstRepeated (keys : List Text) (key : Text) : Prop :=
  ∃ front back, keys = front ++ key :: back ∧ front.Nodup ∧ key ∈ front

/-- The first key of the second list that the first list has is the first one repeated. -/
theorem firstRepeated_append {keys keys' : List Text} {key : Text} (hkeys : keys.Nodup)
    (hkeys' : keys'.Nodup) (h : (keys'.find? fun key => key ∈ keys) = some key) :
    FirstRepeated (keys ++ keys') key := by
  obtain ⟨hkey, before, after, rfl, hbefore⟩ := List.find?_eq_some_iff_append.1 h
  refine ⟨keys ++ before, after, by simp, ?_, ?_⟩
  · rw [List.nodup_append]
    refine ⟨hkeys, hkeys'.sublist (List.sublist_append_left before _), ?_⟩
    rintro other hother _ hother' rfl
    have hnew : other ∉ keys := by simpa using hbefore other hother'
    exact hnew hother
  · apply List.mem_append_left
    simpa using hkey

theorem firstRepeated_of_mergeInto {policy : KeyPolicy} {merged pairs : List (Text × α)}
    {key : Text} (hmerged : (merged.map Prod.fst).Nodup)
    (h : mergeInto policy merged pairs = .error key) :
    policy = .error ∧ FirstRepeated ((merged ++ pairs).map Prod.fst) key := by
  induction pairs generalizing merged with
  | nil => simp [mergeInto] at h
  | cons pair pairs ih =>
    obtain ⟨next, value⟩ := pair
    rw [mergeInto_cons] at h
    by_cases hnext : next ∈ merged.map Prod.fst
    · rw [if_pos (lookup_isSome_iff_mem.2 hnext)] at h
      -- The other policies go on and never refuse a key.
      cases policy with
      | error =>
        obtain rfl : next = key := by simpa using h
        exact ⟨rfl, merged.map Prod.fst, pairs.map Prod.fst, by simp, hmerged, hnext⟩
      | first =>
        obtain ⟨hpolicy, -⟩ := ih hmerged h
        cases hpolicy
      | last =>
        have hupsert : ((upsert next value merged).map Prod.fst).Nodup := by
          rwa [map_fst_upsert hnext]
        obtain ⟨hpolicy, -⟩ := ih hupsert h
        cases hpolicy
    · rw [if_neg (mt lookup_isSome_iff_mem.1 hnext)] at h
      have hconcat := ih (nodup_concat value hnext hmerged) h
      rwa [List.append_assoc, List.singleton_append] at hconcat

/-- Merging refuses a key only under the error policy, and then the first one that is repeated. -/
theorem firstRepeated_of_merge {policy : KeyPolicy} {pairs : List (Text × α)} {key : Text}
    (h : merge policy pairs = .error key) :
    policy = .error ∧ FirstRepeated (pairs.map Prod.fst) key := by
  have hnil : (([] : List (Text × α)).map Prod.fst).Nodup := List.nodup_nil
  exact firstRepeated_of_mergeInto hnil h

/-- What has been merged before does not matter for the declarations to come. -/
theorem mergeInto_append {policy : KeyPolicy} {start front back merged : List (Text × α)}
    (h : mergeInto policy start front = .ok merged) :
    mergeInto policy start (front ++ back) = mergeInto policy merged back := by
  induction front generalizing start with
  | nil =>
    obtain rfl : start = merged := by simpa [mergeInto] using h
    rfl
  | cons pair front ih =>
    obtain ⟨key, value⟩ := pair
    rw [List.cons_append, mergeInto_cons]
    rcases mergeInto_cons_eq_ok_iff.1 h with ⟨hkey, h⟩ | ⟨hkey, rfl, h⟩ | ⟨hkey, rfl, h⟩
    · rw [if_neg (mt lookup_isSome_iff_mem.1 hkey), ih h]
    · rw [if_pos (lookup_isSome_iff_mem.2 hkey), ih h]
    · rw [if_pos (lookup_isSome_iff_mem.2 hkey), ih h]

/-- The error policy refuses the first key that is repeated. -/
theorem merge_error_of_firstRepeated {pairs : List (Text × α)} {key : Text}
    (h : FirstRepeated (pairs.map Prod.fst) key) : merge .error pairs = .error key := by
  obtain ⟨front, back, hkeys, hnodup, hmem⟩ := h
  obtain ⟨before, rest, rfl, rfl, hrest⟩ := List.map_eq_append_iff.1 hkeys
  obtain ⟨⟨_, value⟩, after, rfl, rfl, -⟩ := List.map_eq_cons_iff.1 hrest
  have hbefore : mergeInto .error [] before = .ok before := merge_of_nodup .error hnodup
  rw [merge, mergeInto_append hbefore, mergeInto_cons, if_pos (lookup_isSome_iff_mem.2 hmem)]

end DocShape
