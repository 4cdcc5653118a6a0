import DocShape.Proofs.Decoding

/-!
# Documents without repeated keys

The reader keeps one member for each key of an object (`lastOfEach`), so no object in a document that
is read has a key twice, whatever the text and the dialect (`Json.distinct_of_read`).

What a part of the reader gives is said of all its answers at once (`Json.Gives`), so that it passes
from the elements of a container to the container, and from one depth of nesting to the next.

Relation: `Json.read` in every dialect, on every text.
-/

set_option autoImplicit false

namespace DocShape

mutual

/-- The keys of every object in a value. -/
def Json.keyLists : Json → List (List Text)
  | .array values => Json.keyListsOfItems values
  | .object entries => entries.map Prod.fst :: Json.keyListsOfMembers entries
  | _ => []

/-- The keys of every object in the items of an array. -/
def Json.keyListsOfItems : List Json → List (List Text)
  | [] => []
  | value :: values => value.keyLists ++ Json.keyListsOfItems values

/-- The keys of every object in the members of an object. -/
def Json.keyListsOfMembers : List (Text × Json) → List (List Text)
  | [] => []
  | (_, value) :: entries => value.keyLists ++ Json.keyListsOfMembers entries

end

/-- No object in a value has a key twice. -/
def Json.Distinct (value : Json) : Prop := ∀ keys ∈ value.keyLists, keys.Nodup

instance (value : Json) : Decidable value.Distinct :=
  inferInstanceAs (Decidable (∀ keys ∈ value.keyLists, keys.Nodup))

theorem Json.distinct_array_iff {values : List Json} :
    (Json.array values).Distinct ↔ ∀ value ∈ values, value.Distinct := by
  simp only [Distinct, keyLists]
  induction values with
  | nil => simp [keyListsOfItems]
  | cons value values ih => rw [keyListsOfItems, List.forall_mem_append, ih, List.forall_mem_cons]

theorem Json.distinct_object_iff {entries : List (Text × Json)} :
    (Json.object entries).Distinct ↔
      (entries.map Prod.fst).Nodup ∧ ∀ entry ∈ entries, entry.2.Distinct := by
  have hmembers : (∀ keys ∈ keyListsOfMembers entries, keys.Nodup) ↔
      ∀ entry ∈ entries, entry.2.Distinct := by
    induction entries with
    | nil => simp [keyListsOfMembers]
    | cons entry entries ih =>
      rw [keyListsOfMembers, List.forall_mem_append, ih, List.forall_mem_cons]
      rfl
  rw [← hmembers, Distinct, keyLists, List.forall_mem_cons]

namespace Json

theorem distinct_of_keyLists_eq_nil {value : Json} (h : value.keyLists = []) : value.Distinct := by
  rw [Distinct, h]
  exact List.forall_mem_nil _

/-! ## What the parts of the reader give -/

variable {α β : Type}

/-- Whatever a part of the reader reads has a property. -/
def Gives (answer : Reading α) (p : α → Prop) : Prop := ∀ a rest, answer = .ok (a, rest) → p a

theorem gives_error (halt : Halt) (p : α → Prop) : Gives (.error halt) p :=
  fun _ _ h => nomatch h

theorem gives_ok {a : α} {rest : Text} {p : α → Prop} (h : p a) : Gives (.ok (a, rest)) p := by
  intro other rest' heq
  cases heq
  exact h

theorem Gives.map {answer : Reading α} {p : α → Prop} {q : β → Prop} (h : Gives answer p)
    {f : α → β} (hf : ∀ a, p a → q (f a)) :
    Gives (Except.map (fun (a, rest) => (f a, rest)) answer) q := by
  rcases answer with halt | ⟨a, rest⟩
  · exact gives_error halt q
  · exact gives_ok (hf a (h a rest rfl))

/-- What holds of every element that is read holds of all that are read. -/
theorem elements_gives {missing : Fault} {closing : Char} {element : Text → Reading α}
    {p : α → Prop} (h : ∀ text, Gives (element text) p) (fuel : Nat) (text : Text) :
    Gives (elements missing closing element fuel text) fun as => ∀ a ∈ as, p a := by
  induction fuel generalizing text with
  | zero => exact gives_error _ _
  | succ fuel ih =>
    rw [elements_succ]
    rcases hread : element text with halt | ⟨a, rest⟩
    · exact gives_error halt _
    · have ha : p a := h text a rest hread
      rw [andThen, afterElement.eq_def]
      split
      next => exact gives_error _ _
      next =>
        split
        next => exact gives_ok (List.forall_mem_singleton.2 ha)
        next =>
          split
          next => exact (ih _).map fun others hothers => List.forall_mem_cons.2 ⟨ha, hothers⟩
          next => exact gives_error _ _

theorem quotedMember_gives {dialect : Dialect} {item : Text → Reading Json} {p : Json → Prop}
    (h : ∀ text, Gives (item text) p) (text : Text) :
    Gives (quotedMember dialect item text) fun entry => p entry.2 := by
  rw [quotedMember.eq_def]
  split
  next text =>
    rw [member]
    rcases stringBody dialect text with halt | ⟨key, rest⟩
    · exact gives_error halt _
    · simp only
      split
      next => exact (h _).map fun value hvalue => hvalue
      next => exact gives_error _ _
  next => exact gives_error _ _

/-- An object that is read has each key once, whatever members are written. -/
theorem distinct_lastOfEach {entries : List (Text × Json)}
    (h : ∀ entry ∈ entries, entry.2.Distinct) : (Json.object (lastOfEach entries)).Distinct := by
  have hmerge : merge .last entries = .ok (lastOfEach entries) := mergeInto_last [] entries
  exact distinct_object_iff.2
    ⟨nodup_of_merge hmerge, fun entry hentry => h entry (mem_of_merge hmerge hentry)⟩

theorem Container.distinct_empty (container : Container) : container.empty.Distinct := by
  cases container <;> decide

theorem insideOf_gives {container : Container} {empty other : Text → Reading Json}
    {p : Json → Prop} (hempty : ∀ text, Gives (empty text) p) (hother : ∀ text, Gives (other text) p)
    (text : Text) : Gives (insideOf container empty other text) p := by
  rw [insideOf.eq_def]
  split
  next => exact hother []
  next =>
    split
    next => exact hempty _
    next => exact hother _

theorem filled_gives {dialect : Dialect} {item : Text → Reading Json}
    (h : ∀ text, Gives (item text) Distinct) (container : Container) (text : Text) :
    Gives (filled dialect item container text) Distinct := by
  cases container with
  | array =>
    rw [filled, items_eq_elements]
    exact (elements_gives h _ text).map fun values hvalues => distinct_array_iff.2 hvalues
  | object =>
    rw [filled, members_eq_elements]
    exact (elements_gives (quotedMember_gives h) _ text).map fun entries => distinct_lastOfEach

theorem word?_gives {text rest : Text} {value : Json} (h : word? text = some (value, rest)) :
    value.Distinct := by
  obtain ⟨⟨word, meant⟩, hword, hmeant⟩ := List.exists_of_findSome?_eq_some h
  obtain ⟨_, -, hanswer⟩ := Option.map_eq_some_iff.1 hmeant
  cases hanswer
  have hwords : ∀ word ∈ words, word.2.keyLists = [] := by
    simp [words, keyLists]
  exact distinct_of_keyLists_eq_nil (hwords _ hword)

theorem keyLists_ofParts {dialect : Dialect} {negative : Bool} {whole : Text}
    {fraction : Option Text} {exponent : Option Int} {value : Json}
    (h : ofParts dialect negative whole fraction exponent = .ok value) : value.keyLists = [] := by
  simp only [ofParts] at h
  generalize whole.length + _ = count at h
  split at h
  · cases h
  · split at h
    · cases h
      rw [ofWhole]
      split
      · rfl
      · rfl
    · cases h
      rfl

theorem number_gives (dialect : Dialect) (text : Text) : Gives (number dialect text) Distinct := by
  rw [number.eq_def]
  simp only
  split
  next => exact gives_error _ _
  next whole rest _ =>
    rcases hparts : ofParts dialect _ whole _ _ with halt | value
    · exact gives_error halt _
    · exact gives_ok (distinct_of_keyLists_eq_nil (keyLists_ofParts hparts))

theorem valueWith_gives {dialect : Dialect} {container : Container → Text → Reading Json}
    (h : ∀ kind text, Gives (container kind text) Distinct) (text : Text) :
    Gives (valueWith dialect container text) Distinct := by
  rw [valueWith.eq_def]
  split
  next rest =>
    rcases stringBody dialect rest with halt | ⟨value, rest⟩
    · exact gives_error halt _
    · exact gives_ok (distinct_of_keyLists_eq_nil rfl)
  next => exact h _ _
  next => exact h _ _
  next =>
    split
    next hword => exact gives_ok (word?_gives hword)
    next => exact number_gives dialect _

theorem value_gives (dialect : Dialect) (nesting : Nat) (text : Text) :
    Gives (value dialect nesting text) Distinct := by
  induction nesting generalizing text with
  | zero =>
    refine valueWith_gives (fun container text => ?_) text
    rw [innermost_eq]
    refine insideOf_gives (fun rest => ?_) (fun _ => gives_error _ _) _
    split
    next => exact gives_error _ _
    next => exact gives_ok container.distinct_empty
  | succ nesting ih =>
    refine valueWith_gives (fun container text => ?_) text
    rw [containerWith_eq]
    exact insideOf_gives (fun rest => gives_ok container.distinct_empty) (filled_gives ih container) _

/-- No object in a document that is read has a key twice. -/
theorem distinct_of_read {dialect : Dialect} {text : Text} {document : Json}
    (h : read dialect text = .ok document) : document.Distinct := by
  have hwhole : whole dialect text = .ok document := by
    rw [read] at h
    split at h
    next value hvalue =>
      cases h
      exact hvalue
    next => cases h
  rw [whole.eq_def] at hwhole
  split at hwhole
  next => cases hwhole
  next =>
    rcases hread : value dialect dialect.nesting (skipGap text) with halt | ⟨found, rest⟩
    · rw [hread] at hwhole
      cases hwhole
    · have hfound := value_gives dialect _ _ found rest hread
      rw [hread] at hwhole
      simp only at hwhole
      split at hwhole
      next =>
        cases hwhole
        exact hfound
      next => cases hwhole

end Json

end DocShape
