import DocShape.Proofs.Merging
import DocShape.Proofs.Objects

/-!
# Documents as they are declared

A document is a schema text taken apart: the properties of an object in the order in which they are
declared, repeated keys and rules included (`Document`, `Declared`). It has a text (`Document.text`)
and a meaning (`Document.schema`): rules are dropped and the properties of every object are settled
under a policy. Neither of the two goes through the parser.

Conditions on a document are said over the list of its objects (`Document.objects`) or over its
pieces, the keys and the rules (`Document.pieces`). Everything else in the text of a document is
fixed by the notation, which is what `Declared.text_induction` says.
-/

set_option autoImplicit false

namespace DocShape

/-- The value of a property as it is declared. -/
inductive Declared where
  /-- A primitive kind, with rules or without. -/
  | primitive (kind : Primitive) (rules : Option Text)
  /-- An array of a primitive kind, with rules or without. -/
  | primitiveArray (kind : Primitive) (rules : Option Text)
  /-- An object. -/
  | object (properties : List (Text × Declared))
  /-- An array of objects. -/
  | objectArray (properties : List (Text × Declared))

/-- The properties of an object in the order of their declaration; keys may be repeated. -/
abbrev Document := List (Text × Declared)

/-- Rules in angle brackets, if there are any. -/
def bracketed : Option Text → Text
  | none => []
  | some rules => '<' :: rules ++ ['>']

/-- The text of an array of a primitive kind. -/
def kindArrayText (kind : Primitive) : Text := kind.name ++ "[]".toList

/-- The text of an array of objects, given the text of an object. -/
def objectArrayText (text : Text) : Text := "Array<".toList ++ (text ++ ['>'])

mutual

/-- The text of a value. -/
def Declared.text : Declared → Text
  | .primitive kind rules => kind.name ++ bracketed rules
  | .primitiveArray kind rules => kindArrayText kind ++ bracketed rules
  | .object properties => objectText (Document.segments properties)
  | .objectArray properties => objectArrayText (objectText (Document.segments properties))

/-- The texts of the properties. -/
def Document.segments : Document → List Text
  | [] => []
  | (key, value) :: properties => (key ++ ':' :: value.text) :: Document.segments properties

end

/-- The text of a document, without blanks between its parts. -/
def Document.text (doc : Document) : Text := objectText doc.segments

mutual

/-- The shape that a value declares. -/
def Declared.shape (policy : KeyPolicy) : Declared → Shape
  | .primitive kind _ => .primitive kind
  | .primitiveArray kind _ => .array (.primitive kind)
  | .object properties => .object (settled policy (Document.entries policy properties))
  | .objectArray properties =>
      .array (.object (settled policy (Document.entries policy properties)))

/-- The properties with the shapes that their values declare, repeated keys included. -/
def Document.entries (policy : KeyPolicy) : Document → List (Text × Shape)
  | [] => []
  | (key, value) :: properties => (key, value.shape policy) :: Document.entries policy properties

end

/-- The schema that a document declares. -/
def Document.schema (policy : KeyPolicy) (doc : Document) : Schema :=
  settled policy (doc.entries policy)

mutual

/-- How many objects stand around the innermost one of a value, that one included. -/
def Declared.nesting : Declared → Nat
  | .primitive _ _ => 0
  | .primitiveArray _ _ => 0
  | .object properties => Document.nesting properties + 1
  | .objectArray properties => Document.nesting properties + 1

/-- How many levels of objects stand inside the properties. -/
def Document.nesting : Document → Nat
  | [] => 0
  | (_, value) :: properties => max value.nesting (Document.nesting properties)

end

mutual

/-- The objects of a value, from the outermost one inwards. -/
def Declared.objects : Declared → List Document
  | .primitive _ _ => []
  | .primitiveArray _ _ => []
  | .object properties => properties :: Document.innerObjects properties
  | .objectArray properties => properties :: Document.innerObjects properties

/-- The objects inside the properties. -/
def Document.innerObjects : Document → List Document
  | [] => []
  | (_, value) :: properties => value.objects ++ Document.innerObjects properties

end

mutual

/-- The keys and rules in a value. -/
def Declared.pieces : Declared → List Text
  | .primitive _ rules => rules.toList
  | .primitiveArray _ rules => rules.toList
  | .object properties => Document.pieces properties
  | .objectArray properties => Document.pieces properties

/-- The keys and rules in the properties. -/
def Document.pieces : Document → List Text
  | [] => []
  | (key, value) :: properties => key :: (value.pieces ++ Document.pieces properties)

end

/-- The object in a value that is one or is an array of it. -/
def Declared.inner? : Declared → Option Document
  | .primitive _ _ => none
  | .primitiveArray _ _ => none
  | .object properties => some properties
  | .objectArray properties => some properties

/-- Rules that would be taken for the rules of an array: the mark of those stands in them. -/
def Misleading (rules : Text) : Prop := "[]<".toList <:+: rules

/-- The rules of a primitive kind are not misleading. -/
def Declared.Plain : Declared → Prop
  | .primitive _ (some rules) => ¬ Misleading rules
  | _ => True

instance (rules : Text) : Decidable (Misleading rules) :=
  inferInstanceAs (Decidable ("[]<".toList <:+: rules))

instance : (value : Declared) → Decidable value.Plain
  | .primitive _ none => .isTrue trivial
  | .primitive _ (some rules) => inferInstanceAs (Decidable (¬ Misleading rules))
  | .primitiveArray _ _ => .isTrue trivial
  | .object _ => .isTrue trivial
  | .objectArray _ => .isTrue trivial

/-- Induction on a value, with the hypothesis for every property of an object. -/
@[elab_as_elim]
theorem Declared.rec' {motive : Declared → Prop}
    (primitive : ∀ kind rules, motive (.primitive kind rules))
    (primitiveArray : ∀ kind rules, motive (.primitiveArray kind rules))
    (object : ∀ properties : Document, (∀ property ∈ properties, motive property.2) →
      motive (.object properties))
    (objectArray : ∀ properties : Document, (∀ property ∈ properties, motive property.2) →
      motive (.objectArray properties)) :
    ∀ value, motive value
  | .primitive kind rules => primitive kind rules
  | .primitiveArray kind rules => primitiveArray kind rules
  | .object properties => object properties fun property _hproperty =>
      Declared.rec' primitive primitiveArray object objectArray property.2
  | .objectArray properties => objectArray properties fun property _hproperty =>
      Declared.rec' primitive primitiveArray object objectArray property.2
termination_by value => sizeOf value
decreasing_by
  · have hsize := sizeOf_lt_of_mem_entries _hproperty
    simp only [Declared.object.sizeOf_spec]
    omega
  · have hsize := sizeOf_lt_of_mem_entries _hproperty
    simp only [Declared.objectArray.sizeOf_spec]
    omega

namespace Document

/-- The keys in the order of their declaration. -/
def keys (doc : Document) : List Text := doc.map Prod.fst

/-- The objects of a document: the document itself and the objects inside it. -/
def objects (doc : Document) : List Document := doc :: doc.innerObjects

theorem mem_objects_self (doc : Document) : doc ∈ doc.objects := List.mem_cons_self

theorem segments_eq_map (doc : Document) :
    doc.segments = doc.map fun property => property.1 ++ ':' :: property.2.text := by
  induction doc with
  | nil => rfl
  | cons property doc ih => rw [segments, ih, List.map_cons]

theorem entries_eq_map (policy : KeyPolicy) (doc : Document) :
    doc.entries policy = doc.map fun property => (property.1, property.2.shape policy) := by
  induction doc with
  | nil => rfl
  | cons property doc ih => rw [entries, ih, List.map_cons]

theorem map_fst_entries (policy : KeyPolicy) (doc : Document) :
    (doc.entries policy).map Prod.fst = doc.keys := by
  rw [entries_eq_map, List.map_map]
  rfl

theorem nesting_le_iff {doc : Document} {limit : Nat} :
    doc.nesting ≤ limit ↔ ∀ property ∈ doc, property.2.nesting ≤ limit := by
  induction doc with
  | nil => simp [nesting]
  | cons property doc ih => rw [nesting, Nat.max_le, ih, List.forall_mem_cons]

theorem mem_innerObjects_iff {doc object : Document} :
    object ∈ doc.innerObjects ↔ ∃ property ∈ doc, object ∈ property.2.objects := by
  induction doc with
  | nil => simp [innerObjects]
  | cons property doc ih => rw [innerObjects, List.mem_append, ih, List.exists_mem_cons_iff]

theorem forall_mem_pieces_iff {doc : Document} {p : Text → Prop} :
    (∀ piece ∈ doc.pieces, p piece) ↔
      ∀ property ∈ doc, p property.1 ∧ ∀ piece ∈ property.2.pieces, p piece := by
  induction doc with
  | nil => simp [pieces]
  | cons property doc ih =>
    rw [pieces, List.forall_mem_cons, List.forall_mem_append, ih, List.forall_mem_cons, and_assoc]

/-- What holds of the keys and the values holds of the properties, if it is kept by appending. -/
theorem forall_mem_segments {p : Text → Prop} {doc : Document}
    (append : ∀ s t, p s → p t → p (s ++ t)) (colon : p [':'])
    (h : ∀ property ∈ doc, p property.1 ∧ p property.2.text) :
    ∀ segment ∈ doc.segments, p segment := by
  rw [segments_eq_map]
  intro segment hsegment
  obtain ⟨property, hproperty, rfl⟩ := List.mem_map.1 hsegment
  obtain ⟨hkey, hvalue⟩ := h property hproperty
  exact append _ _ hkey (append _ _ colon hvalue)

end Document

namespace Declared

/-- What is known of a value with an object in it: the object is all there is to it. -/
theorem of_inner? {value : Declared} {inner : Document} (h : value.inner? = some inner) :
    value.objects = inner.objects ∧ value.nesting = inner.nesting + 1 ∧
      value.pieces = inner.pieces := by
  cases value with
  | primitive kind rules => simp [inner?] at h
  | primitiveArray kind rules => simp [inner?] at h
  | object properties =>
    obtain rfl : properties = inner := by simpa [inner?] using h
    exact ⟨by rw [objects, Document.objects], by rw [nesting], by rw [pieces]⟩
  | objectArray properties =>
    obtain rfl : properties = inner := by simpa [inner?] using h
    exact ⟨by rw [objects, Document.objects], by rw [nesting], by rw [pieces]⟩

/-- A value without an object in it. -/
theorem of_inner?_eq_none {value : Declared} (h : value.inner? = none) :
    value.objects = [] ∧ value.nesting = 0 := by
  cases value with
  | primitive kind rules => exact ⟨by rw [objects], by rw [nesting]⟩
  | primitiveArray kind rules => exact ⟨by rw [objects], by rw [nesting]⟩
  | object properties => simp [inner?] at h
  | objectArray properties => simp [inner?] at h

/-- What holds of the pieces holds of the whole text, if it is kept by appending and by braces
around a list and holds of the names of the kinds and of the marks between the parts. -/
theorem text_induction {p : Text → Prop} {value : Declared}
    (append : ∀ s t, p s → p t → p (s ++ t))
    (braced : ∀ texts : List Text, (∀ text ∈ texts, p text) → p (objectText texts))
    (name : ∀ kind : Primitive, p kind.name)
    (marks : ∀ mark ∈ ["", ":", "[]", "Array<", "<", ">"], p mark.toList)
    (h : ∀ piece ∈ value.pieces, p piece) : p value.text := by
  -- Rules and objects stand in two kinds of value each, so both come before the induction.
  have hrules (rules : Option Text) (hpieces : ∀ piece ∈ rules.toList, p piece) :
      p (bracketed rules) := by
    cases rules with
    | none => exact marks "" (by simp)
    | some rules =>
      have hpiece : p rules := hpieces rules (by simp)
      exact append _ _ (append _ _ (marks "<" (by simp)) hpiece) (marks ">" (by simp))
  have hobject (properties : Document)
      (ih : ∀ property ∈ properties, (∀ piece ∈ property.2.pieces, p piece) → p property.2.text)
      (hpieces : ∀ piece ∈ properties.pieces, p piece) : p (objectText properties.segments) := by
    apply braced
    apply Document.forall_mem_segments append (marks ":" (by simp))
    intro property hproperty
    obtain ⟨hkey, hvalue⟩ := Document.forall_mem_pieces_iff.1 hpieces property hproperty
    exact ⟨hkey, ih property hproperty hvalue⟩
  induction value using Declared.rec' with
  | primitive kind rules =>
    rw [pieces] at h
    rw [text]
    exact append _ _ (name kind) (hrules rules h)
  | primitiveArray kind rules =>
    rw [pieces] at h
    rw [text]
    exact append _ _ (append _ _ (name kind) (marks "[]" (by simp))) (hrules rules h)
  | object properties ih =>
    rw [pieces] at h
    rw [text]
    exact hobject properties ih h
  | objectArray properties ih =>
    rw [pieces] at h
    rw [text]
    unfold objectArrayText
    exact append _ _ (marks "Array<" (by simp))
      (append _ _ (hobject properties ih h) (marks ">" (by simp)))

/-- The pieces of the objects in a value are pieces of the value. -/
theorem forall_pieces_of_mem_objects {p : Text → Prop} {value : Declared} {object : Document}
    (h : ∀ piece ∈ value.pieces, p piece) (hobject : object ∈ value.objects) :
    ∀ piece ∈ object.pieces, p piece := by
  have hinside (properties : Document)
      (ih : ∀ property ∈ properties, (∀ piece ∈ property.2.pieces, p piece) →
        object ∈ property.2.objects → ∀ piece ∈ object.pieces, p piece)
      (hpieces : ∀ piece ∈ properties.pieces, p piece)
      (hmem : object ∈ properties :: properties.innerObjects) :
      ∀ piece ∈ object.pieces, p piece := by
    rcases List.mem_cons.1 hmem with rfl | hbelow
    · exact hpieces
    · obtain ⟨property, hproperty, hmem⟩ := Document.mem_innerObjects_iff.1 hbelow
      have hvalue := (Document.forall_mem_pieces_iff.1 hpieces property hproperty).2
      exact ih property hproperty hvalue hmem
  induction value using Declared.rec' with
  | primitive kind rules => simp [objects] at hobject
  | primitiveArray kind rules => simp [objects] at hobject
  | object properties ih =>
    rw [pieces] at h
    rw [objects] at hobject
    exact hinside properties ih h hobject
  | objectArray properties ih =>
    rw [pieces] at h
    rw [objects] at hobject
    exact hinside properties ih h hobject

end Declared

namespace Document

/-- What holds of the pieces of a document holds of the text of every property in it, if it is kept
by the ways in which texts are put together. -/
theorem segments_induction {p : Text → Prop} {doc object : Document}
    (append : ∀ s t, p s → p t → p (s ++ t))
    (braced : ∀ texts : List Text, (∀ text ∈ texts, p text) → p (objectText texts))
    (name : ∀ kind : Primitive, p kind.name)
    (marks : ∀ mark ∈ ["", ":", "[]", "Array<", "<", ">"], p mark.toList)
    (h : ∀ piece ∈ doc.pieces, p piece) (hobject : object ∈ doc.objects) :
    ∀ segment ∈ object.segments, p segment := by
  have hpieces : ∀ piece ∈ object.pieces, p piece := by
    apply @Declared.forall_pieces_of_mem_objects p (.object doc) object
    · rwa [Declared.pieces]
    · rwa [Declared.objects]
  apply forall_mem_segments append (marks ":" (by simp))
  intro property hproperty
  obtain ⟨hkey, hvalue⟩ := forall_mem_pieces_iff.1 hpieces property hproperty
  exact ⟨hkey, Declared.text_induction append braced name marks hvalue⟩

end Document

end DocShape
