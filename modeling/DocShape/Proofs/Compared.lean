import DocShape.Proofs.Level

/-!
# Two runs of the parser compared

Two runs differ in how deep they may go or in what repeated keys mean to them. The first one follows
the second when both fail alike or both read something, and what they read is related (`Follows`);
a failure of the first run may also be of a kind that is excused, and then nothing is said about the
second.

One level carries this from the parsers of the inner objects to the parsers of the object, as long
as the kind of failure that is excused does not depend on the path to it (`Excuse`) and the two
policies follow each other on related properties (`Follows.objectWith`). Everything that compares
two runs is a case of this.

Relation: one level, with the parsers of the inner objects as parameters.
-/

set_option autoImplicit false

namespace DocShape

/-- The failure that an answer is, if it is one. -/
def failure? {α : Type} : Parsed α → Option Failure
  | .ok _ => none
  | .error failure => some failure

theorem failure?_eq_some_iff {α : Type} {answer : Parsed α} {failure : Failure} :
    failure? answer = some failure ↔ answer = .error failure := by
  cases answer <;> simp [failure?]

/-- A kind of failure that can be told without the path to it. -/
structure Excuse where
  excuses : Failure → Prop
  within : ∀ {step : Step} {failure : Failure}, excuses failure → excuses (failure.within step)

/-- The excuse that nothing is excused. -/
def Excuse.never : Excuse where
  excuses := fun _ => False
  within := fun h => h

/-- The first answer follows the second: they fail alike, or what they read is related, or the first
one fails and is excused. -/
inductive Follows {α β : Type} (excuse : Excuse) (related : α → β → Prop) :
    Parsed α → Parsed β → Prop
  | excused {failure : Failure} {answer : Parsed β} :
      excuse.excuses failure → Follows excuse related (.error failure) answer
  | failed (failure : Failure) : Follows excuse related (.error failure) (.error failure)
  | read {a : α} {b : β} : related a b → Follows excuse related (.ok a) (.ok b)

namespace Follows

variable {excuse : Excuse}

/-- Every answer follows itself. -/
theorem refl {α : Type} (answer : Parsed α) : Follows excuse (· = ·) answer answer := by
  cases answer with
  | error failure => exact .failed failure
  | ok a => exact .read rfl

/-- Answers that are followed exactly are the same, unless there is an excuse. -/
theorem excused_or_eq {α : Type} {short long : Parsed α} (h : Follows excuse (· = ·) short long) :
    (∃ failure, excuse.excuses failure ∧ short = .error failure) ∨ short = long := by
  cases h with
  | excused hexcuse => exact Or.inl ⟨_, hexcuse, rfl⟩
  | failed failure => exact Or.inr rfl
  | read hread =>
    subst hread
    exact Or.inr rfl

theorem imp {α β : Type} {related related' : α → β → Prop} {short : Parsed α} {long : Parsed β}
    (himp : ∀ a b, related a b → related' a b) (h : Follows excuse related short long) :
    Follows excuse related' short long := by
  cases h with
  | excused hexcuse => exact .excused hexcuse
  | failed failure => exact .failed failure
  | read hread => exact .read (himp _ _ hread)

theorem map {α β γ δ : Type} {related : α → β → Prop} {related' : γ → δ → Prop} {f : α → γ}
    {g : β → δ} {short : Parsed α} {long : Parsed β}
    (hfg : ∀ a b, related a b → related' (f a) (g b)) (h : Follows excuse related short long) :
    Follows excuse related' (short.map f) (long.map g) := by
  cases h with
  | excused hexcuse => exact .excused hexcuse
  | failed failure => exact .failed failure
  | read hread => exact .read (hfg _ _ hread)

theorem inside {α β : Type} {related : α → β → Prop} {short : Parsed α} {long : Parsed β}
    (step : Step) (h : Follows excuse related short long) :
    Follows excuse related (DocShape.inside step short) (DocShape.inside step long) := by
  cases h with
  | excused hexcuse => exact .excused (excuse.within hexcuse)
  | failed failure => exact .failed (failure.within step)
  | read hread => exact .read hread

/-! ## One level

What the two runs read is compared by a relation of schemas and one of shapes. The shapes of the
objects that were read have to be related wherever the objects are, and a shape without an object is
read alike by both runs. -/

variable {schemas : Schema → Schema → Prop} {shapes : Shape → Shape → Prop}
  {nested nested' : Text → Parsed Schema}

theorem valueWith (hself : ∀ shape, shapes shape shape)
    (hobject : ∀ schema schema', schemas schema schema' → shapes (.object schema) (.object schema'))
    (hobjects : ∀ schema schema', schemas schema schema' →
      shapes (.array (.object schema)) (.array (.object schema')))
    (hnested : ∀ text, Follows excuse schemas (nested text) (nested' text)) (raw : Text) :
    Follows excuse shapes (DocShape.valueWith nested raw) (DocShape.valueWith nested' raw) := by
  have hself (answer : Parsed Shape) : Follows excuse shapes answer answer := by
    cases answer with
    | error failure => exact .failed failure
    | ok shape => exact .read (hself shape)
  rw [DocShape.valueWith, DocShape.valueWith]
  cases ValueForm.ofText raw with
  | objects text => exact (hnested text).map hobjects
  | object text => exact (hnested text).map hobject
  | primitives token => exact hself _
  | primitive token => exact hself _

theorem entryWith
    (hvalue : ∀ raw,
      Follows excuse shapes (DocShape.valueWith nested raw) (DocShape.valueWith nested' raw))
    (segment : Text) :
    Follows excuse (fun entry entry' => entry.1 = entry'.1 ∧ shapes entry.2 entry'.2)
      (DocShape.entryWith nested segment) (DocShape.entryWith nested' segment) := by
  rw [DocShape.entryWith, DocShape.entryWith]
  cases parseProperty segment with
  | error failure => exact .failed failure
  | ok parts =>
    apply ((hvalue parts.2).inside (.valueOf parts.1)).map
    intro shape shape' hshape
    exact ⟨rfl, hshape⟩

/-- Both runs go through the properties from the first one on and stop at the same one. -/
theorem entriesWith
    (hvalue : ∀ raw,
      Follows excuse shapes (DocShape.valueWith nested raw) (DocShape.valueWith nested' raw))
    (segments : List Text) :
    Follows excuse
      (List.Forall₂ fun entry entry' => entry.1 = entry'.1 ∧ shapes entry.2 entry'.2)
      (DocShape.entriesWith nested segments) (DocShape.entriesWith nested' segments) := by
  induction segments with
  | nil => exact .read .nil
  | cons segment segments ih =>
    have hentry := (entryWith hvalue (Text.trim segment)).inside (.property (Text.trim segment))
    rw [DocShape.entriesWith, DocShape.entriesWith]
    generalize DocShape.inside (.property (Text.trim segment))
      (DocShape.entryWith nested (Text.trim segment)) = short at hentry ⊢
    generalize DocShape.inside (.property (Text.trim segment))
      (DocShape.entryWith nested' (Text.trim segment)) = long at hentry ⊢
    cases hentry with
    | excused hexcuse => exact .excused hexcuse
    | failed failure => exact .failed failure
    | read hread =>
      apply ih.map
      intro entries entries' hentries
      exact .cons hread hentries

/-- One level: the objects follow each other if those inside them and the merged properties do. -/
theorem objectWith {policy policy' : KeyPolicy}
    (hvalue : ∀ raw,
      Follows excuse shapes (DocShape.valueWith nested raw) (DocShape.valueWith nested' raw))
    (hmerge : ∀ entries entries' : Schema,
      List.Forall₂ (fun entry entry' => entry.1 = entry'.1 ∧ shapes entry.2 entry'.2)
        entries entries' →
        Follows excuse schemas (mergeEntries policy entries) (mergeEntries policy' entries'))
    (text : Text) :
    Follows excuse schemas (DocShape.objectWith policy nested text)
      (DocShape.objectWith policy' nested' text) := by
  rw [DocShape.objectWith, DocShape.objectWith]
  cases Brace.interior? text with
  | none => exact .failed _
  | some content =>
    have hentries := entriesWith hvalue (Brace.segments content)
    dsimp only
    generalize DocShape.entriesWith nested (Brace.segments content) = short at hentries ⊢
    generalize DocShape.entriesWith nested' (Brace.segments content) = long at hentries ⊢
    cases hentries with
    | excused hexcuse => exact .excused hexcuse
    | failed failure => exact .failed failure
    | read hread => exact hmerge _ _ hread

end Follows

/-- All levels: two runs with the same limit follow each other if every level carries that over from
the objects inside. -/
theorem Follows.parseObject {excuse : Excuse} {schemas : Schema → Schema → Prop}
    {policy policy' : KeyPolicy}
    (hlevel : ∀ nested nested' : Text → Parsed Schema,
      (∀ text, Follows excuse schemas (nested text) (nested' text)) →
        ∀ text, Follows excuse schemas (DocShape.objectWith policy nested text)
          (DocShape.objectWith policy' nested' text))
    (limit : Nat) (text : Text) :
    Follows excuse schemas (DocShape.parseObject policy limit text)
      (DocShape.parseObject policy' limit text) := by
  induction limit generalizing text with
  | zero =>
    rw [parseObject_eq_objectWith, parseObject_eq_objectWith]
    apply hlevel
    intro inner
    exact .failed .tooDeep
  | succ limit ih =>
    rw [parseObject_eq_objectWith, parseObject_eq_objectWith]
    exact hlevel _ _ ih text

/-- Properties that are related by equality are the same. -/
theorem eq_of_forall₂_entries {entries entries' : Schema}
    (h : List.Forall₂ (fun entry entry' => entry.1 = entry'.1 ∧ entry.2 = entry'.2)
      entries entries') : entries = entries' := by
  induction h with
  | nil => rfl
  | cons hentry _ ih => rw [ih, Prod.ext hentry.1 hentry.2]

/-! ## Runs that read the same -/

namespace Follows

variable {excuse : Excuse} {nested nested' : Text → Parsed Schema}

theorem valueWith_eq (hnested : ∀ text, Follows excuse (· = ·) (nested text) (nested' text))
    (raw : Text) :
    Follows excuse (· = ·) (DocShape.valueWith nested raw) (DocShape.valueWith nested' raw) := by
  refine valueWith ?_ ?_ ?_ hnested raw
  · intro shape
    rfl
  · rintro schema _ rfl
    rfl
  · rintro schema _ rfl
    rfl

theorem entryWith_eq (hnested : ∀ text, Follows excuse (· = ·) (nested text) (nested' text))
    (segment : Text) :
    Follows excuse (· = ·) (DocShape.entryWith nested segment)
      (DocShape.entryWith nested' segment) := by
  apply (entryWith (valueWith_eq hnested) segment).imp
  intro entry entry' hentry
  exact Prod.ext hentry.1 hentry.2

/-- One level of two runs that read the same: only merging may differ. -/
theorem objectWith_eq {policy policy' : KeyPolicy}
    (hnested : ∀ text, Follows excuse (· = ·) (nested text) (nested' text))
    (hmerge : ∀ entries : Schema,
      Follows excuse (· = ·) (mergeEntries policy entries) (mergeEntries policy' entries))
    (text : Text) :
    Follows excuse (· = ·) (DocShape.objectWith policy nested text)
      (DocShape.objectWith policy' nested' text) := by
  apply objectWith (valueWith_eq hnested)
  intro entries entries' hentries
  obtain rfl := eq_of_forall₂_entries hentries
  exact hmerge entries

end Follows

/-! ## How deep a run may go -/

/-- The excuse that no level is left. -/
def Excuse.tooDeep : Excuse where
  excuses := fun failure => failure = .tooDeep
  within := by
    rintro step _ rfl
    rfl

/-- A limit only cuts off: with fewer levels the objects inside an object are answered as with more
of them, unless no level is left. -/
theorem innerParser_follows {policy : KeyPolicy} {limit limit' : Nat} (h : limit ≤ limit')
    (text : Text) :
    Follows Excuse.tooDeep (· = ·) (innerParser policy limit text)
      (innerParser policy limit' text) := by
  induction limit generalizing limit' text with
  | zero =>
    -- Without a level left, the objects inside are not looked at.
    exact .excused rfl
  | succ limit ih =>
    cases limit' with
    | zero => omega
    | succ limit' =>
      rw [innerParser, innerParser, parseObject_eq_objectWith, parseObject_eq_objectWith]
      apply Follows.objectWith_eq
      · intro inner
        exact ih (Nat.le_of_succ_le_succ h) inner
      · intro entries
        exact .refl _

/-- What is rejected with some number of levels is not read with any other. -/
theorem entryWith_ne_ok_of_rejected {policy : KeyPolicy} {limit : Nat} {segment : Text}
    {path : List Step} {cause : Cause}
    (h : entryWith (innerParser policy limit) segment = .error (.rejected path cause))
    (limit' : Nat) (entry : Text × Shape) :
    entryWith (innerParser policy limit') segment ≠ .ok entry := by
  intro hread
  have hfollows {less more : Nat} (hle : less ≤ more) :
      Follows Excuse.tooDeep (· = ·) (entryWith (innerParser policy less) segment)
        (entryWith (innerParser policy more) segment) :=
    Follows.entryWith_eq (innerParser_follows hle) segment
  rcases Nat.le_total limit limit' with hle | hle
  · have := hfollows hle
    rw [h, hread] at this
    cases this with
    | excused hexcuse => cases hexcuse
  · have := hfollows hle
    rw [h, hread] at this
    cases this

end DocShape
