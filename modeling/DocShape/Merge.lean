import DocShape.Text.Basic

/-!
# Merging keyed entries

An object may be declared with a key more than once. A policy says what that means: the last
declaration counts, the first one does, or the repetition is an error. Keys keep the place of their
first occurrence under every policy.
-/

set_option autoImplicit false

universe u

namespace DocShape

/-- What a repeated key means. -/
inductive KeyPolicy where
  | last
  | first
  | error
deriving DecidableEq

namespace KeyPolicy

/-- The policies in the order in which messages list them. -/
def all : List KeyPolicy := [.last, .first, .error]

/-- The name of a policy. -/
def name : KeyPolicy → Text
  | .last => "last".toList
  | .first => "first".toList
  | .error => "error".toList

/-- The policy with exactly the given name. -/
def ofExactName? (text : Text) : Option KeyPolicy := all.find? fun policy => policy.name = text

/-- The policy with the given name, upper and lower case alike. No letter outside ASCII has a lower
case inside it that a policy's name uses, so the ASCII letters are all that matter. -/
def ofName? (text : Text) : Option KeyPolicy := ofExactName? (Text.lower text)

/-- The message for a name no policy has. -/
def unknownMessage (text : Text) : Text :=
  "Unknown duplicate key policy: ".toList ++ text ++ " (expected one of: ".toList ++
    Text.joinWith ", ".toList (all.map name) ++ ")".toList

end KeyPolicy

variable {α : Type u}

/-- The entries with the value of `key` replaced where the key stands, or the new entry at the end
where it does not. -/
def upsert (key : Text) (value : α) : List (Text × α) → List (Text × α)
  | [] => [(key, value)]
  | (k, v) :: entries =>
      if k = key then (key, value) :: entries else (k, v) :: upsert key value entries

/-- The entries of `pairs` merged into `merged` one after the other; the answer under the error
policy may be the first key that is met again. -/
def mergeInto (policy : KeyPolicy) (merged : List (Text × α)) :
    List (Text × α) → Except Text (List (Text × α))
  | [] => .ok merged
  | (key, value) :: pairs =>
      if (merged.lookup key).isSome then
        match policy with
        | .error => .error key
        | .first => mergeInto policy merged pairs
        | .last => mergeInto policy (upsert key value merged) pairs
      else mergeInto policy (merged ++ [(key, value)]) pairs

/-- The entries with each key once. -/
def merge (policy : KeyPolicy) (pairs : List (Text × α)) : Except Text (List (Text × α)) :=
  mergeInto policy [] pairs

/-- The entries with each key once, the last value of a key at its first place. -/
def lastOfEach (pairs : List (Text × α)) : List (Text × α) :=
  pairs.foldl (fun merged (key, value) => upsert key value merged) []

end DocShape
