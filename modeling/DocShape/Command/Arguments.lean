import DocShape.Text.Basic

/-!
# Command-line arguments

Arguments are options and other words. A long option begins with two dashes and may have its value
behind an equals sign; short options are single letters behind one dash, several in one argument,
and a value may stand right behind its letter. An option that takes a value takes the next argument
otherwise, whatever it is. Two dashes alone end the options.
-/

set_option autoImplicit false

namespace DocShape.Command

/-- An option a command knows. -/
structure OptionSpec where
  long : Text
  short : Option Char
  takesValue : Bool

/-- An option as it was given: the long name, and the value if there is one. -/
structure Setting where
  name : Text
  value : Option Text

/-- The options and the other words of some arguments. -/
structure Arguments where
  settings : List Setting
  words : List Text

/-- One argument that begins with a dash: the options in it, and the name of the option at its end
that still needs a value. -/
structure Dashed where
  settings : List Setting
  pending : Option Text

/-- The letters of an argument with short options. -/
def shortOptions (specs : List OptionSpec) : Text → Option Dashed
  | [] => some ⟨[], none⟩
  | letter :: rest =>
      match specs.find? fun spec => spec.short == some letter with
      | none => none
      | some spec =>
          if spec.takesValue then
            if rest.isEmpty then some ⟨[], some spec.long⟩
            else some ⟨[⟨spec.long, some rest⟩], none⟩
          else
            (shortOptions specs rest).map fun dashed =>
              { dashed with settings := ⟨spec.long, none⟩ :: dashed.settings }

/-- An argument with a long option. -/
def longOption (specs : List OptionSpec) (argument : Text) : Option Dashed :=
  let (name, value) :=
    match Text.cutAt? '=' argument with
    | some (name, value) => (name, some value)
    | none => (argument, none)
  match specs.find? fun spec => spec.long == name with
  | none => none
  | some spec =>
      match spec.takesValue, value with
      | true, some value => some ⟨[⟨spec.long, some value⟩], none⟩
      | true, none => some ⟨[], some spec.long⟩
      | false, none => some ⟨[⟨spec.long, none⟩], none⟩
      | false, some _ => none

/-- An argument that begins with a dash. -/
def dashed (specs : List OptionSpec) : Text → Option Dashed
  | '-' :: '-' :: rest => longOption specs ('-' :: '-' :: rest)
  | '-' :: rest => shortOptions specs rest
  | _ => none

/-- Arguments put in front of others. -/
def Arguments.after (settings : List Setting) (words : List Text) (rest : Arguments) : Arguments :=
  { settings := settings ++ rest.settings, words := words ++ rest.words }

/-- Sorts arguments. Where options may not follow other words, the first other word ends them. There
is no answer when an option is not known, or lacks its value, or has one it does not take. -/
def sortArguments (specs : List OptionSpec) (mixed : Bool) : List Text → Option Arguments
  | [] => some ⟨[], []⟩
  | argument :: rest =>
      if argument = ['-', '-'] then some ⟨[], rest⟩
      else if argument.head? = some '-' ∧ 1 < argument.length then
        match dashed specs argument, rest with
        | none, _ => none
        | some ⟨settings, none⟩, rest =>
            (sortArguments specs mixed rest).map (Arguments.after settings [])
        | some ⟨_, some _⟩, [] => none
        | some ⟨settings, some name⟩, value :: rest =>
            (sortArguments specs mixed rest).map
              (Arguments.after (settings ++ [⟨name, some value⟩]) [])
      else if mixed then (sortArguments specs mixed rest).map (Arguments.after [] [argument])
      else some ⟨[], argument :: rest⟩

namespace Arguments

/-- Whether an option is given. -/
def has (arguments : Arguments) (name : String) : Bool :=
  arguments.settings.any fun setting => setting.name == name.toList

/-- The value of an option; the last one counts. -/
def value? (arguments : Arguments) (name : String) : Option Text :=
  (arguments.settings.reverse.find? fun setting => setting.name == name.toList).bind Setting.value

end Arguments

end DocShape.Command
