import DocShape.Text.Quoted

/-!
# Files a command reads

A command sees the files it may read as a list of paths with what stands under them. Other paths
may lead to them through directories, where `.` and empty parts say nothing and `..` goes back;
nothing else is known about what lies outside the directory the command runs in. A name can be too
long to be looked for. A text file is read with its line ends unified.
-/

set_option autoImplicit false

namespace DocShape.Command

/-- What stands under a name. -/
inductive Entry where
  | file (content : Text)
  | directory

/-- The files a command knows by their paths. -/
abbrev Files := List (Text × Entry)

/-- The parts of a path that say something. -/
def pathParts (path : Text) : List Text :=
  (Text.splitAll '/' path).filter fun part => !(part.isEmpty || part == ['.'])

/-- The slashes that remain at the front of a path: two are kept, more count as one. -/
def leadingSlashes (path : Text) : Text :=
  match (path.takeWhile (· == '/')).length with
  | 0 => []
  | 2 => ['/', '/']
  | _ => ['/']

/-- A path without the parts of it that say nothing. -/
def normalPath (path : Text) : Text :=
  match leadingSlashes path ++ Text.joinWith ['/'] (pathParts path) with
  | [] => ['.']
  | path => path

/-- What stands under a place, given by the parts on the way to it. A place has directories on its
way. -/
def Files.at? (files : Files) (place : List Text) : Option Entry :=
  if place.isEmpty then some .directory
  else
    match List.find? (fun (name, _) => pathParts name == place) files with
    | some (_, entry) => some entry
    | none =>
        if files.any fun (name, _) => place.isPrefixOf (pathParts name) then some .directory
        else none

/-- What looking for a path comes to. -/
inductive Lookup where
  | found (entry : Entry)
  | absent
  /-- The path or a name on its way is longer than names can be. -/
  | tooLong

/-- What looking for an entry comes to that may be there. -/
def Lookup.ofOption : Option Entry → Lookup
  | some entry => .found entry
  | none => .absent

/-- How many bytes a name takes. -/
def nameSize (name : Text) : Nat := name.foldl (fun total c => total + c.utf8Size) 0

/-- How many bytes a name in a directory may take. -/
def nameLimit : Nat := 255

/-- How many bytes a path may take. -/
def pathLimit : Nat := 4095

/-- What stands at the end of a way from a directory of which nothing is known but the directories
it lies in. -/
def outside : (parts : List Text) → Lookup
  | [] => .found .directory
  | part :: parts =>
      if part = ['.', '.'] then outside parts
      else if nameLimit < nameSize part then .tooLong
      else .absent

/-- What stands at the end of a way that begins at a place. Only a directory can be gone into. -/
def Files.walk (files : Files) (place : List Text) : (parts : List Text) → Lookup
  | [] => .ofOption (files.at? place)
  | part :: parts =>
      match files.at? place with
      | some .directory =>
          if part = ['.', '.'] then
            if place.isEmpty then outside parts else files.walk place.dropLast parts
          else if nameLimit < nameSize part then .tooLong
          else files.walk (place ++ [part]) parts
      | _ => .absent

/-- What stands under a path: what is listed under it, or what the way leads to. -/
def Files.look (files : Files) (path : Text) : Lookup :=
  if pathLimit < nameSize (normalPath path) then .tooLong
  else
    match List.find? (fun (name, _) => normalPath name == normalPath path) files with
    | some (_, entry) => .found entry
    | none =>
        if path.head? = some '/' then outside (pathParts path) else files.walk [] (pathParts path)

/-- Why a text cannot be had. -/
inductive LoadError where
  /-- A schema has to be given in one of two ways, and is given in none or both. -/
  | notOneSource
  /-- There is no file under the path of a schema. -/
  | noSchemaFile (path : Text)
  /-- A directory stands under the path. -/
  | isDirectory (path : Text)
  /-- The path cannot be looked for. -/
  | nameTooLong (path : Text)
deriving DecidableEq

/-- The message for a text that cannot be had. -/
def LoadError.message : LoadError → Text
  | .notOneSource => "Provide the schema either inline or with --file, not both".toList
  | .noSchemaFile path => "Schema file not found: ".toList ++ normalPath path
  | .isDirectory path => "[Errno 21] Is a directory: ".toList ++ Text.quoted (normalPath path)
  | .nameTooLong path => "[Errno 36] File name too long: ".toList ++ Text.quoted (normalPath path)

/-- The text of an entry under a path. -/
def Entry.text (path : Text) : Entry → Except LoadError Text
  | .file content => .ok (Text.unifyLineEnds content)
  | .directory => .error (.isDirectory path)

/-- A path and the paths on its way. -/
def wayTo (path : Text) : List Text :=
  let parts := Text.splitAll '/' path
  (List.range parts.length).map fun n => Text.joinWith ['/'] (parts.take (n + 1))

end DocShape.Command
