import DocShape.Text.Identifier

/-!
# Names of record fields

A record type has a field for each property of a schema. A key that is fit for an attribute is the
name of its field; from any other key a name is made of the words in it. A record type for an object
inside a record is named after the record and the key.
-/

set_option autoImplicit false

namespace DocShape.Record

/-- The reserved words of the language the records are used in. -/
def reservedWords : List Text :=
  ["False", "None", "True", "and", "as", "assert", "async", "await", "break", "class", "continue",
   "def", "del", "elif", "else", "except", "finally", "for", "from", "global", "if", "import", "in",
   "is", "lambda", "nonlocal", "not", "or", "pass", "raise", "return", "try", "while", "with",
   "yield"].map String.toList

/-- The attributes every record has, apart from those that begin with `model_` or an underscore. -/
def ownAttributes : List Text :=
  ["construct", "copy", "dict", "from_orm", "json", "mro", "parse_file", "parse_obj", "parse_raw",
   "register", "schema", "schema_json", "update_forward_refs", "validate"].map String.toList

/-- Whether a text can be the name of a field: an identifier that is no reserved word, belongs to no
attribute every record has, and begins neither with an underscore nor with `model_`. -/
def isFieldName (text : Text) : Bool :=
  Text.isIdentifier text && !reservedWords.contains text && !ownAttributes.contains text &&
    !(['_'] : Text).isPrefixOf text && !"model_".toList.isPrefixOf text

/-- Whether a character belongs to a word. -/
def isWordChar (c : Char) : Bool := c.isAlphanum

/-- The longest runs of ASCII letters and digits; the first argument is the run under way. -/
def wordsFrom (run : Text) : Text → List Text
  | [] => if run.isEmpty then [] else [run]
  | c :: text =>
      if isWordChar c then wordsFrom (run ++ [c]) text
      else if run.isEmpty then wordsFrom [] text
      else run :: wordsFrom [] text

/-- The words of a text: its longest runs of ASCII letters and digits. -/
def words (text : Text) : List Text := wordsFrom [] text

/-- What the name of a field begins with when the key is not fit for one. -/
def madeUp : Text := "field_".toList

/-- The name of the field for a key, as long as no other field has it. -/
def fieldName (key : Text) : Text :=
  if isFieldName key then key else madeUp ++ Text.joinWith ['_'] ((words key).map Text.lower)

/-- A word with its first letter in upper case. -/
def capitalised : Text → Text
  | [] => []
  | c :: text => c.toUpper :: text

/-- The words of a key as one name. -/
def typeName (key : Text) : Text := (words key).flatMap capitalised

/-- The first of a name and the name with underscores behind it that is not taken. One unit of fuel
is spent for each underscore, and as many as there are taken names are enough. -/
def freshName (taken : List Text) : (fuel : Nat) → Text → Text
  | 0, name => name
  | fuel + 1, name => if taken.contains name then freshName taken fuel (name ++ ['_']) else name

end DocShape.Record
