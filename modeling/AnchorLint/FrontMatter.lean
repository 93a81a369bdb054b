import AnchorLint.Data.Toml.Read
import AnchorLint.Data.Yaml.Read
import AnchorLint.Document.Basic

/-!
# Front matter

A document may begin with a block of data about itself, written in YAML or in
TOML depending on the line that opens it.  A block that cannot be read leaves
the document without data and is noted as an error; a block that insists on a
value that does not exist is a fault, and the document cannot be indexed.
-/

namespace AnchorLint

/-- The data of a front matter block, or what is wrong with it. -/
structure FrontMatter where
  data : List (Value × Value) := []
  error : Option FrontMatterError := none

namespace FrontMatter

/-- A value that a block insists on and that does not exist. -/
abbrev Fault := Yaml.Fault

def yamlDelimiter : Text := ['-', '-', '-']

def tomlDelimiter : Text := ['+', '+', '+']

def closersOf (delimiter : Text) : List Text :=
  if delimiter = tomlDelimiter then [tomlDelimiter]
  else [yamlDelimiter, ['.', '.', '.']]

/-- The front matter of a block that cannot be read.  What a decoder has to say
about such a block is not modelled: one text stands for all these complaints, so
blocks that cannot be read have the same error here. -/
def unreadable : FrontMatter :=
  { error := some (.unparseable "unparseable".toList) }

/-- The front matter that a value makes up; it should be a map, and may be
missing. -/
def ofValue : Value → FrontMatter
  | .null => {}
  | .map entries => { data := entries }
  | _ => { error := some .notMapping }

def decodeToml (block : Text) : Except Fault FrontMatter :=
  match Toml.read block with
  | .ok table => .ok (ofValue (.map table))
  | .error .malformed => .ok unreadable
  | .error (.integerTooLong digits) => .error (.integerTooLong digits)

def decodeYaml (block : Text) : Except Fault FrontMatter :=
  match Yaml.read block with
  | .ok value => .ok (ofValue value)
  | .error .malformed => .ok unreadable
  | .error (.fault fault) => .error fault

def decode (delimiter block : Text) : Except Fault FrontMatter :=
  if Text.isBlank block then .ok {}
  else if delimiter = tomlDelimiter then decodeToml block
  else decodeYaml block

end FrontMatter

end AnchorLint
