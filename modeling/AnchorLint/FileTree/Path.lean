import AnchorLint.Text.Basic

/-!
# File paths

The path of a file or directory as the user wrote it, except that empty and
`.` segments are left out.  Segments that climb are kept, because where they
lead depends on the directories that exist.
-/

namespace AnchorLint

/-- A file path.  The root is empty for relative paths, and one slash or
exactly two slashes for absolute ones. -/
structure FilePath where
  root : Text := []
  parts : List Text := []
deriving DecidableEq

namespace FilePath

def rootOf (text : Text) : Text :=
  match (text.takeWhile (· == '/')).length with
  | 0 => []
  | 2 => ['/', '/']
  | _ => ['/']

def parse (text : Text) : FilePath :=
  { root := rootOf text
    parts := (Text.fields (· == '/') text).filter (· != ['.']) }

def write (path : FilePath) : Text :=
  if path.root.isEmpty ∧ path.parts.isEmpty then ['.']
  else path.root ++ Text.join ['/'] path.parts

def isAbsolute (path : FilePath) : Bool :=
  !path.root.isEmpty

/-- The path that `path` names in the directory `base`. -/
def append (base path : FilePath) : FilePath :=
  if path.isAbsolute then path
  else { base with parts := base.parts ++ path.parts }

/-- The last segment, or nothing for a root. -/
def name (path : FilePath) : Text :=
  path.parts.getLast?.getD []

def segments (path : FilePath) : List Text :=
  if path.root.isEmpty then path.parts else path.root :: path.parts

def ofSegments (segments : List Text) : FilePath :=
  ⟨['/'], segments⟩

def le (first second : FilePath) : Bool :=
  !decide (second.segments < first.segments)

def sort (paths : List FilePath) : List FilePath :=
  paths.mergeSort le

/-- Adds a path to several unless it is among them. -/
def insertInto (path : FilePath) (paths : List FilePath) : List FilePath :=
  if paths.contains path then paths else paths ++ [path]

end FilePath

end AnchorLint
