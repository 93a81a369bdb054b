import AnchorLint.Text.Case

/-!
# Link targets

A link target is classified by its shape alone: an address with a scheme, an
absolute path, a relative path to a file, or something that may be an anchor of
the same page.  The part behind the first `#` is the fragment and plays no
role in the classification.
-/

namespace AnchorLint

/-- What a link target points at, as far as its shape tells. -/
inductive LinkKind where
  | external
  | absolutePath
  | crossFile
  | ambiguousLocal
deriving DecidableEq

def LinkKind.name : LinkKind → Text
  | external => "external".toList
  | absolutePath => "absolute-path".toList
  | crossFile => "cross-file".toList
  | ambiguousLocal => "ambiguous-local".toList

def LinkKind.parse? (name : Text) : Option LinkKind :=
  [external, absolutePath, crossFile, ambiguousLocal].find? fun kind =>
    kind.name == name

/-- The verdict on a target: its kind, and the path to follow if it leads to a
file. -/
structure Classification where
  kind : LinkKind
  path : Option Text := none
deriving DecidableEq

namespace Target

/-- The part of a target before the first `#`, and the part behind it. -/
def splitFragment (target : Text) : Text × Option Text :=
  Text.splitFirst (· == '#') target

/-- The schemes that need no `//` behind them. -/
def externalSchemes : List Text :=
  [ "http:".toList, "https:".toList, "ftp:".toList, "ftps:".toList,
    "mailto:".toList, "file:".toList ]

/-- Whether a character may stand in a scheme behind its first letter. -/
def isSchemeCharacter (character : Char) : Bool :=
  character.isAlphanum || character == '+' || character == '.'
    || character == '-'

def hasSchemeAddress (target : Text) : Bool :=
  match target with
  | first :: rest =>
    first.isAlpha &&
      Text.startsWith (rest.dropWhile isSchemeCharacter) [':', '/', '/']
  | [] => false

def hasDrive (path : Text) : Bool :=
  match path with
  | letter :: ':' :: separator :: _ =>
    letter.isAlpha && (separator == '\\' || separator == '/')
  | _ => false

/-- Whether a path is anchored outside the directory of its document. -/
def isAbsolute (path : Text) : Bool :=
  Text.startsWith path ['/'] || Text.startsWith path ['\\', '\\']
    || hasDrive path

/-- Whether a text looks like a file name extension: up to ten ASCII letters
and digits, the first of them a letter.  One line feed may follow. -/
def isExtension (text : Text) : Bool :=
  let text := if text.getLast? = some '\n' then text.dropLast else text
  match text with
  | first :: rest =>
    first.isAlpha && rest.length ≤ 9 && rest.all Char.isAlphanum
  | [] => false

/-- The part of a path behind its last separator. -/
def lastSegment (path : Text) : Text :=
  Text.takeEndWhile (fun c => c != '/' && c != '\\') path

/-- The part of a segment behind its last dot. -/
def extension (segment : Text) : Text :=
  Text.takeEndWhile (· != '.') segment

/-- Decides what a target, without its fragment, points at. -/
def classify (target : Text) : Classification :=
  let target := Text.trim target
  if externalSchemes.any (Text.startsWith (Text.lower target)) then
    ⟨.external, none⟩
  else if hasSchemeAddress target then ⟨.external, none⟩
  else if target.isEmpty then ⟨.ambiguousLocal, none⟩
  else
    let path := target.takeWhile (· != '?')
    if isAbsolute path then ⟨.absolutePath, some path⟩
    else
      let segment := lastSegment path
      if !segment.contains '.' then ⟨.ambiguousLocal, none⟩
      else if isExtension (extension segment) then ⟨.crossFile, some path⟩
      else if Text.endsWith segment ['.'] then ⟨.ambiguousLocal, none⟩
      else ⟨.crossFile, some path⟩

end Target

end AnchorLint
