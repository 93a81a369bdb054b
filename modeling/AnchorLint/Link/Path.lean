import AnchorLint.Link.Target
import AnchorLint.Text.Percent

/-!
# Document paths

Documents are identified by normalized paths: separators are slashes, and
there are no empty, `.` or `..` segments.  A `..` that would climb above the
first segment is dropped.
-/

namespace AnchorLint

namespace Path

/-- The path with slashes as its only separators. -/
def unifySeparators (path : Text) : Text :=
  path.map fun c => if c = '\\' then '/' else c

def segments (path : Text) : List Text :=
  Text.splitAt (· == '/') path

/-- The segments that remain once `.` and `..` are carried out; `stack` holds
the segments so far, last first. -/
def resolve (stack : List Text) : List Text → List Text
  | [] => stack.reverse
  | segment :: rest =>
    if segment = [] ∨ segment = ['.'] then resolve stack rest
    else if segment = ['.', '.'] then resolve stack.tail rest
    else resolve (segment :: stack) rest

def normalize (path : Text) : Text :=
  let path := unifySeparators path
  let joined := Text.join ['/'] (resolve [] (segments path))
  if Text.startsWith path ['/'] then '/' :: joined else joined

/-- The directory part of a path: everything before its last slash, without
the slashes at the end unless nothing else is left. -/
def directory (path : Text) : Text :=
  let head := Text.dropEndWhile (· != '/') path
  if head.all (· == '/') then head else Text.dropEndWhile (· == '/') head

/-- The path that `target` names for a reader in the directory `base`. -/
def append (base target : Text) : Text :=
  if Text.startsWith target ['/'] then target
  else if base.isEmpty ∨ Text.endsWith base ['/'] then base ++ target
  else base ++ '/' :: target

/-- The normalized path that `target` names for a reader of `source`. -/
def resolveRelative (source target : Text) : Text :=
  let target := unifySeparators target
  if Text.startsWith target ['/'] then normalize target
  else normalize (append (directory (unifySeparators source)) target)

/-- The document that a link leads to.  Absolute paths start at the root of
the workspace; paths on a drive or a network share lead to no document. -/
def resolveTarget (source : Text) (kind : LinkKind) (path : Option Text) :
    Text :=
  let target := Percent.decodeLossy (path.getD [])
  if kind = .absolutePath then
    let normalized := normalize target
    let relative := normalized.dropWhile (· == '/')
    if Text.startsWith (unifySeparators target) ['/', '/']
        ∨ (normalized.drop 1).head? = some ':' then
      '/' :: '/' :: relative
    else relative
  else resolveRelative source target

end Path

end AnchorLint
