import AnchorLint.Data.Value
import AnchorLint.FileTree.Path
import AnchorLint.Text.Quoted
import AnchorLint.Text.Utf8

/-!
# File trees

The files and directories that a run can see.  A tree maps the segments of
absolute paths to files and directories, and knows the directory in which
relative paths start.  Paths are followed step by step, and every step leads
from a directory.  Names have a greatest length, and so have whole paths.  There
are no symbolic links, so a file has one place only.
-/

namespace AnchorLint

inductive FileNode where
  | directory
  | file (content : Bytes)
deriving DecidableEq

def FileNode.isFile : FileNode → Bool
  | .file _ => true
  | .directory => false

inductive FileError where
  | notFound
  | notDirectory
  | isDirectory
  | alreadyExists
  | nameTooLong
  /-- No path of the file system holds the character with the number zero. -/
  | impossibleName
deriving DecidableEq

def FileError.message (error : FileError) (path : FilePath) : Text :=
  let about (reason : String) : Text :=
    reason.toList ++ Quoted.ofText path.write
  match error with
  | notFound => about "[Errno 2] No such file or directory: "
  | notDirectory => about "[Errno 20] Not a directory: "
  | isDirectory => about "[Errno 21] Is a directory: "
  | alreadyExists => about "[Errno 17] File exists: "
  | nameTooLong => about "[Errno 36] File name too long: "
  | impossibleName => "embedded null byte".toList

/-- An operation that failed, with the path it was meant for. -/
structure FileFault where
  path : FilePath
  error : FileError
deriving DecidableEq

def FileFault.message (fault : FileFault) : Text :=
  fault.error.message fault.path

/-- The files and directories by the segments of their paths. -/
structure FileTree where
  nodes : Entries (List Text) FileNode := []
  workingDirectory : List Text := []

namespace FileTree

def climb : Text := ['.', '.']

/-- What stands at given segments.  The root is always a directory. -/
def nodeAt? (tree : FileTree) (segments : List Text) : Option FileNode :=
  if segments.isEmpty then some .directory else tree.nodes.lookup segments

/-- Where a path starts. -/
def start (tree : FileTree) (path : FilePath) : List Text :=
  if path.isAbsolute then [] else tree.workingDirectory

/-- A name has at most this many bytes. -/
def nameLimit : Nat := 255

/-- A whole path has fewer bytes than this. -/
def pathLimit : Nat := 4096

/-- Follows segments from a place.  Every step leads from a directory; the
last place need not exist. -/
def follow (tree : FileTree) : (place : List Text) → List Text →
    Except FileError (List Text)
  | place, [] => .ok place
  | place, part :: parts =>
    match tree.nodeAt? place with
    | none => .error .notFound
    | some (.file _) => .error .notDirectory
    | some .directory =>
      if nameLimit < (Utf8.encode part).length then .error .nameTooLong
      else
        follow tree (if part = climb then place.dropLast else place ++ [part])
          parts

def isPossible (path : FilePath) : Bool :=
  !path.write.contains (Char.ofNat 0)

def locate (tree : FileTree) (path : FilePath) :
    Except FileError (List Text) :=
  if !isPossible path then .error .impossibleName
  else if pathLimit ≤ (Utf8.encode path.write).length then .error .nameTooLong
  else tree.follow (tree.start path) path.parts

/-- What stands at a path.  There is nothing at a path that leads nowhere, but
a name that is too long cannot be asked about. -/
def node? (tree : FileTree) (path : FilePath) :
    Except FileFault (Option FileNode) :=
  match tree.locate path with
  | .ok place => .ok (tree.nodeAt? place)
  | .error .nameTooLong => .error ⟨path, .nameTooLong⟩
  | .error _ => .ok none

def contains (tree : FileTree) (path : FilePath) : Except FileFault Bool :=
  (tree.node? path).map Option.isSome

def isDirectory (tree : FileTree) (path : FilePath) : Except FileFault Bool :=
  (tree.node? path).map (· == some .directory)

def isFile (tree : FileTree) (path : FilePath) : Except FileFault Bool :=
  (tree.node? path).map fun node => node.any FileNode.isFile

def read (tree : FileTree) (path : FilePath) : Except FileError Bytes := do
  let place ← tree.locate path
  match tree.nodeAt? place with
  | none => .error .notFound
  | some .directory => .error .isDirectory
  | some (.file content) => .ok content

def put (tree : FileTree) (place : List Text) (node : FileNode) : FileTree :=
  { tree with nodes := Entries.put tree.nodes place node }

/-- Writes the file at a path, in a directory that exists. -/
def write (tree : FileTree) (path : FilePath) (content : Bytes) :
    Except FileError FileTree := do
  let place ← tree.locate path
  match tree.nodeAt? place with
  | some .directory => .error .isDirectory
  | _ => .ok (tree.put place (.file content))

def erase (tree : FileTree) (place : List Text) : FileTree :=
  { tree with nodes := tree.nodes.filter fun entry => entry.1 != place }

def delete (tree : FileTree) (path : FilePath) : Except FileError FileTree := do
  let place ← tree.locate path
  match tree.nodeAt? place with
  | none => .error .notFound
  | some .directory => .error .isDirectory
  | some (.file _) => .ok (tree.erase place)

/-- Moves the file at one path to another, where a file may be replaced. -/
def rename (tree : FileTree) (old new : FilePath) :
    Except FileError FileTree := do
  let content ← tree.read old
  let moved ← tree.delete old
  moved.write new content

/-- Makes one directory in a directory that exists. -/
def makeDirectory (tree : FileTree) (path : FilePath) :
    Except FileError FileTree := do
  let place ← tree.locate path
  match tree.nodeAt? place with
  | some _ => .error .alreadyExists
  | none => .ok (tree.put place .directory)

/-- What an attempt to make the directory at a path comes to.  A directory that
exists already is as good as a new one. -/
def settleDirectory (tree : FileTree) (path : FilePath)
    (attempt : Except FileError FileTree) :
    Except FileFault Unit × FileTree :=
  match attempt with
  | .ok made => (.ok (), made)
  | .error error =>
    match tree.isDirectory path with
    | .ok true => (.ok (), tree)
    | _ => (.error ⟨path, error⟩, tree)

/-- Makes the directory with a given root and the segments before it in reverse
order, after those on the way to it if they are missing.  Directories that were
made stay, whatever fails later. -/
def makeAlong (tree : FileTree) (root : Text) :
    (reversed : List Text) → Except FileFault Unit × FileTree
  | [] => (.ok (), tree)
  | part :: parts =>
    let path : FilePath := ⟨root, (part :: parts).reverse⟩
    match tree.makeDirectory path with
    | .error .notFound =>
      match makeAlong tree root parts with
      | (.ok (), tree) =>
        tree.settleDirectory path (tree.makeDirectory path)
      | failed => failed
    | attempt => tree.settleDirectory path attempt

/-- Makes the directory at a path and those on the way to it. -/
def makeDirectories (tree : FileTree) (path : FilePath) :
    Except FileFault Unit × FileTree :=
  tree.makeAlong path.root path.parts.reverse

/-- The absolute segments of a path, with climbing segments carried out
whatever exists. -/
def resolve (tree : FileTree) (path : FilePath) : List Text :=
  path.parts.foldl (fun place part =>
    if part = climb then place.dropLast else place ++ [part])
    (tree.start path)

/-- The paths below a directory, relative to it. -/
def below (tree : FileTree) (place : List Text) : List (List Text × FileNode) :=
  tree.nodes.filterMap fun entry =>
    match place.isPrefixOf? entry.1 with
    | some (part :: parts) => some (part :: parts, entry.2)
    | _ => none

end FileTree

end AnchorLint
