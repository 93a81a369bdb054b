import AnchorLint.FileTree.Basic
import AnchorLint.Log
import AnchorLint.Text.Glob

/-!
# Finding and reading documents

A storage knows which files below a root directory are documents.  Files are
identified by keys, which are their paths relative to the root.
-/

namespace AnchorLint

/-- The root directory of the documents, and the patterns of their keys. -/
structure Storage where
  root : FilePath
  includes : List Text
  excludes : List Text := []

namespace Storage

/-- The patterns of documents if none are given. -/
def standardIncludes : List Text :=
  ["**/*.md".toList, "**/*.markdown".toList]

/-- The directories that hold no documents, besides the hidden ones. -/
def skippedDirectories : List Text :=
  [ ".git".toList, ".hg".toList, ".svn".toList, "node_modules".toList,
    "__pycache__".toList ]

/-- The key of a file: its path below the root, or the path itself if it is
not below the root or cannot exist. -/
def key (storage : Storage) (tree : FileTree) (path : FilePath) : Text :=
  let parts :=
    if FileTree.isPossible path && FileTree.isPossible storage.root then
      (tree.resolve storage.root).isPrefixOf? (tree.resolve path)
    else none
  match parts with
  | some parts => FilePath.write ⟨[], parts⟩
  | none => path.write

def path (storage : Storage) (key : Text) : FilePath :=
  storage.root.append (FilePath.parse key)

/-- Whether documents are not looked for in a directory with a name. -/
def isSkipped (name : Text) : Bool :=
  skippedDirectories.contains name || Text.startsWith name ['.']

/-- Whether a file is a document. -/
def wants (storage : Storage) (tree : FileTree) (path : FilePath) : Bool :=
  let key := storage.key tree path
  !(FilePath.parse key).segments.dropLast.any isSkipped
    && Glob.matchesAny key storage.includes
    && !Glob.matchesAny key storage.excludes

def documentsBelow (storage : Storage) (tree : FileTree)
    (directory : FilePath) : List FilePath :=
  match tree.locate directory with
  | .error _ => []
  | .ok place =>
    let candidates := (tree.below place).filterMap fun (parts, node) =>
      match node with
      | .file _ => some (directory.append ⟨[], parts⟩)
      | .directory => none
    (FilePath.sort candidates).filter (storage.wants tree)

/-- Adds paths that are not known yet. -/
def addPaths (known new : List FilePath) : List FilePath :=
  new.foldl (fun known path => path.insertInto known) known

def warning (message : Text) : LogEntry :=
  ⟨.warning, "adapters.fs_storage".toList, message⟩

/-- What one path that was asked for stands for: a file itself, or the
documents below a directory. -/
def expand (storage : Storage) (tree : FileTree) (path : FilePath) :
    Logged FileFault (List FilePath) := do
  match ← Logged.ofExcept (tree.node? path) with
  | some .directory => return storage.documentsBelow tree path
  | some (.file _) => return [path]
  | none =>
    Logged.remark
      (warning ("No such file or directory: ".toList ++ path.write))
    return []

/-- The documents that some paths stand for, each once; without paths, those
below the root. -/
def discover (storage : Storage) (tree : FileTree) (paths : List FilePath) :
    Logged FileFault (List FilePath) :=
  let wanted := if paths.isEmpty then [storage.root] else paths
  wanted.foldlM (fun known path => do
    return addPaths known (← storage.expand tree path)) []

/-- The text with all line breaks replaced by line feeds. -/
def unifyBreaks : Text → Text
  | '\r' :: '\n' :: rest => '\n' :: unifyBreaks rest
  | '\r' :: rest => '\n' :: unifyBreaks rest
  | character :: rest => character :: unifyBreaks rest
  | [] => []

/-- The text of a file, or nothing but a remark if it cannot be read.  A path
that cannot exist is a fault. -/
def readText (tree : FileTree) (path : FilePath) :
    Logged FileFault (Option Text) := do
  match tree.read path with
  | .ok bytes => return some (unifyBreaks (Utf8.decodeLossy bytes))
  | .error .impossibleName => throw ⟨path, .impossibleName⟩
  | .error error =>
    Logged.remark (warning ("Skipping ".toList ++ path.write ++ ": ".toList
      ++ error.message path))
    return none

/-- The texts of the readable files among some paths, by key. -/
def readAll (storage : Storage) (tree : FileTree) (paths : List FilePath) :
    Logged FileFault (Entries Text Text) :=
  paths.foldlM (fun texts path => do
    match ← readText tree path with
    | some text => return texts ++ [(storage.key tree path, text)]
    | none => return texts) []

/-- The texts by key, where the last text of a key counts. -/
def sources (texts : Entries Text Text) : Entries Text Text :=
  texts.foldl (fun known entry => known.put entry.1 entry.2) []

end Storage

end AnchorLint
