import AnchorLint.Cache.Decode
import AnchorLint.Storage
import AnchorLint.Workspace.Basic

/-!
# Keeping the workspace between runs

A workspace is kept in one file of a cache directory.  It is written to a
temporary file first, which then takes the place of the old one, so that a
failure leaves the old file as it was.  A file that is of no use is removed.
-/

namespace AnchorLint

namespace Cache

def fileName : FilePath :=
  ⟨[], ["workspace_index.json".toList]⟩

def fileIn (directory : FilePath) : FilePath :=
  directory.append fileName

def temporaryIn (directory : FilePath) (number : Nat) : FilePath :=
  directory.append
    ⟨[], [".workspace_index.".toList ++ Text.padZeros 8 (Text.ofNat number)
      ++ ".tmp".toList]⟩

/-- A temporary file that does not exist yet, with the first number from
`number` on that is free.  `steps` bounds the search; as many steps as there
are files suffice. -/
def freshTemporary (tree : FileTree) (directory : FilePath) :
    (steps number : Nat) → FilePath
  | 0, number => temporaryIn directory number
  | steps + 1, number =>
    let path := temporaryIn directory number
    match tree.contains path with
    | .ok true => freshTemporary tree directory steps (number + 1)
    | _ => path

inductive SaveError where
  | file (fault : FileFault)
  | content (error : Json.WriteError)

def SaveError.message : SaveError → Text
  | file fault => fault.message
  | content error => error.message

/-- Writes a text to a temporary file and moves it to the place of the cache
file.  Whatever fails, no temporary file is left. -/
def replaceFile (tree : FileTree) (directory : FilePath)
    (content : Except Json.WriteError Text) :
    Except SaveError FilePath × FileTree :=
  let target := fileIn directory
  let temporary := freshTemporary tree directory tree.nodes.length 0
  match tree.write temporary [] with
  | .error error => (.error (.file ⟨temporary, error⟩), tree)
  | .ok opened =>
    let discarded := (opened.delete temporary).toOption.getD opened
    match content with
    | .error error => (.error (.content error), discarded)
    | .ok text =>
      match opened.write temporary (Utf8.encode text) with
      | .error error => (.error (.file ⟨temporary, error⟩), discarded)
      | .ok written =>
        match written.rename temporary target with
        | .error error => (.error (.file ⟨target, error⟩), discarded)
        | .ok renamed => (.ok target, renamed)

/-- Saves records in a directory, which is made if it does not exist. -/
def save (tree : FileTree) (directory : FilePath) (dialect : Text)
    (records : List (Text × Record)) :
    Except SaveError FilePath × FileTree :=
  match tree.makeDirectories directory with
  | (.error fault, tree) => (.error (.file fault), tree)
  | (.ok (), tree) =>
    replaceFile tree directory (encodeRecords dialect records)

/-- What is found in a cache directory. -/
inductive Loaded where
  | nothing
  | discarded (tree : FileTree) (remark : LogEntry)
  | records (records : List (Text × Record))

def discardRemark (path : FilePath) (reason : Text) : LogEntry :=
  ⟨.warning, "adapters.index_cache".toList,
    "Discarding workspace cache ".toList ++ path.write ++ ": ".toList
      ++ reason⟩

def decodeBytes (dialect : Text) (bytes : Bytes) :
    Except Text (List (Text × Record)) :=
  match Utf8.decode? bytes with
  | none => .error "invalid UTF-8".toList
  | some raw =>
    match decode dialect (Storage.unifyBreaks raw) with
    | .ok records => .ok records
    | .error error => .error error.message

/-- Reads the cache file in a directory, and removes it if it is of no use. -/
def load (tree : FileTree) (directory : FilePath) (dialect : Text) :
    Except FileFault Loaded := do
  let target := fileIn directory
  let settle {α : Type} (result : Except FileError α) :
      Except FileFault α :=
    result.mapError fun error => ⟨target, error⟩
  if ← tree.contains target then
    let bytes ← settle (tree.read target)
    match decodeBytes dialect bytes with
    | .ok records => return .records records
    | .error reason =>
      let tree ← settle (tree.delete target)
      return .discarded tree (discardRemark target reason)
  else return .nothing

end Cache

namespace Workspace

def save (workspace : Workspace) (tree : FileTree) (directory : FilePath) :
    Except Cache.SaveError FilePath × FileTree :=
  Cache.save tree directory workspace.dialect.name
    (workspace.files.map fun entry => (entry.1, entry.2.toRecord))

/-- The workspace with the documents of some records.  Their links must be such
that the graph of links can be made. -/
def ofRecords (dialect : Dialect) (records : List (Text × Cache.Record)) :
    Except Mismatch Workspace :=
  records.foldlM (fun workspace (path, record) => do
    let stored := Stored.ofRecord record
    stored.checkPaths
    return workspace.insert path stored) { dialect := dialect }

end Workspace

end AnchorLint
