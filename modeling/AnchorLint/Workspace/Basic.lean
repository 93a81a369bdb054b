import AnchorLint.Document.Index
import AnchorLint.Workspace.Stored

/-!
# Workspaces

A workspace holds the indexes of many documents by normalized path.  Beside
them it keeps the graph of links between documents in both directions: where
the links of each document lead, and which documents link to a path.  The
version grows with every change.
-/

namespace AnchorLint

/-- The indexed documents and the links between them. -/
structure Workspace where
  dialect : Dialect
  files : Entries Text Stored := []
  /-- The paths that the links of each document lead to. -/
  targets : Entries Text (List Text) := []
  /-- The documents that link to each path. -/
  sources : Entries Text (List Text) := []
  version : Nat := 0

namespace Entries

variable {κ α : Type} [BEq κ]

def erase (entries : Entries κ α) (key : κ) : Entries κ α :=
  entries.filter fun entry => !(entry.1 == key)

end Entries

namespace Workspace

def size (workspace : Workspace) : Nat :=
  workspace.files.length

/-- What is known about the document at a path. -/
def get? (workspace : Workspace) (path : Text) : Option Stored :=
  workspace.files.lookup (Path.normalize path)

def contains (workspace : Workspace) (path : Text) : Bool :=
  (workspace.get? path).isSome

/-- The paths that the links of a document lead to, each once. -/
def targetsOf (key : Text) (stored : Stored) : List Text :=
  (stored.outgoing.map fun (kind, path) =>
    Path.resolveTarget key kind (some path)).eraseDups

/-- Takes a document out of those that link to a path. -/
def unlink (key : Text) (sources : Entries Text (List Text)) (target : Text) :
    Entries Text (List Text) :=
  match sources.lookup target with
  | none => sources
  | some keys =>
    let rest := keys.filter (· != key)
    if rest.isEmpty then sources.erase target else sources.put target rest

/-- Adds a document to those that link to a path. -/
def link (key : Text) (sources : Entries Text (List Text)) (target : Text) :
    Entries Text (List Text) :=
  let keys := (sources.lookup target).getD []
  sources.put target (if keys.contains key then keys else keys ++ [key])

/-- Forgets where the links of a document lead. -/
def dropLinks (key : Text) (workspace : Workspace) : Workspace :=
  let gone := (workspace.targets.lookup key).getD []
  { workspace with
    targets := workspace.targets.erase key
    sources := gone.foldl (unlink key) workspace.sources }

/-- Adds a document or replaces the one with the same path. -/
def insert (path : Text) (stored : Stored) (workspace : Workspace) :
    Workspace :=
  let key := Path.normalize path
  let workspace := workspace.dropLinks key
  let targets := targetsOf key stored
  { workspace with
    files := workspace.files.put key stored
    targets := workspace.targets.put key targets
    sources := targets.foldl (link key) workspace.sources
    version := workspace.version + 1 }

def remove (path : Text) (workspace : Workspace) : Workspace :=
  let key := Path.normalize path
  let known := (workspace.files.lookup key).isSome
  let workspace := workspace.dropLinks key
  { workspace with
    files := workspace.files.erase key
    version := if known then workspace.version + 1 else workspace.version }

def clear (workspace : Workspace) : Workspace :=
  { dialect := workspace.dialect, version := workspace.version + 1 }

def outside (paths : List Text) (workspace : Workspace) : List Text :=
  let keep := paths.map Path.normalize
  (workspace.files.map Prod.fst).filter fun key => !keep.contains key

/-- Removes the documents that are not among some paths. -/
def retain (paths : List Text) (workspace : Workspace) : Workspace :=
  (workspace.outside paths).foldl (fun workspace key => workspace.remove key)
    workspace

/-- Whether the document at a path is missing or has another digest. -/
def isStale (workspace : Workspace) (path digest : Text) : Bool :=
  !(workspace.get? path).any (Stored.hasDigest digest)

/-- Indexes a text again unless the document at the path is up to date. -/
def update (path text : Text) (workspace : Workspace) :
    Except IndexError (Bool × Workspace) :=
  if workspace.isStale path (Digest.ofText text) then do
    let document ← Document.index workspace.dialect text
    return (true, workspace.insert path (.indexed document))
  else .ok (false, workspace)

/-- The documents that link to a path, in order. -/
def dependents (workspace : Workspace) (path : Text) : List Text :=
  Text.sort ((workspace.sources.lookup (Path.normalize path)).getD [])

def sorted (workspace : Workspace) : List (Text × Stored) :=
  workspace.files.mergeSort fun first second => Text.le first.1 second.1

end Workspace

end AnchorLint
