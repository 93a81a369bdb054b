import AnchorLint.FileTree.Path
import AnchorLint.Number.Binary64

/-!
# Pending changes

While a directory is watched, changes of files are collected until nothing has
happened for a while.  Then they make one batch, in which every file either has
changed or is gone.  Instants are told in seconds since a clock was started, as
numbers of the 64-bit binary format, so the time between two of them is only as
exact as their difference.
-/

namespace AnchorLint

/-- An instant in seconds since the clock was started. -/
abbrev Instant := Binary64

namespace Instant

/-- The instant some milliseconds after the clock was started. -/
def ofMilliseconds (milliseconds : Binary64) : Instant :=
  milliseconds.divideBy 1000

def millisecondsSince (earlier later : Instant) : Binary64 :=
  (later.add earlier.negate).multiply (Binary64.ofNat 1000)

end Instant

/-- What happened to a file. -/
inductive FileChange where
  | created (path : FilePath)
  | modified (path : FilePath)
  | deleted (path : FilePath)
  | moved (source target : FilePath)
deriving DecidableEq

/-- Something that happened in a watched directory. -/
structure FileEvent where
  change : FileChange
  onDirectory : Bool := false
deriving DecidableEq

/-- The files that have changed and those that are gone. -/
structure Batch where
  changed : List FilePath
  deleted : List FilePath
deriving DecidableEq

/-- The changes since the last batch, and when the last of them happened. -/
structure Pending where
  added : List FilePath := []
  modified : List FilePath := []
  deleted : List FilePath := []
  lastTime : Instant := .ofNat 0
deriving DecidableEq

namespace Pending

def isEmpty (pending : Pending) : Bool :=
  pending.added.isEmpty && pending.modified.isEmpty && pending.deleted.isEmpty

/-- Whether a name belongs to a hidden file or to the working copy of an
editor. -/
def isScratchName (name : Text) : Bool :=
  Text.startsWith name ['.'] || Text.endsWith name ['~']
    || Text.endsWith name ".swp".toList

def isRelevant (wants : FilePath → Bool) (path : FilePath) : Bool :=
  !isScratchName path.name && wants path

def add (now : Instant) (path : FilePath) (pending : Pending) : Pending :=
  { pending with
    added := path.insertInto pending.added
    lastTime := now }

def modify (now : Instant) (path : FilePath) (pending : Pending) : Pending :=
  { pending with
    modified := path.insertInto pending.modified
    lastTime := now }

def delete (now : Instant) (path : FilePath) (pending : Pending) : Pending :=
  { pending with
    deleted := path.insertInto pending.deleted
    lastTime := now }

def noteIf (wants : FilePath → Bool) (path : FilePath)
    (note : FilePath → Pending → Pending) (pending : Pending) : Pending :=
  if isRelevant wants path then note path pending else pending

/-- Notes a change of a file.  A file that was moved is deleted in one place
and added in another. -/
def record (wants : FilePath → Bool) (now : Instant) (change : FileChange)
    (pending : Pending) : Pending :=
  match change with
  | .created path => pending.noteIf wants path (add now)
  | .modified path => pending.noteIf wants path (modify now)
  | .deleted path => pending.noteIf wants path (delete now)
  | .moved source target =>
    (pending.noteIf wants source (delete now)).noteIf wants target (add now)

/-- Notes an event.  What happens to directories does not matter. -/
def observe (wants : FilePath → Bool) (now : Instant) (event : FileEvent)
    (pending : Pending) : Pending :=
  if event.onDirectory then pending
  else pending.record wants now event.change

/-- The batch of all pending changes.  A file that was deleted and added again
has changed. -/
def batch (pending : Pending) : Batch :=
  let touched := pending.added ++ pending.modified.filter fun path =>
    !pending.added.contains path
  { changed := touched.filter fun path =>
      !pending.deleted.contains path || pending.added.contains path
    deleted := pending.deleted.filter fun path =>
      !pending.added.contains path }

/-- Nothing pending, at the same time. -/
def clear (pending : Pending) : Pending :=
  { lastTime := pending.lastTime }

def flush (pending : Pending) : Option Batch × Pending :=
  if pending.isEmpty then (none, pending)
  else (some pending.batch, pending.clear)

/-- Takes the pending changes if nothing has happened for a window of time, in
milliseconds.  Without a window nobody can tell whether it is time to. -/
def poll (window : Option Int) (now : Instant) (pending : Pending) :
    Option (Option Batch × Pending) :=
  if pending.isEmpty then some (none, pending)
  else
    window.map fun window =>
      if (Instant.millisecondsSince pending.lastTime now).atLeast window then
        pending.flush
      else (none, pending)

end Pending

end AnchorLint
