import AnchorLint.Session
import AnchorLint.Watch.Pending

/-!
# Linting what has changed

A batch of changes is applied to the workspace of a session.  The documents
that changed are checked again, and so are those that link to a document that
changed or is gone, because their links may resolve or fail to resolve now.
-/

namespace AnchorLint

/-- The batch in which changed files that do not exist any more are gone. -/
def Batch.settle (tree : FileTree) (batch : Batch) :
    Except FileFault Batch := do
  let present ← batch.changed.filterM tree.contains
  let gone := batch.changed.filter fun path => !present.contains path
  return ⟨present, batch.deleted ++ gone⟩

namespace Session

def remove (session : Session) (keys : List Text) : Session :=
  let workspace := keys.foldl (fun workspace key => workspace.remove key)
    session.workspace
  { session with linter := { session.linter with workspace := workspace } }

/-- The documents to check after some documents were indexed and others
removed: the former, and all that link to one of either. -/
def affected (workspace : Workspace) (indexed removed : List Text) :
    List Text :=
  let linking := (removed ++ indexed).flatMap workspace.dependents
  (Text.sort (indexed ++ linking).eraseDups).filter workspace.contains

/-- Indexes texts and checks what they and the removed documents affect.  The
new indexes stay, whatever the check comes to. -/
def recheck (session : Session) (sources : Entries Text Text)
    (removed : List Text) : Except LintFault LintResults × Session :=
  match session.linter.index sources with
  | .error error => (.error (.index error), session)
  | .ok (indexed, linter) =>
    let keys := affected linter.workspace indexed removed
    ((linter.check keys).mapError LintFault.record,
      { session with linter := linter })

/-- Applies a batch to the workspace and checks what it affects.  If a document
cannot be read or indexed, the removals stay. -/
def relint (session : Session) (tree : FileTree) (batch : Batch) :
    Except LintFault LintResults × Session × List LogEntry :=
  match batch.settle tree with
  | .error fault => (.error (.file fault), session, [])
  | .ok batch =>
    let removed := batch.deleted.map (session.storage.key tree)
    let session := session.remove removed
    let (texts, log) :=
      (session.storage.readAll tree (FilePath.sort batch.changed)).result
    match texts with
    | .error fault => (.error (.file fault), session, log)
    | .ok texts =>
      let (results, session) := session.recheck (Storage.sources texts) removed
      (results, session, log)

end Session

end AnchorLint
