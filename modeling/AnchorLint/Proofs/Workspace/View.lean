import AnchorLint.Proofs.Data.Entries
import AnchorLint.Proofs.Link.Path

/-!
# What a workspace holds at a path

Inserting and removing a document change what a workspace holds at one path and
nothing else.  An update inserts the index of a text or leaves everything as it
is.
-/

namespace AnchorLint

namespace Workspace

@[simp]
theorem files_dropLinks (key : Text) (workspace : Workspace) :
    (workspace.dropLinks key).files = workspace.files :=
  rfl

@[simp]
theorem files_insert (path : Text) (stored : Stored) (workspace : Workspace) :
    (workspace.insert path stored).files =
      workspace.files.put (Path.normalize path) stored :=
  rfl

@[simp]
theorem dialect_insert (path : Text) (stored : Stored) (workspace : Workspace) :
    (workspace.insert path stored).dialect = workspace.dialect :=
  rfl

@[simp]
theorem files_remove (path : Text) (workspace : Workspace) :
    (workspace.remove path).files =
      workspace.files.erase (Path.normalize path) :=
  rfl

@[simp]
theorem dialect_remove (path : Text) (workspace : Workspace) :
    (workspace.remove path).dialect = workspace.dialect :=
  rfl

theorem get?_insert (path other : Text) (stored : Stored)
    (workspace : Workspace) :
    (workspace.insert path stored).get? other =
      if Path.normalize other = Path.normalize path then some stored
      else workspace.get? other := by
  unfold get?
  rw [files_insert]
  split
  · rename_i same
    rw [same, Entries.lookup_put_self]
  · rename_i different
    exact Entries.lookup_put_of_ne _ different stored

theorem update_cases {workspace after : Workspace} {path text : Text}
    {isNew : Bool} (updated : workspace.update path text = .ok (isNew, after)) :
    after = workspace ∨
      ∃ document, Document.index workspace.dialect text = .ok document ∧
        after = workspace.insert path (.indexed document) := by
  unfold update at updated
  split at updated
  · cases indexed : Document.index workspace.dialect text with
    | error error => simp [indexed, bind, Except.bind] at updated
    | ok document =>
        rw [indexed] at updated
        exact Or.inr ⟨document, rfl,
          (congrArg Prod.snd (Except.ok.inj updated)).symm⟩
  · exact Or.inl (congrArg Prod.snd (Except.ok.inj updated)).symm

end Workspace

end AnchorLint
