import AnchorLint.Proofs.Data.Entries
import AnchorLint.Proofs.FileTree.Frame

/-!
# Files read back

What has been written to a path is found there, and so is what has been moved
there.  Writing and deleting change one place of a tree, and this place is no
directory, so that the way to it stays as it was.
-/

namespace AnchorLint

namespace FileTree

variable {tree after : FileTree} {place : List Text} {path : FilePath}

theorem nodeAt?_put_self (notRoot : place ≠ []) (node : FileNode) :
    (tree.put place node).nodeAt? place = some node := by
  have notEmpty : place.isEmpty = false := by simpa using notRoot
  rw [nodeAt?, notEmpty, if_neg (by decide)]
  exact Entries.lookup_put_self _ _ _

theorem nodeAt?_put_of_ne {other : List Text} (different : other ≠ place)
    (node : FileNode) :
    (tree.put place node).nodeAt? other = tree.nodeAt? other := by
  unfold nodeAt?
  split
  · rfl
  · exact Entries.lookup_put_of_ne _ different node

theorem nodeAt?_erase_of_ne {other : List Text} (different : other ≠ place) :
    (tree.erase place).nodeAt? other = tree.nodeAt? other := by
  unfold nodeAt?
  split
  · rfl
  · exact Entries.lookup_erase_of_ne _ different

theorem nodeAt?_erase_self (notRoot : place ≠ []) :
    (tree.erase place).nodeAt? place = none := by
  have notEmpty : place.isEmpty = false := by simpa using notRoot
  rw [nodeAt?, notEmpty, if_neg (by decide)]
  exact Entries.lookup_erase_self _ _

theorem contains_of_read {content : Bytes}
    (held : tree.read path = .ok content) :
    tree.contains path = .ok true := by
  obtain ⟨place, leads, found⟩ := Outcome.bind_eq_ok.mp held
  cases here : tree.nodeAt? place with
  | none => simp [here] at found
  | some node => simp [contains, node?, leads, here, Except.map]

/-- Where a file may stand, something stands exactly if it can be read. -/
theorem Admits.contains (admits : tree.Admits path) :
    tree.contains path = .ok (tree.read path).toOption.isSome := by
  obtain ⟨place, leads, notDirectory⟩ := admits
  rw [FileTree.contains, node?, read, leads]
  dsimp only [bind, Except.bind, Except.map]
  cases here : tree.nodeAt? place with
  | none => rfl
  | some node =>
      cases node with
      | directory => exact absurd here notDirectory
      | file content => rfl

theorem exists_of_read {content : Bytes} (held : tree.read path = .ok content) :
    ∃ place, tree.locate path = .ok place ∧
      tree.nodeAt? place = some (.file content) := by
  obtain ⟨place, leads, found⟩ := Outcome.bind_eq_ok.mp held
  refine ⟨place, leads, ?_⟩
  split at found
  · cases found
  · cases found
  · rename_i bytes here
    rw [here, Except.ok.inj found]

theorem read_of_locate {content : Bytes}
    (leads : tree.locate path = .ok place)
    (found : tree.nodeAt? place = some (.file content)) :
    tree.read path = .ok content := by
  rw [read, leads]
  dsimp only [bind, Except.bind]
  rw [found]

theorem differsAt_of_write {content : Bytes}
    (written : tree.write path content = .ok after) :
    ∃ place, tree.locate path = .ok place ∧ DiffersAt place tree after ∧
      after.nodeAt? place = some (.file content) := by
  obtain ⟨place, leads, put⟩ := Outcome.bind_eq_ok.mp written
  refine ⟨place, leads, ?_⟩
  split at put
  · cases put
  · rename_i notDirectory
    obtain rfl := Except.ok.inj put
    have notRoot : place ≠ [] := by
      rintro rfl
      exact notDirectory rfl
    exact ⟨⟨rfl, fun segments different => nodeAt?_put_of_ne different _,
      notDirectory⟩, nodeAt?_put_self notRoot _⟩

theorem read_of_write {content : Bytes}
    (written : tree.write path content = .ok after) :
    after.read path = .ok content := by
  obtain ⟨place, leads, differs, here⟩ := differsAt_of_write written
  exact read_of_locate (differs.locate leads) here

theorem read_of_rename {old new : FilePath} {content : Bytes}
    (held : tree.read old = .ok content)
    (renamed : tree.rename old new = .ok after) :
    after.read new = .ok content := by
  obtain ⟨moved, found, more⟩ := Outcome.bind_eq_ok.mp renamed
  obtain rfl := Except.ok.inj (held.symm.trans found)
  obtain ⟨between, -, written⟩ := Outcome.bind_eq_ok.mp more
  exact read_of_write written

theorem differsAt_of_delete (deleted : tree.delete path = .ok after) :
    ∃ place, tree.locate path = .ok place ∧ DiffersAt place tree after ∧
      after.nodeAt? place = none := by
  obtain ⟨place, leads, erased⟩ := Outcome.bind_eq_ok.mp deleted
  refine ⟨place, leads, ?_⟩
  split at erased
  · cases erased
  · cases erased
  · rename_i content isFile
    obtain rfl := Except.ok.inj erased
    have notRoot : place ≠ [] := by
      rintro rfl
      simp [nodeAt?] at isFile
    refine ⟨⟨rfl, fun segments different => nodeAt?_erase_of_ne different, ?_⟩,
      nodeAt?_erase_self notRoot⟩
    rw [isFile]
    simp

/-- A file that can be read can be deleted; then nothing stands at its path, and
the tree is the same everywhere else. -/
theorem exists_delete_of_read {content : Bytes}
    (held : tree.read path = .ok content) :
    ∃ place after, tree.locate path = .ok place ∧
      tree.delete path = .ok after ∧ DiffersAt place tree after ∧
      after.contains path = .ok false := by
  obtain ⟨place, leads, isFile⟩ := exists_of_read held
  have deleted : tree.delete path = .ok (tree.erase place) := by
    rw [delete, leads]
    dsimp only [bind, Except.bind]
    rw [isFile]
  obtain ⟨goal, leadsThere, differs, gone⟩ := differsAt_of_delete deleted
  obtain rfl := Except.ok.inj (leads.symm.trans leadsThere)
  refine ⟨place, _, leads, deleted, differs, ?_⟩
  rw [contains, node?, differs.locate leads]
  dsimp only
  rw [gone]
  rfl

/-- Once a file is deleted it does not matter what has been written to it before. -/
theorem delete_of_write {content more : Bytes} (held : tree.read path = .ok content)
    (written : tree.write path more = .ok after) :
    after.delete path = tree.delete path := by
  obtain ⟨place, leads, isFile⟩ := exists_of_read held
  obtain ⟨goal, leadsThere, differs, here⟩ := differsAt_of_write written
  obtain rfl := Except.ok.inj (leads.symm.trans leadsThere)
  have put : after = tree.put place (.file more) := by
    rw [write, leads] at written
    dsimp only [bind, Except.bind] at written
    rw [isFile] at written
    exact (Except.ok.inj written).symm
  have erased : (tree.put place (.file more)).erase place = tree.erase place :=
    congrArg (fun nodes => { tree with nodes := nodes })
      (Entries.erase_put_self tree.nodes place _)
  rw [delete, delete, differs.locate leads, leads]
  dsimp only [bind, Except.bind]
  rw [here, isFile, put, erased]

theorem differsAt_of_makeDirectory (made : tree.makeDirectory path = .ok after) :
    ∃ place, tree.locate path = .ok place ∧ DiffersAt place tree after ∧
      after.nodeAt? place = some .directory := by
  obtain ⟨place, leads, put⟩ := Outcome.bind_eq_ok.mp made
  refine ⟨place, leads, ?_⟩
  split at put
  · cases put
  · rename_i missing
    obtain rfl := Except.ok.inj put
    have notRoot : place ≠ [] := by
      rintro rfl
      simp [nodeAt?] at missing
    refine ⟨⟨rfl, fun segments different => nodeAt?_put_of_ne different _, ?_⟩,
      nodeAt?_put_self notRoot _⟩
    rw [missing]
    simp

end FileTree

end AnchorLint
