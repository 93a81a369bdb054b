import AnchorLint.Proofs.FileTree.Write

/-!
# Trees that agree

Two trees agree if the same stands at every place of both.  Every path leads to the
same place in them.  A file that is put somewhere and removed again leaves a tree that
agrees with the one from before, whatever was written to the file between.  And
making a directory with those on the way to it only adds directories.
-/

namespace AnchorLint

namespace FileTree

/-- Whether the same stands at every place of two trees. -/
structure Agree (tree other : FileTree) : Prop where
  workingDirectory : other.workingDirectory = tree.workingDirectory
  nodes : ∀ segments, other.nodeAt? segments = tree.nodeAt? segments

namespace Agree

variable {place : List Text} {tree other last : FileTree}

theorem refl (tree : FileTree) : Agree tree tree :=
  ⟨rfl, fun _ => rfl⟩

theorem follow (agree : Agree tree other) (start parts : List Text) :
    other.follow start parts = tree.follow start parts := by
  induction parts generalizing start with
  | nil => rfl
  | cons part parts ih =>
      rw [FileTree.follow, FileTree.follow, agree.nodes]
      simp only [ih]

theorem locate (agree : Agree tree other) (path : FilePath) :
    other.locate path = tree.locate path := by
  unfold FileTree.locate FileTree.start
  rw [agree.workingDirectory, agree.follow]

theorem differsAt (agree : Agree tree other) (differs : DiffersAt place other last) :
    DiffersAt place tree last where
  workingDirectory := differs.workingDirectory.trans agree.workingDirectory
  elsewhere := fun segments different =>
    (differs.elsewhere segments different).trans (agree.nodes segments)
  notDirectory := by
    rw [← agree.nodes]
    exact differs.notDirectory

end Agree

variable {place : List Text} {tree other last : FileTree}

theorem DiffersAt.trans (differs : DiffersAt place tree other)
    (again : DiffersAt place other last) : DiffersAt place tree last where
  workingDirectory := again.workingDirectory.trans differs.workingDirectory
  elsewhere := fun segments different =>
    (again.elsewhere segments different).trans (differs.elsewhere segments different)
  notDirectory := differs.notDirectory

/-- A change that leaves the place as it was is none. -/
theorem DiffersAt.agree (differs : DiffersAt place tree other)
    (same : other.nodeAt? place = tree.nodeAt? place) : Agree tree other where
  workingDirectory := differs.workingDirectory
  nodes := by
    intro segments
    by_cases here : segments = place
    · rw [here, same]
    · exact differs.elsewhere segments here

/-- Whether a tree becomes another one by bytes that are put in the file at a path. -/
def Receives (tree : FileTree) (path : FilePath) (content : Bytes)
    (other : FileTree) : Prop :=
  ∃ place, tree.locate path = .ok place ∧ DiffersAt place tree other ∧
    other.nodeAt? place = some (.file content)

theorem Agree.receives (agree : Agree tree other) {path : FilePath} {content : Bytes}
    (receives : other.Receives path content last) :
    tree.Receives path content last := by
  obtain ⟨place, leads, differs, here⟩ := receives
  exact ⟨place, (agree.locate path).symm.trans leads, agree.differsAt differs, here⟩

theorem Receives.read {path : FilePath} {content : Bytes}
    (receives : tree.Receives path content other) :
    other.read path = .ok content := by
  obtain ⟨place, leads, differs, here⟩ := receives
  exact read_of_locate (differs.locate leads) here

theorem Receives.write {path : FilePath} {content more : Bytes}
    (receives : tree.Receives path content other)
    (written : other.write path more = .ok last) : tree.Receives path more last := by
  obtain ⟨place, leads, differs, -⟩ := receives
  obtain ⟨goal, leadsThere, again, here⟩ := differsAt_of_write written
  obtain rfl := Except.ok.inj ((differs.locate leads).symm.trans leadsThere)
  exact ⟨place, leads, differs.trans again, here⟩

/-- Whether nothing stands where a path leads to. -/
def IsFree (tree : FileTree) (path : FilePath) : Prop :=
  ∀ place, tree.locate path = .ok place → tree.nodeAt? place = none

/-- A file that is put at a free path and removed again leaves no trace. -/
theorem Receives.agree_of_delete {path : FilePath} {content : Bytes}
    (receives : tree.Receives path content other) (free : tree.IsFree path)
    (deleted : other.delete path = .ok last) : Agree tree last := by
  obtain ⟨place, leads, differs, -⟩ := receives
  obtain ⟨goal, leadsThere, again, gone⟩ := differsAt_of_delete deleted
  obtain rfl := Except.ok.inj ((differs.locate leads).symm.trans leadsThere)
  exact (differs.trans again).agree (gone.trans (free place leads).symm)

/-- A file that is put at a free path and moved to another one is as good as one that
is put there at once. -/
theorem Receives.of_rename {path new : FilePath} {content : Bytes}
    (receives : tree.Receives path content other) (free : tree.IsFree path)
    (renamed : other.rename path new = .ok last) :
    tree.Receives new content last := by
  obtain ⟨moved, found, more⟩ := Outcome.bind_eq_ok.mp renamed
  obtain rfl := Except.ok.inj (receives.read.symm.trans found)
  obtain ⟨between, deleted, written⟩ := Outcome.bind_eq_ok.mp more
  exact (receives.agree_of_delete free deleted).receives (differsAt_of_write written)

/-- A file at a free path can be moved to wherever a file may stand. -/
theorem Receives.exists_rename {path new : FilePath} {content : Bytes}
    (receives : tree.Receives path content other) (free : tree.IsFree path)
    (admits : tree.Admits new) : ∃ last, other.rename path new = .ok last := by
  obtain ⟨-, moved, -, deleted, -, -⟩ := exists_delete_of_read receives.read
  have agree := receives.agree_of_delete free deleted
  obtain ⟨place, leads, notDirectory⟩ := admits
  rw [← agree.nodes] at notDirectory
  refine ⟨moved.put place (.file content), ?_⟩
  rw [rename, receives.read]
  dsimp only [bind, Except.bind]
  rw [deleted]
  dsimp only
  rw [FileTree.write, agree.locate, leads]
  dsimp only [bind, Except.bind]
  split
  · rename_i isDirectory
    exact absurd isDirectory notDirectory
  · rfl

theorem Receives.exists_write {path : FilePath} {content : Bytes}
    (receives : tree.Receives path content other) (more : Bytes) :
    ∃ last, other.write path more = .ok last := by
  obtain ⟨place, leads, differs, here⟩ := receives
  refine ⟨other.put place (.file more), ?_⟩
  rw [FileTree.write, differs.locate leads]
  dsimp only [bind, Except.bind]
  rw [here]

/-! ## Directories that are made -/

/-- Whether a tree becomes another one by new directories only. -/
structure AddsDirectories (tree other : FileTree) : Prop where
  workingDirectory : other.workingDirectory = tree.workingDirectory
  nodes : ∀ segments, other.nodeAt? segments = tree.nodeAt? segments ∨
    tree.nodeAt? segments = none ∧ other.nodeAt? segments = some .directory

namespace AddsDirectories

theorem refl (tree : FileTree) : AddsDirectories tree tree :=
  ⟨rfl, fun _ => Or.inl rfl⟩

theorem trans (first : AddsDirectories tree other)
    (second : AddsDirectories other last) : AddsDirectories tree last where
  workingDirectory := second.workingDirectory.trans first.workingDirectory
  nodes := by
    intro segments
    rcases second.nodes segments with same | ⟨missing, made⟩
    · rw [same]
      exact first.nodes segments
    · rcases first.nodes segments with before | ⟨-, present⟩
      · exact Or.inr ⟨before ▸ missing, made⟩
      · rw [present] at missing
        cases missing

end AddsDirectories

theorem addsDirectories_of_makeDirectory {path : FilePath}
    (made : tree.makeDirectory path = .ok other) : AddsDirectories tree other := by
  obtain ⟨place, leads, put⟩ := Outcome.bind_eq_ok.mp made
  obtain ⟨goal, leadsThere, differs, here⟩ := differsAt_of_makeDirectory made
  obtain rfl := Except.ok.inj (leads.symm.trans leadsThere)
  refine ⟨differs.workingDirectory, fun segments => ?_⟩
  by_cases same : segments = place
  · subst same
    split at put
    · cases put
    · rename_i missing
      exact Or.inr ⟨missing, here⟩
  · exact Or.inl (differs.elsewhere segments same)

theorem settleDirectory_error (tree : FileTree) (path : FilePath) (error : FileError) :
    (tree.settleDirectory path (.error error)).2 = tree := by
  unfold settleDirectory
  dsimp only
  split <;> rfl

theorem addsDirectories_settleDirectory (tree : FileTree) (path : FilePath) :
    AddsDirectories tree
      (tree.settleDirectory path (tree.makeDirectory path)).2 := by
  cases made : tree.makeDirectory path with
  | ok other => exact addsDirectories_of_makeDirectory made
  | error error =>
      rw [settleDirectory_error]
      exact .refl tree

theorem addsDirectories_makeAlong (tree : FileTree) (root : Text)
    (reversed : List Text) :
    AddsDirectories tree (tree.makeAlong root reversed).2 := by
  induction reversed with
  | nil => exact .refl tree
  | cons part parts ih =>
      have settled := tree.addsDirectories_settleDirectory
        ⟨root, (part :: parts).reverse⟩
      rw [makeAlong]
      split
      · rcases above : tree.makeAlong root parts with ⟨outcome, between⟩
        rw [above] at ih
        cases outcome with
        | error fault => exact ih
        | ok => exact ih.trans (between.addsDirectories_settleDirectory _)
      · exact settled

/-- Whatever comes of it, making a directory only adds directories. -/
theorem addsDirectories_makeDirectories (tree : FileTree) (path : FilePath) :
    AddsDirectories tree (tree.makeDirectories path).2 :=
  addsDirectories_makeAlong tree _ _

theorem makeDirectories_of_isDirectory {path : FilePath}
    (isDirectory : tree.isDirectory path = .ok true) :
    tree.makeDirectories path = (.ok (), tree) := by
  unfold makeDirectories
  cases reversed : path.parts.reverse with
  | nil => rfl
  | cons part parts =>
      have whole : (⟨path.root, (part :: parts).reverse⟩ : FilePath) = path := by
        rw [← reversed, List.reverse_reverse]
      have exists_ : tree.makeDirectory path = .error .alreadyExists := by
        unfold FileTree.isDirectory node? at isDirectory
        cases leads : tree.locate path with
        | error error => cases error <;> simp [leads, Except.map] at isDirectory
        | ok place =>
            have here : tree.nodeAt? place = some .directory := by
              simpa [leads, Except.map] using isDirectory
            simp only [makeDirectory, leads, bind, Except.bind, here]
      rw [makeAlong, whole, exists_]
      dsimp only [settleDirectory]
      rw [isDirectory]

end FileTree

end AnchorLint
