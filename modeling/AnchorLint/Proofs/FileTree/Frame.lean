import AnchorLint.FileTree.Basic
import AnchorLint.Proofs.Data.Outcome
import Mathlib.Data.List.Induction

/-!
# Trees that differ at one place

An operation on a file or directory changes a tree at one place, which has not
been a directory.  Paths are followed through directories only, so they lead where
they led before, and what stands at any other place stays.
-/

namespace AnchorLint

namespace FileTree

/-- Whether a path leads to a place where a file stands or may be put. -/
def Admits (tree : FileTree) (path : FilePath) : Prop :=
  ∃ place, tree.locate path = .ok place ∧
    tree.nodeAt? place ≠ some .directory

/-- Whether everything stands in a directory. -/
def IsRooted (tree : FileTree) : Prop :=
  ∀ segments, segments ≠ [] → tree.nodeAt? segments ≠ none →
    tree.nodeAt? segments.dropLast = some .directory

/-- Whether two trees are the same except at one place, which is no directory in
the first of them. -/
structure DiffersAt (place : List Text) (tree other : FileTree) : Prop where
  workingDirectory : other.workingDirectory = tree.workingDirectory
  elsewhere : ∀ segments, segments ≠ place →
    other.nodeAt? segments = tree.nodeAt? segments
  notDirectory : tree.nodeAt? place ≠ some .directory

namespace DiffersAt

variable {place : List Text} {tree other : FileTree}

theorem directory (differs : DiffersAt place tree other) {segments : List Text}
    (isDirectory : tree.nodeAt? segments = some .directory) :
    other.nodeAt? segments = some .directory := by
  have different : segments ≠ place := by
    rintro rfl
    exact differs.notDirectory isDirectory
  rw [differs.elsewhere segments different, isDirectory]

theorem follow (differs : DiffersAt place tree other) {start : List Text}
    {parts : List Text} {goal : List Text}
    (leads : tree.follow start parts = .ok goal) :
    other.follow start parts = .ok goal := by
  induction parts generalizing start with
  | nil => exact leads
  | cons part parts ih =>
      rw [FileTree.follow] at leads ⊢
      cases here : tree.nodeAt? start with
      | none => simp [here] at leads
      | some node =>
          cases node with
          | file content => simp [here] at leads
          | directory =>
              rw [differs.directory here]
              rw [here] at leads
              dsimp only at leads ⊢
              split at leads
              · cases leads
              · rename_i short
                rw [if_neg short]
                exact ih leads

theorem start (differs : DiffersAt place tree other) (path : FilePath) :
    other.start path = tree.start path := by
  unfold FileTree.start
  rw [differs.workingDirectory]

theorem locate (differs : DiffersAt place tree other) {path : FilePath}
    {goal : List Text} (leads : tree.locate path = .ok goal) :
    other.locate path = .ok goal := by
  unfold FileTree.locate at leads ⊢
  repeat' split at leads
  · cases leads
  · cases leads
  · rename_i possible short
    rw [if_neg possible, if_neg short, differs.start]
    exact differs.follow leads

theorem admits (differs : DiffersAt place tree other) {path : FilePath}
    (elsewhere : tree.locate path ≠ .ok place) (admits : tree.Admits path) :
    other.Admits path := by
  obtain ⟨goal, leads, notDirectory⟩ := admits
  have different : goal ≠ place := by
    rintro rfl
    exact elsewhere leads
  refine ⟨goal, differs.locate leads, ?_⟩
  rw [differs.elsewhere goal different]
  exact notDirectory

theorem isRooted (differs : DiffersAt place tree other) (rooted : tree.IsRooted)
    (parent : tree.nodeAt? place.dropLast = some .directory) :
    other.IsRooted := by
  intro segments proper present
  by_cases same : segments = place
  · subst same
    exact differs.directory parent
  · rw [differs.elsewhere segments same] at present
    exact differs.directory (rooted segments proper present)

end DiffersAt

/-! ## Ways down -/

variable {tree other : FileTree}

theorem follow_append_eq_ok {start goal : List Text}
    {first second : List Text} :
    tree.follow start (first ++ second) = .ok goal ↔
      ∃ middle, tree.follow start first = .ok middle ∧
        tree.follow middle second = .ok goal := by
  induction first generalizing start with
  | nil => simp [follow]
  | cons part first ih =>
      rw [List.cons_append, follow, follow]
      split
      · simp
      · simp
      · split
        · simp
        · exact ih

theorem follow_eq_append {start goal names : List Text}
    (level : climb ∉ names)
    (leads : tree.follow start names = .ok goal) : goal = start ++ names := by
  induction names generalizing start with
  | nil =>
      rw [List.append_nil]
      exact (Except.ok.inj leads).symm
  | cons name names ih =>
      obtain ⟨different, levelLater⟩ := not_or.mp (mt List.mem_cons.mpr level)
      rw [follow] at leads
      split at leads
      · cases leads
      · cases leads
      · split at leads
        · cases leads
        · rw [if_neg (Ne.symm different)] at leads
          rw [ih levelLater leads, List.append_assoc, List.singleton_append]

theorem directory_of_follow {start goal names : List Text} {name : Text}
    (different : name ≠ climb)
    (leads : tree.follow start (names ++ [name]) = .ok goal) :
    tree.nodeAt? goal.dropLast = some .directory := by
  obtain ⟨middle, -, last⟩ := follow_append_eq_ok.mp leads
  rw [follow] at last
  split at last
  · cases last
  · cases last
  · rename_i isDirectory
    rw [if_neg different] at last
    split at last
    · cases last
    · obtain rfl := Except.ok.inj last
      rw [List.dropLast_concat]
      exact isDirectory

theorem IsRooted.above (rooted : tree.IsRooted) {segments : List Text}
    {name : Text} {names : List Text}
    (present : tree.nodeAt? (segments ++ name :: names) ≠ none) :
    tree.nodeAt? segments = some .directory := by
  induction names using List.reverseRecOn with
  | nil =>
      have parent := rooted _ (by simp) present
      rwa [List.dropLast_concat] at parent
  | append_singleton names last ih =>
      refine ih ?_
      rw [← List.cons_append, ← List.append_assoc] at present
      have parent := rooted _ (by simp) present
      rw [List.dropLast_concat] at parent
      rw [parent]
      simp

/-- A way down to something that exists can be followed if it can in another
tree. -/
theorem IsRooted.follow (rooted : tree.IsRooted) {start goal names : List Text}
    (level : climb ∉ names) (leads : other.follow start names = .ok goal)
    (present : tree.nodeAt? goal ≠ none) :
    tree.follow start names = .ok goal := by
  obtain rfl := follow_eq_append level leads
  induction names generalizing start with
  | nil => exact leads
  | cons name names ih =>
      obtain ⟨different, levelLater⟩ := not_or.mp (mt List.mem_cons.mpr level)
      rw [FileTree.follow, rooted.above present]
      rw [List.append_cons start name names] at present leads ⊢
      rw [FileTree.follow] at leads
      split at leads
      · cases leads
      · cases leads
      · split at leads
        · cases leads
        · rename_i short
          rw [if_neg (Ne.symm different)] at leads
          rw [if_neg short, if_neg (Ne.symm different)]
          exact ih levelLater leads present

end FileTree

end AnchorLint
