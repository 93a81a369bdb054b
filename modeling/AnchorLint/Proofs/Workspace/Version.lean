import AnchorLint.Proofs.Lint.Check
import AnchorLint.Proofs.Workspace.Change
import AnchorLint.Workspace.Query

/-!
# Versions tell changes

The version of a workspace grows with every change of its documents.  This file
counts by how much: each change is answered, and the version grows by what the
answer says.  A change that lets the version stay leaves every document where it
is, and so the version is the same at two points of a run only if all questions
have the same answers there.
-/

namespace AnchorLint

namespace Workspace

/-! ## Workspaces that hold the same documents -/

/-- Whether two workspaces give the same answers to all questions about their
documents. -/
structure AnswersAs (first second : Workspace) : Prop where
  sorted : first.sorted = second.sorted
  dependents : ∀ path, first.dependents path = second.dependents path
  hasAnchor : ∀ path fragment,
    first.hasAnchor path fragment = second.hasAnchor path fragment
  isDisabledAt : ∀ path rule line,
    first.isDisabledAt path rule line = second.isDisabledAt path rule line
  unresolvedAt : ∀ path, first.unresolvedAt path = second.unresolvedAt path
  unresolvedLinks : ∀ path document,
    first.unresolvedLinks path document = second.unresolvedLinks path document

theorem pairwise_sorted {workspace : Workspace}
    (nodup : (Entries.keys workspace.files).Nodup) :
    workspace.sorted.Pairwise fun first second => first.1 < second.1 := by
  have distinct : workspace.sorted.Pairwise fun first second =>
      first.1 ≠ second.1 := by
    apply List.pairwise_map.mp
    exact ((List.mergeSort_perm workspace.files _).map Prod.fst).nodup_iff.mpr
      nodup
  have ordered : workspace.sorted.Pairwise fun first second =>
      Text.le first.1 second.1 = true := by
    apply List.pairwise_mergeSort
    · intro one two three
      exact Text.le_transitive one.1 two.1 three.1
    · intro one two
      exact Text.le_or_le one.1 two.1
  refine (distinct.and ordered).imp ?_
  rintro one two ⟨different, before⟩
  rw [Text.le_iff] at before
  exact (lt_or_gt_of_ne different).resolve_right before

theorem sorted_congr {first second : Workspace}
    (left : (Entries.keys first.files).Nodup)
    (right : (Entries.keys second.files).Nodup)
    (same : ∀ key, first.files.lookup key = second.files.lookup key) :
    first.sorted = second.sorted := by
  have files : first.files.Perm second.files := by
    apply (List.perm_ext_iff_of_nodup left.of_map right.of_map).mpr
    rintro ⟨key, stored⟩
    rw [← Entries.lookup_eq_some_iff_mem left,
      ← Entries.lookup_eq_some_iff_mem right, same]
  have sorted : first.sorted.Perm second.sorted :=
    ((List.mergeSort_perm _ _).trans files).trans (List.mergeSort_perm _ _).symm
  refine sorted.eq_of_pairwise ?_ (pairwise_sorted left) (pairwise_sorted right)
  intro one other _ _ below above
  exact absurd above below.asymm

theorem Exact.answersAs {first second : Workspace} (left : first.Exact)
    (right : second.Exact)
    (same : ∀ key, first.files.lookup key = second.files.lookup key) :
    first.AnswersAs second := by
  have held (path : Text) : first.get? path = second.get? path := same _
  have links (path : Text) (document : Document) :
      first.unresolvedLinks path document =
        second.unresolvedLinks path document :=
    unresolvedLinks_congr fun target _ => held target
  refine ⟨sorted_congr left.nodup right.nodup same, ?_, ?_, ?_, ?_, links⟩
  · apply left.dependents_congr right
    intro key target
    rw [same]
  · intro path fragment
    rw [Workspace.hasAnchor, Workspace.hasAnchor, held]
  · intro path rule line
    rw [Workspace.isDisabledAt, Workspace.isDisabledAt, held]
  · intro path
    rw [Workspace.unresolvedAt, Workspace.unresolvedAt, held]
    cases second.get? path with
    | none => rfl
    | some stored =>
        cases stored with
        | indexed document =>
            dsimp only
            rw [links]
        | cached record => exact unresolvedRecords_congr fun target _ => held target

/-! ## What a change is answered -/

/-- The answer to a change: whether an update has indexed its text, which
document has been removed, how many have been dropped. -/
inductive Reply where
  | done
  | updated (outcome : Except IndexError Bool)
  | removed (stored : Option Stored)
  | dropped (count : Nat)

/-- The answer to a change of a workspace. -/
def Change.reply (workspace : Workspace) : Change → Reply
  | insert _ _ => .done
  | update path text => .updated ((workspace.update path text).map Prod.fst)
  | remove path => .removed (workspace.get? path)
  | clear => .done
  | retain paths => .dropped (workspace.outside paths).length

/-- How many documents have been put in or taken out, as far as versions count
them. -/
def Reply.growth : Reply → Nat
  | done => 1
  | updated (.ok isNew) => if isNew then 1 else 0
  | updated (.error _) => 0
  | removed stored => if stored.isSome then 1 else 0
  | dropped count => count

variable {workspace : Workspace}

theorem update_outcomes (workspace : Workspace) (path text : Text) :
    workspace.update path text = .ok (false, workspace) ∨
      (∃ error, workspace.update path text = .error error) ∨
      ∃ document, workspace.update path text =
        .ok (true, workspace.insert path (.indexed document)) := by
  unfold update
  split
  · cases Document.index workspace.dialect text with
    | error error => exact Or.inr (Or.inl ⟨error, rfl⟩)
    | ok document => exact Or.inr (Or.inr ⟨document, rfl⟩)
  · exact Or.inl rfl

theorem version_remove (workspace : Workspace) (path : Text) :
    (workspace.remove path).version = workspace.version +
      (Reply.removed (workspace.get? path)).growth := by
  unfold remove Reply.growth get?
  dsimp only [dropLinks]
  split <;> rfl

theorem version_update (workspace : Workspace) (path text : Text) :
    ((Change.update path text).apply workspace).version = workspace.version +
      ((Change.update path text).reply workspace).growth := by
  rw [Change.apply, Change.reply]
  rcases workspace.update_outcomes path text with
    current | ⟨error, failed⟩ | ⟨document, indexed⟩
  · rw [current]
    rfl
  · rw [failed]
    rfl
  · rw [indexed]
    rfl

/-- Removing some of the documents of a workspace, each of them once, counts all
of them. -/
theorem version_foldl_remove {keys : List Text} (graph : workspace.Exact)
    (stored : ∀ key ∈ keys, key ∈ Entries.keys workspace.files)
    (nodup : keys.Nodup) :
    (keys.foldl (fun workspace key => workspace.remove key)
      workspace).version = workspace.version + keys.length := by
  induction keys generalizing workspace with
  | nil => rfl
  | cons key keys ih =>
      obtain ⟨here, later⟩ := List.forall_mem_cons.mp stored
      obtain ⟨missing, distinct⟩ := List.nodup_cons.mp nodup
      have normal := graph.normalized key here
      have known : (workspace.get? key).isSome = true := by
        rw [get?, normal]
        exact Entries.isSome_lookup_iff.mpr here
      have remaining : ∀ other ∈ keys,
          other ∈ Entries.keys (workspace.remove key).files := by
        intro other member
        rw [files_remove, Entries.mem_keys_erase, normal]
        refine ⟨?_, later other member⟩
        rintro rfl
        exact missing member
      rw [List.foldl_cons, ih (graph.remove key) remaining distinct,
        version_remove, Reply.growth, if_pos known, List.length_cons]
      omega

theorem version_retain (graph : workspace.Exact) (paths : List Text) :
    (workspace.retain paths).version =
      workspace.version + (workspace.outside paths).length := by
  apply version_foldl_remove graph
  · intro key member
    exact (List.mem_filter.mp member).1
  · exact graph.nodup.filter _

/-- The version grows by what the answer says. -/
theorem Exact.version_apply (graph : workspace.Exact) (change : Change) :
    (change.apply workspace).version =
      workspace.version + (change.reply workspace).growth := by
  cases change with
  | insert path stored => rfl
  | update path text => exact version_update workspace path text
  | remove path => exact version_remove workspace path
  | clear => rfl
  | retain paths => exact version_retain graph paths

/-! ## Changes that do not count -/

theorem files_remove_of_missing {path : Text}
    (missing : workspace.get? path = none) :
    (workspace.remove path).files = workspace.files := by
  rw [files_remove]
  apply List.filter_eq_self.mpr
  intro entry member
  have different : entry.1 ≠ Path.normalize path := by
    intro same
    apply Entries.lookup_eq_none_iff_not_mem.mp missing
    rw [← same]
    exact Entries.mem_keys_of_mem member
  simpa using different

theorem files_apply_of_growth {change : Change}
    (idle : (change.reply workspace).growth = 0) :
    (change.apply workspace).files = workspace.files := by
  cases change with
  | insert path stored => cases idle
  | update path text =>
      rw [Change.reply] at idle
      rw [Change.apply]
      rcases workspace.update_outcomes path text with
        current | ⟨error, failed⟩ | ⟨document, indexed⟩
      · rw [current]
      · rw [failed]
      · rw [indexed] at idle
        cases idle
  | remove path =>
      apply files_remove_of_missing
      cases held : workspace.get? path with
      | none => rfl
      | some stored =>
          rw [Change.reply, held] at idle
          cases idle
  | clear => cases idle
  | retain paths =>
      have nothing : workspace.outside paths = [] :=
        List.eq_nil_of_length_eq_zero idle
      rw [Change.apply, Workspace.retain, nothing]
      rfl

/-! ## Runs -/

theorem ofChanges_append (dialect : Dialect) (before between : List Change) :
    ofChanges dialect (before ++ between) =
      between.foldl Change.apply (ofChanges dialect before) :=
  List.foldl_append

theorem ofChanges_concat (dialect : Dialect) (changes : List Change)
    (last : Change) :
    ofChanges dialect (changes ++ [last]) =
      last.apply (ofChanges dialect changes) :=
  ofChanges_append dialect changes [last]

/-- No change lets the version shrink, and as long as it stays the documents
do. -/
theorem version_le_ofChanges (dialect : Dialect)
    (before between : List Change) :
    (ofChanges dialect before).version ≤
        (ofChanges dialect (before ++ between)).version ∧
      ((ofChanges dialect before).version =
          (ofChanges dialect (before ++ between)).version →
        (ofChanges dialect before).files =
          (ofChanges dialect (before ++ between)).files) := by
  induction between using List.reverseRecOn with
  | nil =>
      rw [List.append_nil]
      exact ⟨Nat.le_refl _, fun _ => rfl⟩
  | append_singleton between last ih =>
      obtain ⟨grows, stays⟩ := ih
      rw [← List.append_assoc, ofChanges_concat]
      -- Equal versions at both ends leave no room for growth in between.
      have counted :=
        (exact_ofChanges dialect (before ++ between)).version_apply last
      refine ⟨by omega, fun same => ?_⟩
      rw [stays (by omega)]
      exact (files_apply_of_growth (by omega)).symm

/-- The version of a workspace never shrinks, and where it is the same at two
points of a run, all answers are.  It grows by one with each document that is put
in, by an insertion or by an update that indexes its text, by one with each
document that is taken out, by the number of documents that retaining drops, and
by one when the workspace is cleared; nothing else moves it. -/
theorem version_detects_changes (dialect : Dialect)
    (before between : List Change) :
    let earlier := ofChanges dialect before
    let later := ofChanges dialect (before ++ between)
    earlier.version ≤ later.version ∧
    (earlier.version = later.version → earlier.AnswersAs later) ∧
    ∀ change : Change, (change.apply earlier).version =
      earlier.version + (change.reply earlier).growth := by
  intro earlier later
  obtain ⟨grows, stays⟩ := version_le_ofChanges dialect before between
  have graph : earlier.Exact := exact_ofChanges dialect before
  refine ⟨grows, fun same => ?_, graph.version_apply⟩
  apply graph.answersAs (exact_ofChanges dialect _)
  intro key
  rw [stays same]

end Workspace

end AnchorLint
