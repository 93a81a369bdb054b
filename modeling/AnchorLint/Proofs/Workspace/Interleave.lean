import AnchorLint.Proofs.Workspace.Version
import Mathlib.Algebra.GroupWithZero.Nat

/-!
# Edits of different documents

An edit inserts, updates or removes the document at one path.  It looks at this
document and at no other one, and it changes no other one.  So two sequences of
edits of different documents do not notice each other: in whatever order their
edits are mixed, each of them gets the answer that it gets when one sequence runs
behind the other, and the workspace behind them gives the same answers and has the
same version.
-/

namespace AnchorLint

/-- Whether a list is made of two others, each of which keeps its order. -/
inductive Interleaves {α : Type} : List α → List α → List α → Prop where
  | nil : Interleaves [] [] []
  | left {item : α} {first second mixed : List α} :
      Interleaves first second mixed →
      Interleaves (item :: first) second (item :: mixed)
  | right {item : α} {first second mixed : List α} :
      Interleaves first second mixed →
      Interleaves first (item :: second) (item :: mixed)

theorem Interleaves.sum_map {α : Type} {first second mixed : List α}
    (interleaves : Interleaves first second mixed) (weight : α → Nat) :
    (mixed.map weight).sum =
      (first.map weight).sum + (second.map weight).sum := by
  induction interleaves with
  | nil => rfl
  | left _ ih =>
      simp only [List.map_cons, List.sum_cons, ih]
      omega
  | right _ ih =>
      simp only [List.map_cons, List.sum_cons, ih]
      omega

namespace Workspace

/-- What is done to one document. -/
inductive Edit.Deed where
  | insert (stored : Stored)
  | update (text : Text)
  | remove

/-- A change of the document at one path. -/
structure Edit where
  path : Text
  deed : Edit.Deed

namespace Edit

def key (edit : Edit) : Text :=
  Path.normalize edit.path

def toChange (edit : Edit) : Change :=
  match edit.deed with
  | .insert stored => .insert edit.path stored
  | .update text => .update edit.path text
  | .remove => .remove edit.path

def apply (workspace : Workspace) (edit : Edit) : Workspace :=
  edit.toChange.apply workspace

def reply (workspace : Workspace) (edit : Edit) : Reply :=
  edit.toChange.reply workspace

end Edit

def after (workspace : Workspace) (edits : List Edit) : Workspace :=
  edits.foldl Edit.apply workspace

/-- A sequence of edits, each with its answer. -/
def transcript (workspace : Workspace) : List Edit → List (Edit × Reply)
  | [] => []
  | edit :: edits =>
    (edit, edit.reply workspace) :: (edit.apply workspace).transcript edits

theorem after_ofChanges (dialect : Dialect) (changes : List Change)
    (edits : List Edit) :
    (ofChanges dialect changes).after edits =
      ofChanges dialect (changes ++ edits.map Edit.toChange) := by
  rw [ofChanges_append, List.foldl_map]
  rfl

/-! ## One edit -/

theorem Edit.version_apply (workspace : Workspace) (edit : Edit) :
    (edit.apply workspace).version =
      workspace.version + (edit.reply workspace).growth := by
  obtain ⟨path, deed⟩ := edit
  cases deed with
  | insert stored => rfl
  | update text => exact version_update workspace path text
  | remove => exact version_remove workspace path

theorem version_after (workspace : Workspace) (edits : List Edit) :
    (workspace.after edits).version = workspace.version +
      ((workspace.transcript edits).map fun entry => entry.2.growth).sum := by
  induction edits generalizing workspace with
  | nil => rfl
  | cons edit edits ih =>
      have later := ih (edit.apply workspace)
      rw [edit.version_apply] at later
      simp only [transcript, List.map_cons, List.sum_cons]
      rw [← Nat.add_assoc]
      exact later

theorem Edit.dialect_apply (workspace : Workspace) (edit : Edit) :
    (edit.apply workspace).dialect = workspace.dialect := by
  obtain ⟨path, deed⟩ := edit
  cases deed with
  | insert stored => rfl
  | remove => rfl
  | update text =>
      rw [Edit.apply, Edit.toChange, Change.apply]
      rcases workspace.update_outcomes path text with
        current | ⟨error, failed⟩ | ⟨document, indexed⟩
      · rw [current]
      · rw [failed]
      · rw [indexed]
        rfl

theorem Edit.lookup_apply_of_ne (workspace : Workspace) (edit : Edit)
    {key : Text} (different : key ≠ edit.key) :
    (edit.apply workspace).files.lookup key = workspace.files.lookup key := by
  obtain ⟨path, deed⟩ := edit
  have inserted (stored : Stored) :
      (workspace.insert path stored).files.lookup key =
        workspace.files.lookup key :=
    Entries.lookup_put_of_ne _ different stored
  cases deed with
  | insert stored => exact inserted stored
  | remove => exact Entries.lookup_erase_of_ne _ different
  | update text =>
      rw [Edit.apply, Edit.toChange, Change.apply]
      rcases workspace.update_outcomes path text with
        current | ⟨error, failed⟩ | ⟨document, indexed⟩
      · rw [current]
      · rw [failed]
      · rw [indexed]
        exact inserted _

/-- What an edit does and what it is answered follow from the document that it
is about. -/
theorem Edit.apply_congr {first second : Workspace} (edit : Edit)
    (dialect : first.dialect = second.dialect)
    (held : first.files.lookup edit.key = second.files.lookup edit.key) :
    edit.reply first = edit.reply second ∧
      (edit.apply first).files.lookup edit.key =
        (edit.apply second).files.lookup edit.key := by
  obtain ⟨path, deed⟩ := edit
  have inserted (stored : Stored) :
      (first.insert path stored).files.lookup (Path.normalize path) =
        (second.insert path stored).files.lookup (Path.normalize path) := by
    rw [files_insert, files_insert, Entries.lookup_put_self,
      Entries.lookup_put_self]
  cases deed with
  | insert stored => exact ⟨rfl, inserted stored⟩
  | remove =>
      refine ⟨congrArg Reply.removed held, ?_⟩
      change (first.remove path).files.lookup (Path.normalize path) =
        (second.remove path).files.lookup (Path.normalize path)
      rw [files_remove, files_remove, Entries.lookup_erase_self,
        Entries.lookup_erase_self]
  | update text =>
      have stale (digest : Text) :
          first.isStale path digest = second.isStale path digest := by
        unfold isStale get?
        rw [show first.files.lookup (Path.normalize path) =
          second.files.lookup (Path.normalize path) from held]
      simp only [Edit.apply, Edit.reply, Edit.toChange, Change.apply,
        Change.reply, Workspace.update]
      rw [stale, dialect]
      split
      · cases Document.index second.dialect text with
        | error error => exact ⟨rfl, held⟩
        | ok document => exact ⟨rfl, inserted _⟩
      · exact ⟨rfl, held⟩

/-! ## Two sequences -/

/-- Whether two workspaces hold the same documents at some keys. -/
structure AgreeOn (keys : Text → Prop) (first second : Workspace) : Prop where
  dialect : first.dialect = second.dialect
  held : ∀ key, keys key → first.files.lookup key = second.files.lookup key

namespace AgreeOn

variable {keys : Text → Prop} {first second : Workspace}

theorem refl (keys : Text → Prop) (workspace : Workspace) :
    AgreeOn keys workspace workspace :=
  ⟨rfl, fun _ _ => rfl⟩

theorem trans {third : Workspace} (left : AgreeOn keys first second)
    (right : AgreeOn keys second third) : AgreeOn keys first third where
  dialect := left.dialect.trans right.dialect
  held key member := (left.held key member).trans (right.held key member)

theorem apply (agree : AgreeOn keys first second) {edit : Edit}
    (inside : keys edit.key) :
    edit.reply first = edit.reply second ∧
      AgreeOn keys (edit.apply first) (edit.apply second) := by
  obtain ⟨reply, held⟩ :=
    edit.apply_congr agree.dialect (agree.held edit.key inside)
  refine ⟨reply, ?_, ?_⟩
  · rw [edit.dialect_apply, edit.dialect_apply, agree.dialect]
  · intro key member
    by_cases same : key = edit.key
    · rw [same]
      exact held
    · rw [edit.lookup_apply_of_ne _ same, edit.lookup_apply_of_ne _ same]
      exact agree.held key member

theorem of_apply (workspace : Workspace) {edit : Edit}
    (outside : ¬ keys edit.key) :
    AgreeOn keys (edit.apply workspace) workspace := by
  refine ⟨edit.dialect_apply workspace, ?_⟩
  intro key member
  apply edit.lookup_apply_of_ne
  rintro rfl
  exact outside member

theorem of_after (workspace : Workspace) {edits : List Edit}
    (outside : ∀ edit ∈ edits, ¬ keys edit.key) :
    AgreeOn keys (workspace.after edits) workspace := by
  induction edits generalizing workspace with
  | nil => exact refl keys workspace
  | cons edit edits ih =>
      obtain ⟨here, later⟩ := List.forall_mem_cons.mp outside
      exact (ih (edit.apply workspace) later).trans (of_apply workspace here)

end AgreeOn

/-- A workspace that holds at some keys what one workspace holds and at all other
keys what another one holds goes on doing so: each of the two sequences runs as if
it were alone. -/
theorem transcript_interleaves {keys : Text → Prop}
    {first second mixed : List Edit}
    (interleaves : Interleaves first second mixed)
    (inside : ∀ edit ∈ first, keys edit.key)
    (outside : ∀ edit ∈ second, ¬ keys edit.key) {both one other : Workspace}
    (left : AgreeOn keys both one)
    (right : AgreeOn (fun key => ¬ keys key) both other) :
    Interleaves (one.transcript first) (other.transcript second)
        (both.transcript mixed) ∧
      AgreeOn keys (both.after mixed) (one.after first) ∧
      AgreeOn (fun key => ¬ keys key) (both.after mixed)
        (other.after second) := by
  induction interleaves generalizing both one other with
  | nil => exact ⟨.nil, left, right⟩
  | @left edit first second mixed _ ih =>
      -- The first sequence goes on in step, and the second one, which looks only
      -- at the other keys, is as far as it was.
      obtain ⟨here, later⟩ := List.forall_mem_cons.mp inside
      obtain ⟨reply, agree⟩ := left.apply here
      have unnoticed : AgreeOn (fun key => ¬ keys key) (edit.apply both)
          other :=
        (AgreeOn.of_apply both (not_not_intro here)).trans right
      obtain ⟨transcripts, ends⟩ := ih later outside agree unnoticed
      refine ⟨?_, ends⟩
      rw [transcript, transcript, reply]
      exact .left transcripts
  | @right edit first second mixed _ ih =>
      obtain ⟨here, later⟩ := List.forall_mem_cons.mp outside
      obtain ⟨reply, agree⟩ := right.apply here
      have unnoticed : AgreeOn keys (edit.apply both) one :=
        (AgreeOn.of_apply both here).trans left
      obtain ⟨transcripts, ends⟩ := ih inside later unnoticed agree
      refine ⟨?_, ends⟩
      rw [transcript, transcript, reply]
      exact .right transcripts

/-- Edits of different documents commute.  However two sequences of them are
mixed, each edit is answered as it is when one sequence runs behind the other, and
the workspaces at the end give the same answers and have the same version. -/
theorem interleaving_agrees (dialect : Dialect) (changes : List Change)
    {first second mixed : List Edit}
    (interleaves : Interleaves first second mixed)
    (apart : ∀ one ∈ first, ∀ other ∈ second, one.key ≠ other.key) :
    let start := ofChanges dialect changes
    let sequential := (start.after first).after second
    Interleaves (start.transcript first)
        ((start.after first).transcript second) (start.transcript mixed) ∧
      (start.after mixed).AnswersAs sequential ∧
      (start.after mixed).version = sequential.version := by
  intro start sequential
  let keys : Text → Prop := fun key => ∃ edit ∈ first, edit.key = key
  have inside : ∀ edit ∈ first, keys edit.key := fun edit member =>
    ⟨edit, member, rfl⟩
  have outside : ∀ edit ∈ second, ¬ keys edit.key := by
    rintro other member ⟨one, inFirst, same⟩
    exact apart one inFirst other member same
  have unnoticed : AgreeOn (fun key => ¬ keys key) (start.after first) start :=
    AgreeOn.of_after start fun edit member => not_not_intro (inside edit member)
  obtain ⟨transcripts, left, right⟩ :=
    transcript_interleaves interleaves inside outside (AgreeOn.refl keys start)
      ⟨unnoticed.dialect.symm, fun key member =>
        (unnoticed.held key member).symm⟩
  refine ⟨transcripts, ?_, ?_⟩
  · have graph (edits : List Edit) : (start.after edits).Exact := by
      rw [after_ofChanges]
      exact exact_ofChanges dialect _
    have ends : sequential = start.after (first ++ second) :=
      List.foldl_append.symm
    have sequentialGraph : sequential.Exact := ends ▸ graph _
    apply (graph mixed).answersAs sequentialGraph
    intro key
    by_cases member : keys key
    · have kept := AgreeOn.of_after (start.after first) outside
      exact (left.held key member).trans (kept.held key member).symm
    · exact right.held key member
  · rw [version_after, version_after, version_after, transcripts.sum_map,
      Nat.add_assoc]

/-- Two pages with links to the same page, of which one is replaced and removed
while the other one is indexed. -/
theorem interleaving_agrees_linked :
    let linked : Text := "[c](c.md#x)".toList
    let first : List Edit := [⟨"a.md".toList, .update linked⟩,
      ⟨"./a.md".toList, .update []⟩, ⟨"b/../a.md".toList, .remove⟩]
    let second : List Edit := [⟨"b.md".toList, .update linked⟩,
      ⟨"b.md".toList, .update linked⟩]
    let mixed : List Edit := [⟨"a.md".toList, .update linked⟩,
      ⟨"b.md".toList, .update linked⟩, ⟨"./a.md".toList, .update []⟩,
      ⟨"b.md".toList, .update linked⟩, ⟨"b/../a.md".toList, .remove⟩]
    let start : Workspace := { dialect := .github }
    (Interleaves first second mixed ∧
      ∀ one ∈ first, ∀ other ∈ second, one.key ≠ other.key) ∧
    Interleaves (start.transcript first)
      ((start.after first).transcript second) (start.transcript mixed) ∧
    (start.after mixed).AnswersAs ((start.after first).after second) ∧
    (start.after mixed).version =
      ((start.after first).after second).version := by
  intro linked first second mixed start
  have interleaves : Interleaves first second mixed :=
    .left (.right (.left (.right (.left .nil))))
  have apart : ∀ one ∈ first, ∀ other ∈ second, one.key ≠ other.key := by
    simp only [first, second, List.forall_mem_cons]
    decide
  exact ⟨⟨interleaves, apart⟩,
    interleaving_agrees .github [] interleaves apart⟩

end Workspace

end AnchorLint
