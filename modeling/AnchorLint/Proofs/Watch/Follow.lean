import AnchorLint.Proofs.Watch.Applied

/-!
# Watched files

Files below a root are created, modified, deleted and moved, and a watch notes which
of them were added, modified and deleted, but not in which order.  This file shows
that the notes are enough at any time: what is not noted is in the workspace as it
is on disk, and a file that is noted as deleted only is not there.

New directories are made where no file is watched, so that no path is a watched
file at one time and a directory at another.
-/

namespace AnchorLint

/-! ## Notes -/

theorem FilePath.mem_insertInto {path other : FilePath} {paths : List FilePath} :
    other ∈ path.insertInto paths ↔ other = path ∨ other ∈ paths := by
  unfold insertInto
  split
  · rename_i known
    constructor
    · exact Or.inr
    · rintro (rfl | old)
      · exact List.contains_iff_mem.mp known
      · exact old
  · rw [List.mem_append, List.mem_singleton, or_comm]

namespace Pending

def paths (pending : Pending) : List FilePath :=
  pending.added ++ pending.modified ++ pending.deleted

/-- Whether the notes about all files but one are the same. -/
structure KeepsOthers (path : FilePath) (before after : Pending) : Prop where
  paths : ∀ other, other ≠ path →
    (other ∈ after.paths ↔ other ∈ before.paths)
  added : ∀ other, other ≠ path →
    (other ∈ after.added ↔ other ∈ before.added)
  deleted : ∀ other, other ≠ path →
    (other ∈ after.deleted ↔ other ∈ before.deleted)

variable {now : Instant} {path : FilePath} {pending : Pending}

theorem keepsOthers_self : KeepsOthers path pending pending where
  paths _ _ := Iff.rfl
  added _ _ := Iff.rfl
  deleted _ _ := Iff.rfl

theorem keepsOthers_add : KeepsOthers path pending (pending.add now path) where
  paths := by simp +contextual [Pending.paths, add, FilePath.mem_insertInto]
  added := by simp +contextual [add, FilePath.mem_insertInto]
  deleted _ _ := Iff.rfl

theorem keepsOthers_modify :
    KeepsOthers path pending (pending.modify now path) where
  paths := by simp +contextual [Pending.paths, modify, FilePath.mem_insertInto]
  added _ _ := Iff.rfl
  deleted _ _ := Iff.rfl

theorem keepsOthers_delete :
    KeepsOthers path pending (pending.delete now path) where
  paths := by simp +contextual [Pending.paths, delete, FilePath.mem_insertInto]
  added _ _ := Iff.rfl
  deleted := by simp +contextual [delete, FilePath.mem_insertInto]

theorem mem_changed_batch (member : path ∈ pending.batch.changed) :
    path ∈ pending.paths := by
  simp only [batch, List.mem_filter, List.mem_append] at member
  simp only [Pending.paths, List.mem_append]
  tauto

theorem mem_deleted_batch : path ∈ pending.batch.deleted ↔
    path ∈ pending.deleted ∧ path ∉ pending.added := by
  simp [batch]

theorem mem_batch (member : path ∈ pending.paths) :
    path ∈ pending.batch.changed ∨ path ∈ pending.batch.deleted := by
  simp only [Pending.paths, List.mem_append] at member
  simp only [batch, List.mem_filter, List.mem_append, List.contains_eq_mem,
    Bool.not_eq_true', decide_eq_false_iff_not, Bool.or_eq_true,
    decide_eq_true_eq]
  tauto

end Pending

/-! ## Watched files -/

theorem Storage.wants_route {storage : Storage}
    (possible : FileTree.isPossible storage.root = true) (tree other : FileTree)
    (route : Route) :
    storage.wants tree (route.path storage.root) =
      storage.wants other (route.path storage.root) := by
  simp only [wants, Route.key_path possible]

theorem Storage.textAt?_of_differsAt {place : List Text} {tree after : FileTree}
    {root : FilePath} {route other : Route} (rooted : tree.IsRooted)
    (leads : tree.locate (route.path root) = .ok place)
    (differs : FileTree.DiffersAt place tree after) (different : other ≠ route) :
    textAt? after (other.path root) = textAt? tree (other.path root) := by
  rw [textAt?_eq, textAt?_eq]
  refine congrArg (Option.map textOf) (Option.ext fun content => ?_)
  rw [Outcome.toOption_eq_some, Outcome.toOption_eq_some]
  exact Route.read_of_differsAt rooted leads differs different

/-- The files, what is noted about them, and the session that follows them. -/
structure Watched where
  tree : FileTree
  pending : Pending := {}
  session : Session

namespace Watched

/-- Something that happens to a file or a directory below the root, or the
application of what has been noted. -/
inductive Step where
  | create (now : Instant) (route : Route) (content : Bytes)
  | modify (now : Instant) (route : Route) (content : Bytes)
  | delete (now : Instant) (route : Route)
  | move (now : Instant) (source target : Route)
  | makeDirectory (now : Instant) (route : Route)
  | flush

def Step.content? : Step → Option Bytes
  | create _ _ content => some content
  | modify _ _ content => some content
  | delete _ _ => none
  | move _ _ _ => none
  | makeDirectory _ _ => none
  | flush => none

def path (watched : Watched) (route : Route) : FilePath :=
  route.path watched.session.storage.root

/-- Changes the files, if that is possible, and observes the event. -/
def attempt (watched : Watched) (now : Instant) (event : FileEvent) :
    Except FileError FileTree → Watched
  | .error _ => watched
  | .ok tree =>
    { watched with
      tree := tree
      pending := watched.pending.observe (watched.session.storage.wants tree)
        now event }

def flush (watched : Watched) : Watched :=
  match watched.pending.flush with
  | (none, pending) => { watched with pending := pending }
  | (some batch, pending) =>
    { watched with
      pending := pending
      session := (watched.session.relint watched.tree batch).2.1 }

/-- What a step leads to.  Only a file that exists can be modified, deleted or
moved. -/
def advance (watched : Watched) : Step → Watched
  | .create now route content =>
    watched.attempt now { change := .created (watched.path route) }
      (watched.tree.write (watched.path route) content)
  | .modify now route content =>
    watched.attempt now { change := .modified (watched.path route) } do
      let _ ← watched.tree.read (watched.path route)
      watched.tree.write (watched.path route) content
  | .delete now route =>
    watched.attempt now { change := .deleted (watched.path route) }
      (watched.tree.delete (watched.path route))
  | .move now source target =>
    watched.attempt now
      { change := .moved (watched.path source) (watched.path target) }
      (watched.tree.rename (watched.path source) (watched.path target))
  | .makeDirectory now route =>
    watched.attempt now
      { change := .created (watched.path route), onDirectory := true }
      (watched.tree.makeDirectory (watched.path route))
  | .flush => watched.flush

def run (watched : Watched) (steps : List Step) : Watched :=
  steps.foldl advance watched

/-- Whether changes of a file are noted. -/
def Watches (watched : Watched) (route : Route) : Prop :=
  Pending.isRelevant (watched.session.storage.wants watched.tree)
    (watched.path route) = true

/-! ## The invariant -/

/-- A watch has noted every file in which the workspace may differ from what is on
disk, and a file that was deleted and not added since is not there.  The root and
the dialect stay; `texts` are all texts that are ever in a file, and they can be
indexed and told apart. -/
structure Follows (storage : Storage) (dialect : Dialect) (texts : Set Text)
    (watched : Watched) : Prop where
  possible : FileTree.isPossible storage.root = true
  canIndex : ∀ text ∈ texts, Document.CanIndex dialect text
  injective : Set.InjOn Digest.ofText texts
  sameStorage : watched.session.storage = storage
  sameDialect : watched.session.workspace.dialect = dialect
  rooted : watched.tree.IsRooted
  inTexts : ∀ route text,
    Storage.textAt? watched.tree (watched.path route) = some text → text ∈ texts
  noted : ∀ path ∈ watched.pending.paths, watched.tree.Admits path ∧
    ∃ route, path = watched.path route ∧ watched.Watches route
  gone : ∀ path ∈ watched.pending.deleted, path ∉ watched.pending.added →
    Storage.textAt? watched.tree path = none
  held : ∀ route stored, watched.Watches route →
    watched.session.workspace.get? route.key = some stored →
      ∃ text ∈ texts, Stored.ofText? dialect text = some stored
  current : ∀ route, watched.Watches route →
    watched.path route ∉ watched.pending.paths →
      watched.session.workspace.get? route.key =
        (Storage.textAt? watched.tree (watched.path route)).bind
          (Stored.ofText? dialect)

variable {storage : Storage} {dialect : Dialect} {texts : Set Text}
  {watched : Watched}

theorem watches_congr {other : Watched}
    (same : other.session.storage = watched.session.storage)
    (possible : FileTree.isPossible watched.session.storage.root = true)
    (route : Route) : other.Watches route ↔ watched.Watches route := by
  unfold Watches Pending.isRelevant path
  rw [same, Storage.wants_route possible other.tree watched.tree]

/-- Something is changed at the place of one file.  The file is noted exactly if it
is watched, and a note that it was deleted does not stand alone if it is there. -/
theorem Follows.touch (follows : Follows storage dialect texts watched)
    {route : Route} {place : List Text}
    (leads : watched.tree.locate (watched.path route) = .ok place)
    {tree : FileTree} (differs : FileTree.DiffersAt place watched.tree tree)
    (notDirectory : watched.Watches route → tree.nodeAt? place ≠ some .directory)
    (inTexts : ∀ text, Storage.textAt? tree (watched.path route) = some text →
      text ∈ texts)
    {pending : Pending}
    (keeps : Pending.KeepsOthers (watched.path route) watched.pending pending)
    (isNoted : watched.path route ∈ pending.paths ↔ watched.Watches route)
    (gone : watched.path route ∈ pending.deleted →
      watched.path route ∉ pending.added →
      Storage.textAt? tree (watched.path route) = none) :
    Follows storage dialect texts
      { watched with tree := tree, pending := pending } := by
  have sameText {other : Route} (different : other ≠ route) :
      Storage.textAt? tree (watched.path other) =
        Storage.textAt? watched.tree (watched.path other) :=
    Storage.textAt?_of_differsAt follows.rooted leads differs different
  have possible := follows.sameStorage ▸ follows.possible
  have watches (other : Route) :
      Watches { watched with tree := tree, pending := pending } other ↔
        watched.Watches other := watches_congr (by rfl) possible other
  exact
    { possible := follows.possible
      canIndex := follows.canIndex
      injective := follows.injective
      sameStorage := follows.sameStorage
      sameDialect := follows.sameDialect
      rooted := differs.isRooted follows.rooted (Route.directory_of_locate leads)
      inTexts := by
        intro other text found
        by_cases same : other = route
        · exact inTexts text (same ▸ found)
        · exact follows.inTexts other text ((sameText same).symm.trans found)
      noted := by
        intro path member
        by_cases same : path = watched.path route
        · subst same
          have isWatched := isNoted.mp member
          exact ⟨⟨place, differs.locate leads, notDirectory isWatched⟩, route,
            rfl, (watches route).mpr isWatched⟩
        · obtain ⟨admits, other, rfl, isWatched⟩ :=
            follows.noted path ((keeps.paths path same).mp member)
          have elsewhere : watched.tree.locate (watched.path other) ≠ .ok place :=
            fun there => same (Route.eq_of_locate there leads ▸ rfl)
          exact ⟨differs.admits elsewhere admits, other, rfl,
            (watches other).mpr isWatched⟩
      gone := by
        intro path inDeleted notAdded
        by_cases same : path = watched.path route
        · subst same
          exact gone inDeleted notAdded
        · have wasDeleted := (keeps.deleted path same).mp inDeleted
          have wasNoted : path ∈ watched.pending.paths :=
            List.mem_append_right _ wasDeleted
          obtain ⟨-, other, rfl, -⟩ := follows.noted path wasNoted
          refine (sameText fun equal => same (equal ▸ rfl)).trans ?_
          exact follows.gone _ wasDeleted
            fun added => notAdded ((keeps.added _ same).mpr added)
      held := fun other stored isWatched =>
        follows.held other stored ((watches other).mp isWatched)
      current := by
        intro other isWatched notNoted
        have wasWatched := (watches other).mp isWatched
        have different : other ≠ route := by
          rintro rfl
          exact notNoted (isNoted.mpr wasWatched)
        have differentPath : watched.path other ≠ watched.path route :=
          fun same => different (Route.path_injective same)
        rw [follows.current other wasWatched
          fun member => notNoted ((keeps.paths _ differentPath).mpr member)]
        exact congrArg (Option.bind · _) (sameText different).symm }

/-- What is not watched may change without a note. -/
theorem Follows.overlook (follows : Follows storage dialect texts watched)
    {route : Route} (unwatched : ¬ watched.Watches route) {place : List Text}
    (leads : watched.tree.locate (watched.path route) = .ok place)
    {tree : FileTree} (differs : FileTree.DiffersAt place watched.tree tree)
    (inTexts : ∀ text, Storage.textAt? tree (watched.path route) = some text →
      text ∈ texts) :
    Follows storage dialect texts { watched with tree := tree } := by
  have notNoted : watched.path route ∉ watched.pending.paths := by
    intro member
    obtain ⟨-, other, same, isWatched⟩ := follows.noted _ member
    obtain rfl := Route.path_injective same
    exact unwatched isWatched
  exact follows.touch leads differs
    (fun isWatched => absurd isWatched unwatched) inTexts Pending.keepsOthers_self
    ⟨fun member => absurd member notNoted,
      fun isWatched => absurd isWatched unwatched⟩
    fun member => absurd (List.mem_append_right _ member) notNoted

/-- A file is changed, and this is noted if the file is watched. -/
theorem Follows.noteIf (follows : Follows storage dialect texts watched)
    {route : Route} {place : List Text}
    (leads : watched.tree.locate (watched.path route) = .ok place)
    {tree : FileTree} (differs : FileTree.DiffersAt place watched.tree tree)
    (notDirectory : tree.nodeAt? place ≠ some .directory)
    (inTexts : ∀ text, Storage.textAt? tree (watched.path route) = some text →
      text ∈ texts)
    {note : FilePath → Pending → Pending}
    (keeps : Pending.KeepsOthers (watched.path route) watched.pending
      (note (watched.path route) watched.pending))
    (mentions : watched.path route ∈
      (note (watched.path route) watched.pending).paths)
    (gone : watched.path route ∈
        (note (watched.path route) watched.pending).deleted →
      watched.path route ∉ (note (watched.path route) watched.pending).added →
      Storage.textAt? tree (watched.path route) = none) :
    Follows storage dialect texts
      { watched with
        tree := tree
        pending := watched.pending.noteIf
          (watched.session.storage.wants tree) (watched.path route) note } := by
  have watches : Watches { watched with tree := tree } route ↔
      watched.Watches route :=
    watches_congr (by rfl) (follows.sameStorage ▸ follows.possible) route
  unfold Pending.noteIf
  split
  · rename_i relevant
    exact follows.touch leads differs (fun _ => notDirectory) inTexts keeps
      ⟨fun _ => watches.mp relevant, fun _ => mentions⟩ gone
  · rename_i irrelevant
    exact follows.overlook
      (fun isWatched => irrelevant (watches.mpr isWatched)) leads differs inTexts

/-! ## Steps -/

/-- A file is written.  It is there then, so a note that it was deleted must come
with one that it was added. -/
theorem Follows.write (follows : Follows storage dialect texts watched)
    {route : Route} {content : Bytes}
    (inTexts : Storage.textOf content ∈ texts) {tree : FileTree}
    (written : watched.tree.write (watched.path route) content = .ok tree)
    {note : FilePath → Pending → Pending}
    (keeps : Pending.KeepsOthers (watched.path route) watched.pending
      (note (watched.path route) watched.pending))
    (mentions : watched.path route ∈
      (note (watched.path route) watched.pending).paths)
    (covered : watched.path route ∈
        (note (watched.path route) watched.pending).deleted →
      watched.path route ∈ (note (watched.path route) watched.pending).added) :
    Follows storage dialect texts
      { watched with
        tree := tree
        pending := watched.pending.noteIf
          (watched.session.storage.wants tree) (watched.path route) note } := by
  obtain ⟨place, leads, differs, there⟩ := FileTree.differsAt_of_write written
  refine follows.noteIf leads differs (by rw [there]; simp) ?_ keeps mentions
    fun deleted notAdded => absurd (covered deleted) notAdded
  intro text found
  rw [Storage.textAt?_of_read (FileTree.read_of_write written)] at found
  exact Option.some.inj found ▸ inTexts

theorem Follows.create (follows : Follows storage dialect texts watched)
    (now : Instant) {route : Route} {content : Bytes}
    (inTexts : Storage.textOf content ∈ texts) {tree : FileTree}
    (written : watched.tree.write (watched.path route) content = .ok tree) :
    Follows storage dialect texts
      { watched with
        tree := tree
        pending := watched.pending.noteIf (watched.session.storage.wants tree)
          (watched.path route) (Pending.add now) } := by
  have added : watched.path route ∈
      (watched.pending.add now (watched.path route)).added :=
    FilePath.mem_insertInto.mpr (Or.inl rfl)
  exact follows.write inTexts written Pending.keepsOthers_add
    (List.mem_append_left _ (List.mem_append_left _ added)) fun _ => added

/-- A file that can be modified is there, so a note that it was deleted does not
stand alone before. -/
theorem Follows.modify (follows : Follows storage dialect texts watched)
    (now : Instant) {route : Route} {old content : Bytes}
    (held : watched.tree.read (watched.path route) = .ok old)
    (inTexts : Storage.textOf content ∈ texts) {tree : FileTree}
    (written : watched.tree.write (watched.path route) content = .ok tree) :
    Follows storage dialect texts
      { watched with
        tree := tree
        pending := watched.pending.noteIf (watched.session.storage.wants tree)
          (watched.path route) (Pending.modify now) } := by
  have modified : watched.path route ∈
      (watched.pending.modify now (watched.path route)).modified :=
    FilePath.mem_insertInto.mpr (Or.inl rfl)
  refine follows.write inTexts written Pending.keepsOthers_modify
    (List.mem_append_left _ (List.mem_append_right _ modified)) ?_
  intro deleted
  by_contra notAdded
  have missing := follows.gone _ deleted notAdded
  rw [Storage.textAt?_of_read held] at missing
  cases missing

theorem Follows.delete (follows : Follows storage dialect texts watched)
    (now : Instant) {route : Route} {tree : FileTree}
    (deleted : watched.tree.delete (watched.path route) = .ok tree) :
    Follows storage dialect texts
      { watched with
        tree := tree
        pending := watched.pending.noteIf (watched.session.storage.wants tree)
          (watched.path route) (Pending.delete now) } := by
  obtain ⟨place, leads, differs, there⟩ := FileTree.differsAt_of_delete deleted
  have missing : Storage.textAt? tree (watched.path route) = none := by
    rw [Storage.textAt?_eq, FileTree.read, differs.locate leads]
    dsimp only [bind, Except.bind]
    rw [there]
    rfl
  have noted : watched.path route ∈
      (watched.pending.delete now (watched.path route)).deleted :=
    FilePath.mem_insertInto.mpr (Or.inl rfl)
  refine follows.noteIf leads differs (by rw [there]; simp) ?_
    Pending.keepsOthers_delete (List.mem_append_right _ noted)
    fun _ _ => missing
  intro text found
  rw [missing] at found
  cases found

/-- A file that is moved is deleted in one place and created in another. -/
theorem Follows.move (follows : Follows storage dialect texts watched)
    (now : Instant) {source target : Route} {tree : FileTree}
    (renamed : watched.tree.rename (watched.path source) (watched.path target) =
      .ok tree) :
    Follows storage dialect texts
      { watched with
        tree := tree
        pending := (watched.pending.noteIf (watched.session.storage.wants tree)
          (watched.path source) (Pending.delete now)).noteIf
            (watched.session.storage.wants tree) (watched.path target)
            (Pending.add now) } := by
  obtain ⟨content, held, more⟩ := Outcome.bind_eq_ok.mp renamed
  obtain ⟨between, deleted, written⟩ := Outcome.bind_eq_ok.mp more
  have inTexts : Storage.textOf content ∈ texts :=
    follows.inTexts source _ (Storage.textAt?_of_read held)
  have sameNote : watched.pending.noteIf (watched.session.storage.wants between)
      (watched.path source) (Pending.delete now) =
      watched.pending.noteIf (watched.session.storage.wants tree)
        (watched.path source) (Pending.delete now) := by
    have possible := follows.sameStorage ▸ follows.possible
    unfold Pending.noteIf Pending.isRelevant path
    rw [Storage.wants_route possible between tree]
  have moved := (follows.delete now deleted).create now inTexts written
  dsimp only [path] at moved sameNote ⊢
  rw [sameNote] at moved
  exact moved

theorem Follows.makeDirectory (follows : Follows storage dialect texts watched)
    {route : Route} (unwatched : ¬ watched.Watches route) {tree : FileTree}
    (made : watched.tree.makeDirectory (watched.path route) = .ok tree) :
    Follows storage dialect texts { watched with tree := tree } := by
  obtain ⟨place, leads, differs, there⟩ :=
    FileTree.differsAt_of_makeDirectory made
  refine follows.overlook unwatched leads differs fun text found => ?_
  obtain ⟨content, held, -⟩ := Storage.read_of_textAt? found
  obtain ⟨goal, leadsAfter, isFile⟩ := FileTree.exists_of_read held
  obtain rfl := Except.ok.inj (leadsAfter.symm.trans (differs.locate leads))
  rw [there] at isFile
  cases isFile

end Watched

end AnchorLint
