import AnchorLint.Proofs.Watch.Follow

/-!
# A watch loses no update

Every now and then a watch applies what it has noted to the workspace.  In which
order the files were created, modified, deleted and moved is not needed for that:
whatever happens and whenever the notes are applied, each watched file without a
note is in the workspace as it is on disk.
-/

namespace AnchorLint

namespace Watched

variable {storage : Storage} {dialect : Dialect} {texts : Set Text}
  {watched : Watched}

/-! ## Applying the notes -/

/-- What the workspace holds for a watched file is recognized. -/
theorem Follows.recognizes (follows : Follows storage dialect texts watched)
    {route : Route} (watches : watched.Watches route) {text : Text}
    (inTexts : text ∈ texts) :
    watched.session.workspace.Recognizes route.key text := by
  intro current
  rw [Workspace.isStale, Bool.not_eq_false', Option.any_eq_true] at current
  obtain ⟨stored, found, hasDigest⟩ := current
  obtain ⟨known, inKnown, made⟩ := follows.held route stored watches found
  have sameDigest := Stored.digest_of_ofText? made hasDigest
  rw [found, follows.sameDialect,
    ← follows.injective inKnown inTexts sameDigest, made]

/-- A batch of all notes brings every watched file up to date. -/
theorem Follows.relint (follows : Follows storage dialect texts watched) :
    ∃ after,
      (watched.session.relint watched.tree watched.pending.batch).2.1 =
        watched.session.within after ∧
      after.dialect = dialect ∧
      ∀ route, watched.Watches route → after.get? route.key =
        (Storage.textAt? watched.tree (watched.path route)).bind
          (Stored.ofText? dialect) := by
  obtain rfl := follows.sameStorage
  obtain rfl := follows.sameDialect
  have changed : ∀ path ∈ watched.pending.batch.changed,
      watched.tree.Admits path ∧ ∃ route, path = watched.path route ∧
        watched.Watches route :=
    fun path member => follows.noted path (Pending.mem_changed_batch member)
  obtain ⟨after, relinted, sameDialect, held⟩ :=
    @Session.get?_of_relint watched.session watched.tree watched.pending.batch
      follows.possible
      (by
        intro path member
        obtain ⟨admits, route, equal, -⟩ := changed path member
        exact ⟨admits, route, equal⟩)
      (by
        intro path member
        obtain ⟨-, route, equal, -⟩ := follows.noted path
          (List.mem_append_right _ (Pending.mem_deleted_batch.mp member).1)
        exact ⟨route, equal⟩)
      (by
        intro route member text found
        obtain ⟨-, other, same, watches⟩ := changed _ member
        obtain rfl := Route.path_injective same
        have inTexts := follows.inTexts route text found
        exact ⟨follows.canIndex text inTexts,
          follows.recognizes watches inTexts⟩)
  refine ⟨after, relinted, sameDialect, fun route watches => ?_⟩
  rw [held route]
  split
  · rfl
  · rename_i notChanged
    split
    · rename_i inDeleted
      obtain ⟨wasDeleted, notAdded⟩ := Pending.mem_deleted_batch.mp inDeleted
      have missing : Storage.textAt? watched.tree (watched.path route) = none :=
        follows.gone _ wasDeleted notAdded
      rw [missing]
      rfl
    · rename_i notDeleted
      exact follows.current route watches fun member =>
        (Pending.mem_batch member).elim notChanged notDeleted

theorem Follows.flush (follows : Follows storage dialect texts watched) :
    Follows storage dialect texts watched.flush ∧
      watched.flush.pending.paths = [] := by
  by_cases empty : watched.pending.isEmpty = true
  · have unchanged : watched.flush = watched := by
      rw [Watched.flush, Pending.flush, if_pos empty]
    rw [unchanged]
    refine ⟨follows, ?_⟩
    simpa [Pending.isEmpty, Pending.paths, and_assoc] using empty
  · obtain ⟨after, relinted, sameDialect, upToDate⟩ := follows.relint
    have flushed : watched.flush = { watched with
        pending := watched.pending.clear
        session := watched.session.within after } := by
      rw [Watched.flush, Pending.flush, if_neg empty]
      dsimp only
      rw [relinted]
    rw [flushed]
    refine ⟨?_, rfl⟩
    exact
      { possible := follows.possible
        canIndex := follows.canIndex
        injective := follows.injective
        sameStorage := follows.sameStorage
        sameDialect := sameDialect
        rooted := follows.rooted
        inTexts := follows.inTexts
        noted := fun _ member => absurd member List.not_mem_nil
        gone := fun _ member => absurd member List.not_mem_nil
        held := by
          intro route stored watches found
          obtain ⟨text, read, made⟩ := Option.bind_eq_some_iff.mp
            ((upToDate route watches).symm.trans found)
          exact ⟨text, follows.inTexts route text read, made⟩
        current := fun route watches _ => upToDate route watches }

/-! ## Runs -/

theorem Follows.advance (follows : Follows storage dialect texts watched)
    {step : Step}
    (inTexts : ∀ content ∈ step.content?, Storage.textOf content ∈ texts)
    (unwatched : ∀ now route, step = .makeDirectory now route →
      ¬ watched.Watches route) :
    Follows storage dialect texts (watched.advance step) := by
  cases step with
  | create now route content =>
      rw [Watched.advance]
      cases written : watched.tree.write (watched.path route) content with
      | error error => exact follows
      | ok tree => exact follows.create now (inTexts content rfl) written
  | modify now route content =>
      rw [Watched.advance]
      cases held : watched.tree.read (watched.path route) with
      | error error => exact follows
      | ok old =>
          cases written : watched.tree.write (watched.path route) content with
          | error error => exact follows
          | ok tree =>
              exact follows.modify now held (inTexts content rfl) written
  | delete now route =>
      rw [Watched.advance]
      cases deleted : watched.tree.delete (watched.path route) with
      | error error => exact follows
      | ok tree => exact follows.delete now deleted
  | move now source target =>
      rw [Watched.advance]
      cases renamed : watched.tree.rename (watched.path source)
          (watched.path target) with
      | error error => exact follows
      | ok tree => exact follows.move now renamed
  | makeDirectory now route =>
      rw [Watched.advance]
      cases made : watched.tree.makeDirectory (watched.path route) with
      | error error => exact follows
      | ok tree => exact follows.makeDirectory (unwatched now route rfl) made
  | flush => exact follows.flush.1

theorem Follows.run (follows : Follows storage dialect texts watched)
    {steps : List Step}
    (inTexts : ∀ step ∈ steps, ∀ content ∈ step.content?,
      Storage.textOf content ∈ texts)
    (unwatched : ∀ now route, .makeDirectory now route ∈ steps →
      ¬ watched.Watches route) :
    Follows storage dialect texts (watched.run steps) := by
  induction steps generalizing watched with
  | nil => exact follows
  | cons step steps ih =>
      obtain ⟨here, later⟩ := List.forall_mem_cons.mp inTexts
      have advanced := follows.advance here
        fun now route equal => unwatched now route (equal ▸ List.mem_cons_self)
      have sameStorage := advanced.sameStorage.trans follows.sameStorage.symm
      refine ih advanced later fun now route member => ?_
      rw [watches_congr sameStorage (follows.sameStorage ▸ follows.possible)]
      exact unwatched now route (List.mem_cons_of_mem _ member)

/-! ## In sync -/

/-- Whether the workspace holds the index of what is read from a file, or nothing
if there is no such file. -/
def InSync (watched : Watched) (route : Route) : Prop :=
  let path := watched.path route
  let key := watched.session.storage.key watched.tree path
  match Storage.textAt? watched.tree path with
  | some text => ∃ document,
      Document.index watched.session.workspace.dialect text = .ok document ∧
      watched.session.workspace.get? key = some (.indexed document)
  | none => watched.session.workspace.get? key = none

theorem inSync_iff {route : Route}
    (possible : FileTree.isPossible watched.session.storage.root = true)
    (canIndex : ∀ text,
      Storage.textAt? watched.tree (watched.path route) = some text →
        Document.CanIndex watched.session.workspace.dialect text) :
    watched.InSync route ↔ watched.session.workspace.get? route.key =
      (Storage.textAt? watched.tree (watched.path route)).bind
        (Stored.ofText? watched.session.workspace.dialect) := by
  unfold InSync
  dsimp only [path] at canIndex ⊢
  rw [Route.key_path possible]
  cases read : Storage.textAt? watched.tree
      (route.path watched.session.storage.root) with
  | none => rfl
  | some text =>
      obtain ⟨document, indexed⟩ := canIndex text read
      simp [indexed, Stored.ofText?, Except.toOption]

/-- What the workspace holds for a file in sync, in terms of an earlier state. -/
theorem get?_of_inSync {start : Watched} {route : Route}
    (sameStorage : watched.session.storage = start.session.storage)
    (sameDialect : watched.session.workspace.dialect =
      start.session.workspace.dialect)
    (possible : FileTree.isPossible start.session.storage.root = true)
    (inSync : watched.InSync route) :
    (∀ text, Storage.textAt? watched.tree (start.path route) = some text →
      ∃ document,
        Document.index start.session.workspace.dialect text = .ok document ∧
        watched.session.workspace.get? route.key = some (.indexed document)) ∧
    (Storage.textAt? watched.tree (start.path route) = none →
      watched.session.workspace.get? route.key = none) := by
  unfold InSync path at inSync
  rw [sameStorage] at inSync
  dsimp only at inSync
  rw [Route.key_path possible, sameDialect] at inSync
  unfold path
  constructor
  · intro text read
    rwa [read] at inSync
  · intro read
    rwa [read] at inSync

theorem Follows.inSync (follows : Follows storage dialect texts watched)
    {route : Route} (watches : watched.Watches route)
    (notNoted : watched.path route ∉ watched.pending.paths) :
    watched.InSync route := by
  refine (inSync_iff (follows.sameStorage ▸ follows.possible) ?_).mpr ?_
  · intro text read
    rw [follows.sameDialect]
    exact follows.canIndex text (follows.inTexts route text read)
  · rw [follows.sameDialect]
    exact follows.current route watches notNoted

/-- Without notes, a watch follows the files if the workspace is in sync. -/
theorem follows_of_inSync (rooted : watched.tree.IsRooted)
    (possible : FileTree.isPossible watched.session.storage.root = true)
    (nothingPending : watched.pending.isEmpty = true)
    (inSync : ∀ route, watched.Watches route → watched.InSync route)
    (inTexts : ∀ route text,
      Storage.textAt? watched.tree (watched.path route) = some text →
        text ∈ texts)
    (canIndex : ∀ text ∈ texts,
      Document.CanIndex watched.session.workspace.dialect text)
    (injective : Set.InjOn Digest.ofText texts) :
    Follows watched.session.storage watched.session.workspace.dialect texts
      watched := by
  have upToDate (route : Route) (watches : watched.Watches route) :=
    (inSync_iff possible fun text read =>
      canIndex text (inTexts route text read)).mp (inSync route watches)
  obtain ⟨⟨noneAdded, noneModified⟩, noneDeleted⟩ :
      (watched.pending.added = [] ∧ watched.pending.modified = []) ∧
        watched.pending.deleted = [] := by
    simpa [Pending.isEmpty] using nothingPending
  exact
    { possible := possible
      canIndex := canIndex
      injective := injective
      sameStorage := rfl
      sameDialect := rfl
      rooted := rooted
      inTexts := inTexts
      noted := by
        intro path member
        simp [Pending.paths, noneAdded, noneModified, noneDeleted] at member
      gone := by simp [noneDeleted]
      held := by
        intro route stored watches found
        obtain ⟨text, read, made⟩ := Option.bind_eq_some_iff.mp
          ((upToDate route watches).symm.trans found)
        exact ⟨text, inTexts route text read, made⟩
      current := fun route watches _ => upToDate route watches }

/-- A watch loses no update.  If the workspace is in sync with the files at first,
then after any steps it is in sync with every watched file that nothing is noted
about, and after a flush with every watched file.  All texts that are ever in a
file can be indexed and are told apart by their digests, and no directory is made
where a file is watched. -/
theorem inSync_of_run {start : Watched} {texts : Set Text} {steps : List Step}
    (possible : FileTree.isPossible start.session.storage.root = true)
    (rooted : start.tree.IsRooted)
    (nothingPending : start.pending.isEmpty = true)
    (inSync : ∀ route, start.Watches route → start.InSync route)
    (filesInTexts : ∀ route text,
      Storage.textAt? start.tree (start.path route) = some text → text ∈ texts)
    (stepsInTexts : ∀ step ∈ steps, ∀ content ∈ step.content?,
      Storage.textOf content ∈ texts)
    (canIndex : ∀ text ∈ texts,
      Document.CanIndex start.session.workspace.dialect text)
    (injective : Set.InjOn Digest.ofText texts)
    (unwatched : ∀ now route, .makeDirectory now route ∈ steps →
      ¬ start.Watches route) :
    let after := start.run steps
    let flushed := start.run (steps ++ [.flush])
    (after.session.storage = start.session.storage ∧
      after.session.workspace.dialect = start.session.workspace.dialect) ∧
    (∀ route, after.Watches route →
      after.path route ∉ after.pending.added →
      after.path route ∉ after.pending.modified →
      after.path route ∉ after.pending.deleted → after.InSync route) ∧
    ∀ route, flushed.Watches route → flushed.InSync route := by
  intro after flushed
  have followsStart := follows_of_inSync rooted possible nothingPending inSync
    filesInTexts canIndex injective
  have follows : Follows _ _ _ after := followsStart.run stepsInTexts unwatched
  refine ⟨⟨follows.sameStorage, follows.sameDialect⟩, ?_, ?_⟩
  · intro route watches notAdded notModified notDeleted
    refine follows.inSync watches ?_
    simp [Pending.paths, notAdded, notModified, notDeleted]
  · intro route watches
    have isFlush : flushed = after.flush := by
      simp only [flushed, after, run, List.foldl_append, List.foldl_cons,
        List.foldl_nil, advance]
    obtain ⟨followsFlushed, noNotes⟩ := follows.flush
    rw [← isFlush] at followsFlushed noNotes
    exact followsFlushed.inSync watches (by simp [noNotes])

/-! ## A file that is moved -/

/-- The watch of a directory without files. -/
def emptyWatch : Watched :=
  { tree := { nodes := [(["w".toList], .directory)] }
    session :=
      { settings := {}
        storage := ⟨FilePath.parse "/w".toList, Storage.standardIncludes, []⟩
        linter := { workspace := { dialect := .github } } } }

theorem nodeAt?_emptyWatch {segments : List Text} {node : FileNode}
    (found : emptyWatch.tree.nodeAt? segments = some node) :
    (segments = [] ∨ segments = ["w".toList]) ∧ node = .directory := by
  unfold FileTree.nodeAt? at found
  split at found
  · rename_i empty
    exact ⟨Or.inl (List.isEmpty_iff.mp empty), (Option.some.inj found).symm⟩
  · have entry := Entries.mem_of_lookup found
    obtain ⟨here, isDirectory⟩ :=
      Prod.mk.inj (List.mem_singleton.mp entry)
    exact ⟨Or.inr here, isDirectory⟩

theorem isRooted_emptyWatch : emptyWatch.tree.IsRooted := by
  intro segments proper present
  obtain ⟨node, found⟩ := Option.ne_none_iff_exists'.mp present
  rcases (nodeAt?_emptyWatch found).1 with rfl | rfl
  · exact absurd rfl proper
  · rfl

theorem textAt?_emptyWatch (path : FilePath) :
    Storage.textAt? emptyWatch.tree path = none := by
  cases read : Storage.textAt? emptyWatch.tree path with
  | none => rfl
  | some text =>
      obtain ⟨content, held, -⟩ := Storage.read_of_textAt? read
      obtain ⟨place, -, isFile⟩ := FileTree.exists_of_read held
      cases (nodeAt?_emptyWatch isFile).2

/-- A document in a new directory. -/
def insidePage : Route :=
  ⟨["sub".toList, "a.md".toList], by decide, by unfold Path.IsClean; decide,
    by decide⟩

/-- A document beside the directory. -/
def outsidePage : Route :=
  ⟨["b.md".toList], by decide, by unfold Path.IsClean; decide, by decide⟩

/-- A document is created in a new directory, moved out of it and modified, before
the notes are applied. -/
def movingOut (first second : Text) : List Step :=
  [ .makeDirectory (.ofNat 0) ⟨["sub".toList], by decide,
      by unfold Path.IsClean; decide, by decide⟩,
    .create (.ofNat 1) insidePage (Utf8.encode first),
    .move (.ofNat 2) insidePage outsidePage,
    .modify (.ofNat 3) outsidePage (Utf8.encode second), .flush ]

theorem inSync_of_run_moved :
    let one := "# One".toList
    let two := "[one](a.md#one)".toList
    (∃ document, Document.index .github two = .ok document ∧
      (emptyWatch.run (movingOut one two)).session.workspace.get?
        "b.md".toList = some (.indexed document)) ∧
    (emptyWatch.run (movingOut one two)).session.workspace.get?
      "sub/a.md".toList = none := by
  intro one two
  have canIndex : ∀ text ∈ ({one, two} : Set Text),
      Document.CanIndex .github text := by
    rintro text (rfl | rfl)
    · decide +kernel
    · decide +kernel
  have injective : Set.InjOn Digest.ofText {one, two} := by
    rw [Set.injOn_pair]
    exact fun same => absurd same Linter.digest_ne
  have written : ∀ step ∈ movingOut one two, ∀ content ∈ step.content?,
      Storage.textOf content ∈ ({one, two} : Set Text) := by
    have each : ∀ content ∈ (movingOut one two).filterMap Step.content?,
        Storage.textOf content = one ∨ Storage.textOf content = two := by
      decide +kernel
    exact fun step member content isContent =>
      each content (List.mem_filterMap.mpr ⟨step, member, isContent⟩)
  have unwatched : ∀ now route, .makeDirectory now route ∈ movingOut one two →
      ¬ emptyWatch.Watches route := by
    intro now route member
    simp only [movingOut, List.mem_cons, Step.makeDirectory.injEq, reduceCtorEq,
      List.not_mem_nil, or_false] at member
    obtain ⟨-, rfl⟩ := member
    unfold Watches
    decide +kernel
  obtain ⟨⟨sameStorage, sameDialect⟩, inSync, -⟩ :=
    @inSync_of_run emptyWatch {one, two} (movingOut one two) (by decide)
      isRooted_emptyWatch rfl
      (fun route _ => by
        rw [inSync_iff (by decide) (by simp [textAt?_emptyWatch]),
          textAt?_emptyWatch]
        rfl)
      (by simp [textAt?_emptyWatch]) written canIndex injective unwatched
  have noNotes : (emptyWatch.run (movingOut one two)).pending.paths = [] := by
    decide +kernel
  have readOutside : Storage.textAt? (emptyWatch.run (movingOut one two)).tree
      (emptyWatch.path outsidePage) = some two := by decide +kernel
  have readInside : Storage.textAt? (emptyWatch.run (movingOut one two)).tree
      (emptyWatch.path insidePage) = none := by decide +kernel
  -- What else the last state is does not matter.
  generalize emptyWatch.run (movingOut one two) = after at *
  simp only [Pending.paths, List.append_eq_nil_iff] at noNotes
  have inSyncAt (route : Route) (watches : emptyWatch.Watches route) :
      after.InSync route :=
    inSync route ((watches_congr sameStorage (by decide) route).mpr watches)
      (by simp [noNotes]) (by simp [noNotes]) (by simp [noNotes])
  constructor
  · exact (get?_of_inSync sameStorage sameDialect (by decide)
      (inSyncAt outsidePage (by unfold Watches; decide +kernel))).1 two readOutside
  · exact (get?_of_inSync sameStorage sameDialect (by decide)
      (inSyncAt insidePage (by unfold Watches; decide +kernel))).2 readInside

end Watched

end AnchorLint
