import AnchorLint.Proofs.Data.Outcome
import AnchorLint.Proofs.Document.Links
import AnchorLint.Proofs.Lint.Check
import AnchorLint.Proofs.Workspace.Graph
import AnchorLint.Watch.Relint

/-!
# Linting what has changed misses nothing

After a batch of changes only some documents are checked again.  This file shows
that all others keep their findings: the graph of links names every document
whose links lead to a path that was touched, and a document whose links lead
elsewhere sees the same documents as before.  So the old findings of the whole
workspace, with those of the batch in place of the old, are the findings that a
check of everything gives.
-/

namespace AnchorLint

namespace Stored

/-- All links with a fragment to other documents have a path to follow. -/
def HasPaths (stored : Stored) : Prop :=
  ∀ link ∈ stored.lookups, ∃ path, link.2 = some path ∧ path ≠ []

theorem hasPaths_of_index {dialect : Dialect} {text : Text}
    {document : Document} (indexed : Document.index dialect text = .ok document) :
    (Stored.indexed document).HasPaths := by
  intro entry member
  obtain ⟨link, inLinks, rfl⟩ := List.mem_map.mp member
  obtain ⟨inDocument, leaves⟩ := List.mem_filter.mp inLinks
  exact Document.hasPath_of_index indexed link inDocument
    (Bool.and_eq_true_iff.mp leaves).1

/-- What a check looks up is recorded in the graph of links. -/
theorem mem_targetsOf_of_mem_readsFrom {stored : Stored}
    (hasPaths : stored.HasPaths) {key target : Text}
    (member : target ∈ stored.readsFrom key) :
    target ∈ Workspace.targetsOf (Path.normalize key) stored := by
  obtain ⟨⟨kind, path?⟩, inLookups, rfl⟩ := List.mem_map.mp member
  obtain ⟨path, named, nonempty⟩ := hasPaths _ inLookups
  obtain rfl : path? = some path := named
  refine List.mem_eraseDups.mpr (List.mem_map.mpr ⟨(kind, path), ?_, rfl⟩)
  cases stored with
  | indexed document =>
      obtain ⟨link, inLinks, equal⟩ := List.mem_map.mp inLookups
      obtain ⟨inDocument, leaves⟩ := List.mem_filter.mp inLinks
      obtain ⟨rfl, hasPath⟩ := Prod.mk.inj equal
      refine List.mem_filterMap.mpr ⟨link, ?_, ?_⟩
      · exact List.mem_filter.mpr
          ⟨inDocument, (Bool.and_eq_true_iff.mp leaves).1⟩
      · simp [hasPath, nonempty]
  | cached record =>
      obtain ⟨link, inLinks, equal⟩ := List.mem_map.mp inLookups
      obtain ⟨inRecord, leaves⟩ := List.mem_filter.mp inLinks
      obtain ⟨rfl, hasPath⟩ := Prod.mk.inj equal
      refine List.mem_filterMap.mpr ⟨link, ?_, ?_⟩
      · exact List.mem_filter.mpr
          ⟨inRecord, (Bool.and_eq_true_iff.mp leaves).1⟩
      · simp [hasPath, nonempty]

end Stored

namespace Workspace

/-! ## Reachable workspaces -/

/-- The workspaces that insertions, updates and removals lead to.  A document
that is inserted has paths for its links, as every index of a text does. -/
inductive Reachable : Workspace → Prop where
  | empty (dialect : Dialect) : Reachable { dialect := dialect }
  | insert {workspace : Workspace} (path : Text) {stored : Stored}
      (reachable : Reachable workspace) (hasPaths : stored.HasPaths) :
      Reachable (workspace.insert path stored)
  | update {workspace after : Workspace} {path text : Text} {isNew : Bool}
      (reachable : Reachable workspace)
      (updated : workspace.update path text = .ok (isNew, after)) :
      Reachable after
  | remove {workspace : Workspace} (path : Text)
      (reachable : Reachable workspace) : Reachable (workspace.remove path)

theorem Reachable.exact_ {workspace : Workspace}
    (reachable : workspace.Reachable) : workspace.Exact := by
  induction reachable with
  | empty dialect => exact exact_empty dialect 0
  | insert path _ _ ih => exact ih.insert path _
  | update _ updated ih =>
      rcases update_cases updated with rfl | ⟨document, -, rfl⟩
      · exact ih
      · exact ih.insert _ _
  | remove path _ ih => exact ih.remove path

theorem hasPaths_insert {workspace : Workspace}
    (old : ∀ key stored, workspace.files.lookup key = some stored →
      stored.HasPaths) (path : Text) {stored : Stored}
    (new : stored.HasPaths) :
    ∀ key held, (workspace.insert path stored).files.lookup key = some held →
      held.HasPaths := by
  intro key held found
  rw [files_insert] at found
  by_cases same : key = Path.normalize path
  · rw [same, Entries.lookup_put_self] at found
    exact Option.some.inj found ▸ new
  · rw [Entries.lookup_put_of_ne _ same] at found
    exact old key held found

theorem Reachable.hasPaths {workspace : Workspace}
    (reachable : workspace.Reachable) :
    ∀ key stored, workspace.files.lookup key = some stored →
      stored.HasPaths := by
  induction reachable with
  | empty dialect => simp
  | insert path _ new ih => exact hasPaths_insert ih path new
  | update _ updated ih =>
      rcases update_cases updated with rfl | ⟨document, indexed, rfl⟩
      · exact ih
      · exact hasPaths_insert ih _ (Stored.hasPaths_of_index indexed)
  | remove path _ ih =>
      intro key held found
      rw [files_remove] at found
      by_cases same : key = Path.normalize path
      · rw [same, Entries.lookup_erase_self] at found
        simp at found
      · rw [Entries.lookup_erase_of_ne _ same] at found
        exact ih key held found

end Workspace

namespace Linter

/-! ## What indexing touches -/

/-- What indexing makes of a text: its normalized path, with the index of the
text if it is a new one. -/
def Renews (dialect : Dialect) (source : Text × Text)
    (entry : Text × Option Document) : Prop :=
  entry.1 = Path.normalize source.1 ∧
    ∀ document, entry.2 = some document →
      Document.index dialect source.2 = .ok document

theorem renews_of_indexAll {workspace : Workspace}
    {sources : Entries Text Text} {entries : List (Text × Option Document)}
    (indexed : indexAll workspace sources = .ok entries) :
    List.Forall₂ (Renews workspace.dialect) sources entries := by
  refine (Outcome.mapM_eq_ok.mp indexed).imp fun source entry computed => ?_
  obtain ⟨renewed, single, equal⟩ := Outcome.bind_eq_ok.mp computed
  obtain rfl := Except.ok.inj equal
  refine ⟨rfl, fun document isNew => ?_⟩
  obtain rfl : renewed = some document := isNew
  unfold indexIfStale at single
  split at single
  · obtain ⟨made, index, equal⟩ := Outcome.map_eq_ok.mp single
    exact Option.some.inj equal ▸ index
  · simp at single

/-- Putting new indexes into a workspace keeps it reachable and touches their
own paths only. -/
theorem foldl_store_touches {workspace : Workspace} {dialect : Dialect}
    {sources : Entries Text Text} {entries : List (Text × Option Document)}
    (renews : List.Forall₂ (Renews dialect) sources entries)
    (reachable : workspace.Reachable) :
    (entries.foldl store workspace).Reachable ∧
      ∀ key, key ∉ entries.map Prod.fst →
        (entries.foldl store workspace).files.lookup key =
          workspace.files.lookup key := by
  induction renews generalizing workspace with
  | nil => exact ⟨reachable, fun _ _ => rfl⟩
  | @cons source entry sources entries here later ih =>
      obtain ⟨path, document?⟩ := entry
      obtain ⟨rfl, indexed⟩ : path = Path.normalize source.1 ∧ _ := here
      cases document? with
      | none =>
          obtain ⟨reachableAfter, untouched⟩ := ih reachable
          refine ⟨reachableAfter, fun key outside => untouched key ?_⟩
          exact fun member => outside (List.mem_cons_of_mem _ member)
      | some document =>
          have hasPaths := Stored.hasPaths_of_index (indexed document rfl)
          obtain ⟨reachableAfter, untouched⟩ :=
            ih (reachable.insert (Path.normalize source.1) hasPaths)
          refine ⟨reachableAfter, fun key outside => ?_⟩
          obtain ⟨different, outsideRest⟩ :=
            not_or.mp (mt List.mem_cons.mpr outside)
          rw [List.foldl_cons, store, untouched key outsideRest,
            Workspace.files_insert, Path.normalize_normalize]
          exact Entries.lookup_put_of_ne _ different _

theorem index_touches {linter after : Linter} {sources : Entries Text Text}
    {indexed : List Text}
    (succeeds : linter.index sources = .ok (indexed, after))
    (reachable : linter.workspace.Reachable) :
    indexed = sources.map (fun entry => Path.normalize entry.1) ∧
      after = linter.within after.workspace ∧ after.workspace.Reachable ∧
      ∀ key, key ∉ indexed →
        after.workspace.files.lookup key =
          linter.workspace.files.lookup key := by
  obtain ⟨entries, computed, equal⟩ := Outcome.bind_eq_ok.mp succeeds
  obtain ⟨rfl, rfl⟩ := Prod.mk.inj (Except.ok.inj equal)
  have renews := renews_of_indexAll computed
  have touches := foldl_store_touches renews reachable
  refine ⟨?_, rfl, touches.1, touches.2⟩
  clear touches computed equal succeeds
  induction renews with
  | nil => rfl
  | cons here _ ih => rw [List.map_cons, List.map_cons, here.1, ih]

end Linter

namespace Workspace

theorem lookup_foldl_remove (workspace : Workspace) (removed : List Text)
    (key : Text) :
    (removed.foldl (fun workspace key => workspace.remove key)
        workspace).files.lookup key =
      if key ∈ removed.map Path.normalize then none
      else workspace.files.lookup key := by
  induction removed generalizing workspace with
  | nil => rfl
  | cons path removed ih =>
      rw [List.foldl_cons, ih, files_remove, List.map_cons]
      by_cases later : key ∈ removed.map Path.normalize
      · rw [if_pos later, if_pos (List.mem_cons_of_mem _ later)]
      · rw [if_neg later]
        by_cases same : key = Path.normalize path
        · rw [same, Entries.lookup_erase_self, if_pos (by simp)]
        · rw [Entries.lookup_erase_of_ne _ same, if_neg]
          exact fun member => (List.mem_cons.mp member).elim same later

/-- Removing documents keeps a workspace reachable and touches their own paths
only. -/
theorem foldl_remove_touches {workspace : Workspace}
    (reachable : workspace.Reachable) (removed : List Text) :
    (removed.foldl (fun workspace key => workspace.remove key)
        workspace).Reachable ∧
      ∀ key, (removed.foldl (fun workspace key => workspace.remove key)
          workspace).files.lookup key =
        if key ∈ removed.map Path.normalize then none
        else workspace.files.lookup key := by
  refine ⟨?_, lookup_foldl_remove workspace removed⟩
  induction removed generalizing workspace with
  | nil => exact reachable
  | cons path removed ih => exact ih (reachable.remove path)

end Workspace

namespace Storage

/-- The texts that are read belong to the given paths. -/
theorem key_of_mem_readAll {storage : Storage} {tree : FileTree}
    {paths : List FilePath} {texts : Entries Text Text} {log : List LogEntry}
    (read : (storage.readAll tree paths).result = (.ok texts, log)) :
    ∀ entry ∈ texts, ∃ path ∈ paths, entry.1 = storage.key tree path := by
  refine Logged.forall_of_foldlM (fun texts => ∀ entry ∈ texts,
    ∃ path ∈ paths, entry.1 = storage.key tree path) ?_ (by simp) read
  intro path inPaths known before added after named finished entry member
  obtain ⟨text?, between, -, extended⟩ := Logged.run_bind_eq_ok.mp finished
  cases text? with
  | none =>
      obtain ⟨same, -⟩ := Prod.mk.inj extended
      exact named entry (Except.ok.inj same ▸ member)
  | some text =>
      obtain ⟨same, -⟩ := Prod.mk.inj extended
      rw [← Except.ok.inj same] at member
      rcases List.mem_append.mp member with old | new
      · exact named entry old
      · obtain rfl := List.mem_singleton.mp new
        exact ⟨path, inPaths, rfl⟩

theorem mem_keys_sources {texts : Entries Text Text} {key : Text}
    (member : key ∈ (sources texts).keys) : key ∈ texts.keys := by
  have fold (texts : Entries Text Text) : ∀ known : Entries Text Text,
      key ∈ Entries.keys (texts.foldl (fun known entry =>
        known.put entry.1 entry.2) known) →
      key ∈ known.keys ∨ key ∈ texts.keys := by
    induction texts with
    | nil => exact fun _ member => Or.inl member
    | cons entry texts ih =>
        intro known member
        rcases ih _ member with inPut | later
        · rcases Entries.mem_keys_put.mp inPut with rfl | old
          · exact Or.inr List.mem_cons_self
          · exact Or.inl old
        · exact Or.inr (List.mem_cons_of_mem _ later)
  exact (fold texts [] member).resolve_left (by simp [Entries.keys])

end Storage

namespace Session

/-! ## What a batch does -/

theorem settle_changed {tree : FileTree} {batch settled : Batch}
    (settles : batch.settle tree = .ok settled) :
    ∀ path ∈ settled.changed, path ∈ batch.changed := by
  obtain ⟨present, filtered, equal⟩ := Outcome.bind_eq_ok.mp settles
  obtain rfl := Except.ok.inj equal
  exact Outcome.mem_of_filterM filtered

theorem recheck_cases {session after : Session} {sources : Entries Text Text}
    {removed : List Text} {results : LintResults}
    (rechecked : session.recheck sources removed = (.ok results, after)) :
    ∃ indexed, session.linter.index sources = .ok (indexed, after.linter) ∧
      after.linter.check (affected after.workspace indexed removed) =
        .ok results := by
  unfold recheck at rechecked
  cases index : session.linter.index sources with
  | error error => simp [index] at rechecked
  | ok done =>
      obtain ⟨indexed, linter⟩ := done
      simp only [index] at rechecked
      obtain ⟨checked, rfl⟩ := Prod.mk.inj rechecked
      refine ⟨indexed, rfl, ?_⟩
      cases check : linter.check
          (affected linter.workspace indexed removed) with
      | error mismatch => simp [check, Except.mapError] at checked
      | ok found =>
          rw [check] at checked
          exact check.trans (congrArg Except.ok (Except.ok.inj checked))

/-- A batch removes documents, indexes texts of changed files, and checks what
these affect. -/
theorem relint_cases {session after : Session} {tree : FileTree}
    {batch : Batch} {results : LintResults} {log : List LogEntry}
    (relinted : session.relint tree batch = (.ok results, after, log)) :
    ∃ (removed : List Text) (sources : Entries Text Text)
      (indexed : List Text),
      (∀ key ∈ sources.keys, ∃ path ∈ batch.changed,
        key = session.storage.key tree path) ∧
      (session.remove removed).linter.index sources =
        .ok (indexed, after.linter) ∧
      after.linter.check (affected after.workspace indexed removed) =
        .ok results := by
  unfold relint at relinted
  cases settles : batch.settle tree with
  | error fault => simp [settles] at relinted
  | ok settled =>
      simp only [settles] at relinted
      split at relinted
      · simp at relinted
      · rename_i texts read
        obtain ⟨resultsEq, rest⟩ := Prod.mk.inj relinted
        obtain ⟨indexed, index, check⟩ := recheck_cases
          (Prod.ext resultsEq (Prod.mk.inj rest).1)
        refine ⟨_, _, indexed, fun key member => ?_, index, check⟩
        obtain ⟨entry, inTexts, rfl⟩ :=
          List.mem_map.mp (Storage.mem_keys_sources member)
        obtain ⟨path, inSettled, equal⟩ := Storage.key_of_mem_readAll
          (Prod.ext read rfl) entry inTexts
        refine ⟨path, settle_changed settles path ?_, equal⟩
        exact List.mem_mergeSort.mp inSettled

/-! ## Documents that a batch does not affect -/

theorem mem_affected {workspace : Workspace} {indexed removed : List Text}
    {key : Text} :
    key ∈ affected workspace indexed removed ↔
      (key ∈ indexed ∨ ∃ touched ∈ removed ++ indexed,
        key ∈ workspace.dependents touched) ∧
      workspace.contains key = true := by
  simp only [affected, Text.sort, List.mem_filter, List.mem_mergeSort,
    List.mem_eraseDups, List.mem_append, List.mem_flatMap]

/-- Two workspaces differ at the paths of indexed and removed documents only. -/
structure Differs (indexed removed : List Text) (before after : Workspace) :
    Prop where
  normalized : ∀ key ∈ indexed, Path.normalize key = key
  gone : ∀ key ∈ removed.map Path.normalize, key ∉ indexed →
    after.files.lookup key = none
  same : ∀ key, key ∉ removed.map Path.normalize → key ∉ indexed →
    after.files.lookup key = before.files.lookup key

/-- The path of a document that is not at the root of a file system. -/
def IsRelative (key : Text) : Prop :=
  key.head? ≠ some '/'

variable {before after : Workspace} {indexed removed : List Text} {key : Text}

theorem Differs.relative (differs : Differs indexed removed before after)
    (relativeBefore : ∀ key ∈ Entries.keys before.files, IsRelative key)
    (relativeIndexed : ∀ key ∈ indexed, IsRelative key) :
    ∀ key ∈ Entries.keys after.files, IsRelative key := by
  intro key member
  by_cases inIndexed : key ∈ indexed
  · exact relativeIndexed key inIndexed
  · by_cases inRemoved : key ∈ removed.map Path.normalize
    · have missing := differs.gone key inRemoved inIndexed
      exact absurd member (Entries.lookup_eq_none_iff_not_mem.mp missing)
    · refine relativeBefore key ?_
      rw [← Entries.isSome_lookup_iff, ← differs.same key inRemoved inIndexed,
        Entries.isSome_lookup_iff]
      exact member

theorem Differs.lookup_of_not_affected
    (differs : Differs indexed removed before after) (graph : after.Exact)
    (member : key ∈ Entries.keys after.files)
    (unaffected : key ∉ affected after indexed removed) :
    key ∉ indexed ∧ key ∉ removed.map Path.normalize ∧
      after.files.lookup key = before.files.lookup key := by
  have contained : after.contains key = true := by
    rw [Workspace.contains, Workspace.get?, graph.normalized key member]
    exact Entries.isSome_lookup_iff.mpr member
  have notIndexed : key ∉ indexed := fun inIndexed =>
    unaffected (mem_affected.mpr ⟨Or.inl inIndexed, contained⟩)
  have notRemoved : key ∉ removed.map Path.normalize := by
    intro inRemoved
    have missing := differs.gone key inRemoved notIndexed
    exact Entries.lookup_eq_none_iff_not_mem.mp missing member
  exact ⟨notIndexed, notRemoved, differs.same key notRemoved notIndexed⟩

/-- A document that is not affected sees at the ends of its links what it saw
before.  A link to a touched path would be recorded in the graph under that path;
the exception are links to drives and shares, at whose paths no document is. -/
theorem Differs.get?_of_not_affected
    (differs : Differs indexed removed before after) (graph : after.Exact)
    (relativeBefore : ∀ key ∈ Entries.keys before.files, IsRelative key)
    (relativeAfter : ∀ key ∈ Entries.keys after.files, IsRelative key)
    {stored : Stored} (hasPaths : stored.HasPaths)
    (held : after.files.lookup key = some stored)
    (unaffected : key ∉ affected after indexed removed) :
    ∀ target ∈ stored.readsFrom key,
      before.get? target = after.get? target := by
  intro target reads
  have member : key ∈ Entries.keys after.files :=
    Entries.isSome_lookup_iff.mp (by rw [held]; rfl)
  have recorded := Stored.mem_targetsOf_of_mem_readsFrom hasPaths reads
  rw [graph.normalized key member] at recorded
  have contained : after.contains key = true := by
    rw [Workspace.contains, Workspace.get?, graph.normalized key member, held]
    rfl
  obtain ⟨⟨kind, path?⟩, -, rfl⟩ := List.mem_map.mp reads
  rw [graph.normalized key member] at recorded ⊢
  rcases Path.normalize_resolveTarget key kind path? with fixed | absolute
  · have untouched : ∀ touched ∈ removed ++ indexed,
        Path.normalize touched ≠ Path.resolveTarget key kind path? := by
      intro touched inTouched same
      refine unaffected (mem_affected.mpr
        ⟨Or.inr ⟨touched, inTouched, ?_⟩, contained⟩)
      rw [graph.mem_dependents]
      exact ⟨stored, held, same ▸ recorded⟩
    rw [Workspace.get?, Workspace.get?, fixed]
    refine (differs.same _ ?_ ?_).symm
    · intro inRemoved
      obtain ⟨touched, inRemoved, same⟩ := List.mem_map.mp inRemoved
      exact untouched touched (List.mem_append_left _ inRemoved) same
    · intro inIndexed
      exact untouched _ (List.mem_append_right _ inIndexed) fixed
  · have missing {workspace : Workspace}
        (relative : ∀ key ∈ Entries.keys workspace.files, IsRelative key) :
        workspace.get? (Path.resolveTarget key kind path?) = none := by
      rw [Workspace.get?, Entries.lookup_eq_none_iff_not_mem]
      exact fun present => relative _ present absolute
    rw [missing relativeBefore, missing relativeAfter]

theorem Differs.checkAt_of_not_affected (linter : Linter)
    (differs : Differs indexed removed before after) (graph : after.Exact)
    (relativeBefore : ∀ key ∈ Entries.keys before.files, IsRelative key)
    (relativeAfter : ∀ key ∈ Entries.keys after.files, IsRelative key)
    (hasPaths : ∀ key stored, after.files.lookup key = some stored →
      stored.HasPaths)
    (member : key ∈ Entries.keys after.files)
    (unaffected : key ∉ affected after indexed removed) :
    (linter.within before).checkAt key = (linter.within after).checkAt key := by
  have held := (differs.lookup_of_not_affected graph member unaffected).2.2
  have normal := graph.normalized key member
  have here : before.get? key = after.get? key := by
    rw [Workspace.get?, Workspace.get?, normal, held]
  refine linter.checkAt_congr here fun stored found => ?_
  rw [here, Workspace.get?, normal] at found
  exact differs.get?_of_not_affected graph relativeBefore relativeAfter
    (hasPaths key stored found) found unaffected

/-- Every affected document has new findings. -/
theorem not_mem_affected {linter : Linter} {results : LintResults}
    (check : linter.check (affected linter.workspace indexed removed) =
      .ok results)
    (missing : results.lookup key = none) :
    key ∉ affected linter.workspace indexed removed := by
  intro isAffected
  have checked := (Linter.lookup_of_check check key).1 isAffected
  obtain ⟨stored, held⟩ := Option.isSome_iff_exists.mp
    (mem_affected.mp isAffected).2
  obtain ⟨findings, found⟩ := Linter.checkAt_of_lookup held checked
  exact absurd (missing.symm.trans found) nofun

/-! ## A batch misses nothing -/

/-- A batch leaves a reachable workspace that differs from the one before at the
paths of the batch. -/
theorem relint_differs {session after : Session} {tree : FileTree}
    {batch : Batch} {results : LintResults} {log : List LogEntry}
    (reachable : session.workspace.Reachable)
    (relative : ∀ path ∈ batch.changed,
      IsRelative (Path.normalize (session.storage.key tree path)))
    (relinted : session.relint tree batch = (.ok results, after, log)) :
    ∃ indexed removed,
      Differs indexed removed session.workspace after.workspace ∧
      (∀ key ∈ indexed, IsRelative key) ∧
      after.linter = session.linter.within after.workspace ∧
      after.workspace.Reachable ∧
      after.linter.check (affected after.workspace indexed removed) =
        .ok results := by
  obtain ⟨removed, sources, indexed, fromBatch, index, check⟩ :=
    relint_cases relinted
  obtain ⟨reachableBetween, lookups⟩ :=
    Workspace.foldl_remove_touches reachable removed
  obtain ⟨rfl, linterEq, reachableAfter, untouched⟩ :=
    Linter.index_touches index reachableBetween
  refine ⟨_, removed, ⟨?_, ?_, ?_⟩, ?_, linterEq, reachableAfter, check⟩
  · intro key member
    obtain ⟨entry, -, rfl⟩ := List.mem_map.mp member
    exact Path.normalize_normalize entry.1
  · intro key inRemoved notIndexed
    exact (untouched key notIndexed).trans
      ((lookups key).trans (if_pos inRemoved))
  · intro key notRemoved notIndexed
    exact (untouched key notIndexed).trans
      ((lookups key).trans (if_neg notRemoved))
  · intro key member
    obtain ⟨entry, inSources, rfl⟩ := List.mem_map.mp member
    obtain ⟨path, inBatch, equal⟩ :=
      fromBatch entry.1 (Entries.mem_keys_of_mem inSources)
    exact equal ▸ relative path inBatch

/-- A batch that goes through checks every document whose findings may have
changed.  A document without new findings was there before and keeps its old
ones; the findings of the others are those of a check on the new workspace.  So
the old findings of everything, with the new ones in their place, are what a check
of everything gives.  Indexed documents always have paths for their links, as the
reachability of the workspace asks for. -/
theorem relint_misses_nothing {session after : Session} {tree : FileTree}
    {batch : Batch} {results : LintResults} {log : List LogEntry}
    (reachable : session.workspace.Reachable)
    (relative : ∀ key ∈ Entries.keys session.workspace.files, IsRelative key)
    (relativeBatch : ∀ path ∈ batch.changed,
      IsRelative (Path.normalize (session.storage.key tree path)))
    (relinted : session.relint tree batch = (.ok results, after, log)) :
    (∀ key ∈ Entries.keys after.workspace.files, results.lookup key = none →
      (∃ stored, session.workspace.files.lookup key = some stored ∧
        after.workspace.files.lookup key = some stored) ∧
      session.linter.check [key] = after.linter.check [key]) ∧
    (∀ key findings, results.lookup key = some findings →
      after.linter.check [key] = .ok [(key, findings)]) ∧
    (∀ full,
      session.linter.check (Entries.keys session.workspace.files) = .ok full →
      ∃ fullAfter,
        after.linter.check (Entries.keys after.workspace.files) =
          .ok fullAfter ∧
        ∀ key, fullAfter.lookup key =
          if key ∈ Entries.keys after.workspace.files then
            results.lookup key <|> full.lookup key
          else none) ∧
    ∀ dialect text document, Document.index dialect text = .ok document →
      (Stored.indexed document).HasPaths := by
  obtain ⟨indexed, removed, differs, relativeIndexed, linterEq, reachableAfter,
    check⟩ := relint_differs reachable relativeBatch relinted
  have graph := reachableAfter.exact_
  have relativeAfter := differs.relative relative relativeIndexed
  have sameDocument {key : Text}
      (member : key ∈ Entries.keys after.workspace.files)
      (missing : results.lookup key = none) :
      after.workspace.files.lookup key =
        session.workspace.files.lookup key :=
    (differs.lookup_of_not_affected graph member
      (not_mem_affected check missing)).2.2
  have sameCheck {key : Text}
      (member : key ∈ Entries.keys after.workspace.files)
      (missing : results.lookup key = none) :
      session.linter.checkAt key = after.linter.checkAt key := by
    rw [linterEq]
    exact differs.checkAt_of_not_affected session.linter graph relative
      relativeAfter reachableAfter.hasPaths member
      (not_mem_affected check missing)
  refine ⟨?_, ?_, ?_, fun _ _ _ => Stored.hasPaths_of_index⟩
  · intro key member missing
    have held := sameDocument member missing
    obtain ⟨stored, found⟩ := Option.isSome_iff_exists.mp
      (Entries.isSome_lookup_iff.mpr member)
    refine ⟨⟨stored, held.symm.trans found, found⟩, ?_⟩
    rw [Linter.check_singleton, Linter.check_singleton,
      sameCheck member missing]
  · intro key findings found
    rw [Linter.check_singleton, Linter.checkAt_of_results check found]
    rfl
  · intro full checkedFull
    refine Linter.exists_check_lookup fun key member => ?_
    cases found : results.lookup key with
    | some findings => exact Linter.checkAt_of_results check found
    | none =>
        have memberBefore : key ∈ Entries.keys session.workspace.files := by
          rw [← Entries.isSome_lookup_iff, ← sameDocument member found,
            Entries.isSome_lookup_iff]
          exact member
        rw [← sameCheck member found]
        exact (Linter.lookup_of_check checkedFull key).1 memberBefore

/-- A document that holds nothing but links. -/
def pageOf (links : List Link) : Document :=
  { text := [], lines := [], codeBlocks := [], headings := []
    htmlAnchors := [], anchors := [], footnoteRefs := [], footnoteDefs := []
    links := links, definitions := [], regions := [], frontMatter := []
    frontMatterSpan := none, frontMatterError := none, configuration := []
    digest := [] }

/-- Two documents, where the first one links to an anchor that the second one
does not have. -/
def linkedPages : Workspace :=
  let link : Link :=
    { target := "b.md#one".toList, fragment := some "one".toList, line := 1
      column := 1, span := ⟨0, 13⟩, kind := .crossFile
      path := some "b.md".toList, text := "b".toList, style := .inline
      reference := none, isImage := false }
  let first : Workspace := Workspace.insert "a.md".toList
    (.indexed (pageOf [link])) { dialect := .github }
  first.insert "b.md".toList (.indexed (pageOf []))

theorem reachable_linkedPages : linkedPages.Reachable := by
  refine ((Workspace.Reachable.empty .github).insert _ ?_).insert _ ?_
  · intro entry member
    obtain rfl := List.mem_singleton.mp member
    exact ⟨"b.md".toList, rfl, by decide⟩
  · intro entry member
    simp [Stored.lookups, pageOf, Document.crossFileLinks] at member

/-- The second document is deleted: the first one is checked again, and has no
finding any more. -/
theorem relint_misses_nothing_deleted :
    let session : Session :=
      { settings := {}, storage := ⟨FilePath.parse "/docs".toList, [], []⟩
        linter := { workspace := linkedPages } }
    let batch : Batch := ⟨[], [FilePath.parse "/docs/b.md".toList]⟩
    (session.workspace.Reachable ∧
      (∀ key ∈ Entries.keys session.workspace.files, IsRelative key) ∧
      ∀ path ∈ batch.changed,
        IsRelative (Path.normalize (session.storage.key {} path))) ∧
    ∃ results after log,
      session.relint {} batch = (.ok results, after, log) ∧
      results.lookup "a.md".toList = some [] ∧
      after.linter.check ["a.md".toList] = .ok [("a.md".toList, [])] := by
  intro session batch
  have reachable : session.workspace.Reachable := reachable_linkedPages
  have relative : ∀ key ∈ Entries.keys session.workspace.files,
      IsRelative key := by
    unfold IsRelative
    decide
  have relativeBatch : ∀ path ∈ batch.changed,
      IsRelative (Path.normalize (session.storage.key {} path)) := by
    simp [batch]
  have succeeds : (match (session.relint {} batch).1 with
      | .ok results => (results.lookup "a.md".toList).any List.isEmpty
      | .error _ => false) = true := by
    decide +kernel
  rcases relinted : session.relint {} batch with ⟨outcome, after, log⟩
  rw [relinted] at succeeds
  cases outcome with
  | error fault => simp at succeeds
  | ok results =>
      obtain ⟨findings, found, empty⟩ :=
        (Option.any_eq_true _ _).mp succeeds
      obtain rfl := List.isEmpty_iff.mp empty
      have misses := relint_misses_nothing reachable relative relativeBatch
        relinted
      exact ⟨⟨reachable, relative, relativeBatch⟩, results, after, log, rfl,
        found, misses.2.1 _ _ found⟩

end Session

end AnchorLint
