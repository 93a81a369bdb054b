import AnchorLint.Proofs.Lint.Incremental
import AnchorLint.Proofs.Watch.Relint
import AnchorLint.Proofs.Watch.Route

/-!
# What a batch leaves in the workspace

A batch names files that have changed and files that are gone.  After it the
workspace holds, for every file that has changed, the index of the text that is
read from the file now, or nothing if there is no such file any more; nothing for
the files that are gone; and what it held before for all others.
-/

namespace AnchorLint

namespace Storage

/-! ## Reading -/

/-- The text that the bytes of a file stand for. -/
def textOf (content : Bytes) : Text :=
  unifyBreaks (Utf8.decodeLossy content)

def textAt? (tree : FileTree) (path : FilePath) : Option Text :=
  (readText tree path).result.1.toOption.join

variable {storage : Storage} {tree : FileTree} {path : FilePath}

theorem textAt?_eq (tree : FileTree) (path : FilePath) :
    textAt? tree path = (tree.read path).toOption.map textOf := by
  unfold textAt? readText
  cases tree.read path with
  | ok content => rfl
  | error error => cases error <;> rfl

theorem textAt?_of_read {content : Bytes} (held : tree.read path = .ok content) :
    textAt? tree path = some (textOf content) := by
  rw [textAt?_eq, held]
  rfl

theorem read_of_textAt? {text : Text} (found : textAt? tree path = some text) :
    ∃ content, tree.read path = .ok content ∧ textOf content = text := by
  rw [textAt?_eq] at found
  obtain ⟨content, held, equal⟩ := Option.map_eq_some_iff.mp found
  exact ⟨content, Outcome.toOption_eq_some.mp held, equal⟩

theorem contains_of_admits (admits : tree.Admits path) :
    tree.contains path = .ok (textAt? tree path).isSome := by
  rw [admits.contains, textAt?_eq, Option.isSome_map]

/-- The texts of some paths by key, without those that have none. -/
def textsOf (storage : Storage) (tree : FileTree) (paths : List FilePath) :
    Entries Text Text :=
  paths.filterMap fun path =>
    (textAt? tree path).map fun text => (storage.key tree path, text)

theorem readAll_of_isSome {paths : List FilePath}
    (present : ∀ path ∈ paths, (textAt? tree path).isSome = true) :
    (storage.readAll tree paths).result =
      (.ok (storage.textsOf tree paths), []) := by
  have collected : paths.foldl (fun texts path => texts ++
      ((textAt? tree path).map fun text => (storage.key tree path, text)).toList)
      [] = storage.textsOf tree paths := by
    rw [textsOf, List.filterMap_eq_flatMap_toList, List.flatMap_eq_foldl]
  rw [← collected]
  refine Logged.run_foldlM _ (fun path member texts => ?_) []
  obtain ⟨text, found⟩ := Option.isSome_iff_exists.mp (present path member)
  obtain ⟨content, held, rfl⟩ := read_of_textAt? found
  have read : (readText tree path).run.run [] =
      (.ok (some (textOf content)), []) := by
    unfold readText
    rw [held]
    rfl
  rw [Outcome.run_bind, read, found]
  rfl

theorem lookup_sources (texts : Entries Text Text) (key : Text) :
    (sources texts).lookup key = texts.reverse.lookup key := by
  induction texts using List.reverseRecOn with
  | nil => rfl
  | append_singleton texts entry ih =>
      obtain ⟨last, text⟩ := entry
      rw [sources, List.foldl_append, List.foldl_cons, List.foldl_nil,
        ← sources, List.reverse_concat]
      by_cases same : key = last
      · rw [same, Entries.lookup_put_self, List.lookup_cons_self]
      · rw [Entries.lookup_put_of_ne _ same, Entries.lookup_cons_of_ne same, ih]

theorem nodup_keys_sources (texts : Entries Text Text) :
    (sources texts).keys.Nodup := by
  induction texts using List.reverseRecOn with
  | nil => exact List.nodup_nil
  | append_singleton texts entry ih =>
      rw [sources, List.foldl_append, List.foldl_cons, List.foldl_nil, ← sources]
      exact Entries.nodup_keys_put ih _ _

end Storage

/-! ## Indexing -/

namespace Workspace

/-- Whether a document that seems to be up to date is the index of the text. -/
def Recognizes (workspace : Workspace) (key text : Text) : Prop :=
  workspace.isStale key (Digest.ofText text) = false →
    workspace.get? key = Stored.ofText? workspace.dialect text

theorem dialect_foldl_remove (workspace : Workspace) (removed : List Text) :
    (removed.foldl (fun workspace key => workspace.remove key)
      workspace).dialect = workspace.dialect := by
  induction removed generalizing workspace with
  | nil => rfl
  | cons path removed ih => rw [List.foldl_cons, ih, dialect_remove]

/-- What has been removed does not seem to be up to date. -/
theorem Recognizes.foldl_remove {workspace : Workspace} {key text : Text}
    (recognizes : workspace.Recognizes key text) (removed : List Text) :
    (removed.foldl (fun workspace key => workspace.remove key)
      workspace).Recognizes key text := by
  unfold Recognizes isStale at *
  rw [dialect_foldl_remove]
  simp only [get?, lookup_foldl_remove] at recognizes ⊢
  split
  · intro current
    simp at current
  · exact recognizes

end Workspace

namespace Linter

/-- Documents with distinct keys are put in independently of each other. -/
theorem lookup_foldl_store {entries : Entries Text (Option Document)}
    (distinct : entries.keys.Nodup)
    (normalized : ∀ key ∈ entries.keys, Path.normalize key = key)
    (workspace : Workspace) (key : Text) :
    (entries.foldl store workspace).files.lookup key =
      ((entries.lookup key).join.map .indexed).or
        (workspace.files.lookup key) := by
  induction entries generalizing workspace with
  | nil => rfl
  | cons entry entries ih =>
      obtain ⟨path, document?⟩ := entry
      obtain ⟨notLater, distinctLater⟩ := List.nodup_cons.mp distinct
      obtain ⟨normalHere, normalLater⟩ := List.forall_mem_cons.mp normalized
      rw [List.foldl_cons, ih distinctLater normalLater]
      by_cases same : key = path
      · subst same
        rw [Entries.lookup_eq_none_iff_not_mem.mpr notLater,
          List.lookup_cons_self]
        cases document? with
        | none => rfl
        | some document =>
            rw [store, Workspace.files_insert, normalHere,
              Entries.lookup_put_self]
            rfl
      · rw [Entries.lookup_cons_of_ne same]
        cases document? with
        | none => rfl
        | some document =>
            rw [store, Workspace.files_insert, normalHere,
              Entries.lookup_put_of_ne _ same]

theorem index_of_possible {linter : Linter} {sources : Entries Text Text}
    (distinct : sources.keys.Nodup)
    (normalized : ∀ key ∈ sources.keys, Path.normalize key = key)
    (possible : ∀ entry ∈ sources,
      Document.CanIndex linter.workspace.dialect entry.2)
    (recognizes : ∀ entry ∈ sources,
      linter.workspace.Recognizes entry.1 entry.2) :
    ∃ keys after, linter.index sources = .ok (keys, linter.within after) ∧
      after.dialect = linter.workspace.dialect ∧
      ∀ key, after.files.lookup key =
        match sources.lookup key with
        | some text => Stored.ofText? linter.workspace.dialect text
        | none => linter.workspace.files.lookup key := by
  let renewed : Entries Text (Option Document) := sources.map fun entry =>
    (entry.1, renewal linter.workspace entry)
  have entries : indexAll linter.workspace sources = .ok renewed := by
    rw [indexAll_of_possible possible]
    refine congrArg Except.ok (List.map_congr_left fun entry member => ?_)
    rw [normalized entry.1 (Entries.mem_keys_of_mem member)]
  have sameKeys : renewed.keys = sources.keys :=
    Entries.keys_map_value sources _
  refine ⟨renewed.keys, renewed.foldl store linter.workspace, ?_,
    dialect_foldl_store linter.workspace renewed, fun key => ?_⟩
  · rw [Linter.index, entries]
    rfl
  · have lookup : renewed.lookup key = (sources.lookup key).map fun text =>
        renewal linter.workspace (key, text) :=
      Entries.lookup_map_value sources
        (fun key text => renewal linter.workspace (key, text)) key
    rw [lookup_foldl_store (by rwa [sameKeys]) (by rwa [sameKeys]), lookup]
    cases found : sources.lookup key with
    | none => rfl
    | some text =>
        have member := Entries.mem_of_lookup found
        have normal := normalized key (Entries.mem_keys_of_mem member)
        obtain ⟨document, indexed⟩ := possible _ member
        have current := recognizes _ member
        rw [Workspace.Recognizes, Workspace.get?, normal] at current
        simp only [renewal, normal, Option.map_some, Option.join_some]
        split
        · simp [Stored.ofText?, indexed, Except.toOption]
        · rename_i upToDate
          exact current (Bool.eq_false_iff.mpr upToDate)

end Linter

/-! ## Batches -/

namespace Storage

variable {storage : Storage} {tree : FileTree} {paths : List FilePath}

theorem mem_textsOf_route
    (possible : FileTree.isPossible storage.root = true)
    (routes : ∀ path ∈ paths, ∃ route : Route, path = route.path storage.root)
    {route : Route} {text : Text} :
    (route.key, text) ∈ storage.textsOf tree paths ↔
      route.path storage.root ∈ paths ∧
        textAt? tree (route.path storage.root) = some text := by
  rw [textsOf, List.mem_filterMap]
  constructor
  · rintro ⟨path, member, named⟩
    obtain ⟨other, rfl⟩ := routes path member
    obtain ⟨held, found, equal⟩ := Option.map_eq_some_iff.mp named
    rw [Route.key_path possible, Prod.mk.injEq] at equal
    obtain ⟨sameKey, rfl⟩ := equal
    obtain rfl := Route.key_injective sameKey
    exact ⟨member, found⟩
  · rintro ⟨member, found⟩
    refine ⟨_, member, ?_⟩
    rw [found, Option.map_some, Route.key_path possible]

theorem exists_route_of_mem_sources
    (possible : FileTree.isPossible storage.root = true)
    (routes : ∀ path ∈ paths, ∃ route : Route, path = route.path storage.root)
    {entry : Text × Text}
    (member : entry ∈ sources (storage.textsOf tree paths)) :
    ∃ route : Route, entry.1 = route.key ∧
      route.path storage.root ∈ paths ∧
      textAt? tree (route.path storage.root) = some entry.2 := by
  have found := Entries.lookup_of_mem (nodup_keys_sources _) member
  rw [lookup_sources] at found
  have inTexts := List.mem_reverse.mp (Entries.mem_of_lookup found)
  obtain ⟨path, inPaths, named⟩ := List.mem_filterMap.mp inTexts
  obtain ⟨route, rfl⟩ := routes path inPaths
  obtain ⟨text, read, equal⟩ := Option.map_eq_some_iff.mp named
  rw [Route.key_path possible, Prod.mk.injEq] at equal
  exact ⟨route, equal.1.symm, inPaths, equal.2 ▸ read⟩

theorem mem_map_normalize_key
    (possible : FileTree.isPossible storage.root = true)
    (routes : ∀ path ∈ paths, ∃ route : Route, path = route.path storage.root)
    (route : Route) :
    route.key ∈ (paths.map (storage.key tree)).map Path.normalize ↔
      route.path storage.root ∈ paths := by
  rw [List.map_map, List.mem_map]
  constructor
  · rintro ⟨path, member, equal⟩
    obtain ⟨other, rfl⟩ := routes path member
    rw [Function.comp_apply, Route.key_path possible, Route.normalize_key] at equal
    exact Route.key_injective equal ▸ member
  · intro member
    refine ⟨_, member, ?_⟩
    rw [Function.comp_apply, Route.key_path possible, Route.normalize_key]

theorem lookup_sources_textsOf
    (possible : FileTree.isPossible storage.root = true)
    (routes : ∀ path ∈ paths, ∃ route : Route, path = route.path storage.root)
    (route : Route) :
    (sources (storage.textsOf tree paths)).lookup route.key =
      if route.path storage.root ∈ paths then
        textAt? tree (route.path storage.root)
      else none := by
  have isRead {text : Text} (found :
      (sources (storage.textsOf tree paths)).lookup route.key = some text) :
      route.path storage.root ∈ paths ∧
        textAt? tree (route.path storage.root) = some text := by
    rw [lookup_sources] at found
    exact (mem_textsOf_route possible routes).mp
      (List.mem_reverse.mp (Entries.mem_of_lookup found))
  cases found : (sources (storage.textsOf tree paths)).lookup route.key with
  | some text =>
      obtain ⟨member, read⟩ := isRead found
      rw [if_pos member, read]
  | none =>
      rw [lookup_sources, Entries.lookup_eq_none_iff_not_mem] at found
      symm
      rw [ite_eq_right_iff]
      intro member
      by_contra present
      obtain ⟨text, read⟩ := Option.ne_none_iff_exists'.mp present
      have entry := (mem_textsOf_route possible routes).mpr ⟨member, read⟩
      exact found (Entries.mem_keys_of_mem (List.mem_reverse.mpr entry))

end Storage

/-- In a batch of files whose places are known, the changed ones without a text
are gone. -/
theorem Batch.settle_of_admits {tree : FileTree} {batch : Batch}
    (admits : ∀ path ∈ batch.changed, tree.Admits path) :
    ∃ settled, batch.settle tree = .ok settled ∧
      (∀ path, path ∈ settled.changed ↔ path ∈ batch.changed ∧
        (Storage.textAt? tree path).isSome = true) ∧
      ∀ path, path ∈ settled.deleted ↔ path ∈ batch.deleted ∨
        path ∈ batch.changed ∧ Storage.textAt? tree path = none := by
  have present : batch.changed.filterM tree.contains =
      .ok (batch.changed.filter fun path =>
        (Storage.textAt? tree path).isSome) :=
    Outcome.filterM_of_ok fun path member =>
      Storage.contains_of_admits (admits path member)
  refine ⟨_, by rw [settle, present]; rfl, fun path => List.mem_filter,
    fun path => ?_⟩
  rw [List.mem_append, List.mem_filter]
  refine or_congr_right (and_congr_right fun member => ?_)
  simp [member]

namespace Session

def within (session : Session) (workspace : Workspace) : Session :=
  { session with linter := session.linter.within workspace }

variable {session : Session} {tree : FileTree} {batch : Batch}

theorem storage_remove (session : Session) (keys : List Text) :
    (session.remove keys).storage = session.storage := rfl

theorem get?_remove {paths : List FilePath}
    (possible : FileTree.isPossible session.storage.root = true)
    (routes : ∀ path ∈ paths,
      ∃ route : Route, path = route.path session.storage.root)
    (route : Route) :
    (session.remove (paths.map (session.storage.key tree))).workspace.get?
        route.key =
      if route.path session.storage.root ∈ paths then none
      else session.workspace.get? route.key := by
  rw [Workspace.get?, Workspace.get?, Route.normalize_key]
  exact (Workspace.lookup_foldl_remove _ _ _).trans
    (if_congr (Storage.mem_map_normalize_key possible routes route) rfl rfl)

theorem index_textsOf {paths : List FilePath}
    (possible : FileTree.isPossible session.storage.root = true)
    (routes : ∀ path ∈ paths,
      ∃ route : Route, path = route.path session.storage.root)
    (readable : ∀ route : Route, route.path session.storage.root ∈ paths →
      ∀ text,
      Storage.textAt? tree (route.path session.storage.root) = some text →
        Document.CanIndex session.workspace.dialect text ∧
          session.workspace.Recognizes route.key text) :
    ∃ keys after,
      session.linter.index
          (Storage.sources (session.storage.textsOf tree paths)) =
        .ok (keys, session.linter.within after) ∧
      after.dialect = session.workspace.dialect ∧
      ∀ route : Route, after.get? route.key =
        match if route.path session.storage.root ∈ paths then
          Storage.textAt? tree (route.path session.storage.root) else none with
        | some text => Stored.ofText? session.workspace.dialect text
        | none => session.workspace.get? route.key := by
  have named : ∀ entry ∈ Storage.sources (session.storage.textsOf tree paths),
      ∃ route : Route, entry.1 = route.key ∧
        Document.CanIndex session.workspace.dialect entry.2 ∧
        session.workspace.Recognizes route.key entry.2 := by
    intro entry member
    obtain ⟨route, equal, inPaths, read⟩ :=
      Storage.exists_route_of_mem_sources possible routes member
    exact ⟨route, equal, readable route inPaths entry.2 read⟩
  have normalized : ∀ key ∈ Entries.keys
      (Storage.sources (session.storage.textsOf tree paths)),
      Path.normalize key = key := by
    intro key member
    obtain ⟨entry, inSources, rfl⟩ := List.mem_map.mp member
    obtain ⟨route, equal, -⟩ := named entry inSources
    rw [equal, Route.normalize_key]
  obtain ⟨keys, after, indexed, sameDialect, lookups⟩ :=
    @Linter.index_of_possible session.linter _ (Storage.nodup_keys_sources _)
      normalized
      (fun entry member => (named entry member).elim fun _ facts => facts.2.1)
      (fun entry member => (named entry member).elim fun _ facts =>
        facts.1 ▸ facts.2.2)
  refine ⟨keys, after, indexed, sameDialect, fun route => ?_⟩
  rw [Workspace.get?, Workspace.get?, Route.normalize_key, lookups,
    Storage.lookup_sources_textsOf possible routes]
  rfl

theorem recheck_of_index {sources : Entries Text Text}
    {removed keys : List Text} {workspace : Workspace}
    (indexed : session.linter.index sources =
      .ok (keys, session.linter.within workspace)) :
    (session.recheck sources removed).2 = session.within workspace := by
  rw [recheck, indexed]
  rfl

theorem relint_of_settle {settled : Batch} (settles : batch.settle tree = .ok settled)
    (present : ∀ path ∈ settled.changed,
      (Storage.textAt? tree path).isSome = true) :
    let removed := settled.deleted.map (session.storage.key tree)
    let texts := session.storage.textsOf tree (FilePath.sort settled.changed)
    (session.relint tree batch).2.1 =
      ((session.remove removed).recheck (Storage.sources texts) removed).2 := by
  have sorted : ∀ path ∈ FilePath.sort settled.changed,
      (Storage.textAt? tree path).isSome = true :=
    fun path member => present path (List.mem_mergeSort.mp member)
  have read : ((session.remove (settled.deleted.map
      (session.storage.key tree))).storage.readAll tree
        (FilePath.sort settled.changed)).result = _ :=
    Storage.readAll_of_isSome sorted
  rw [relint, settles]
  dsimp only
  rw [read]
  rfl

/-- What a batch leaves in the workspace, if all texts can be indexed and are
recognized where they are up to date. -/
theorem get?_of_relint
    (possible : FileTree.isPossible session.storage.root = true)
    (changed : ∀ path ∈ batch.changed, tree.Admits path ∧
      ∃ route : Route, path = route.path session.storage.root)
    (deleted : ∀ path ∈ batch.deleted,
      ∃ route : Route, path = route.path session.storage.root)
    (readable : ∀ route : Route,
      route.path session.storage.root ∈ batch.changed → ∀ text,
      Storage.textAt? tree (route.path session.storage.root) = some text →
        Document.CanIndex session.workspace.dialect text ∧
          session.workspace.Recognizes route.key text) :
    ∃ after, (session.relint tree batch).2.1 = session.within after ∧
      after.dialect = session.workspace.dialect ∧
      ∀ route : Route, after.get? route.key =
        if route.path session.storage.root ∈ batch.changed then
          (Storage.textAt? tree (route.path session.storage.root)).bind
            (Stored.ofText? session.workspace.dialect)
        else if route.path session.storage.root ∈ batch.deleted then none
        else session.workspace.get? route.key := by
  obtain ⟨settled, settles, isChanged, isDeleted⟩ :=
    Batch.settle_of_admits fun path member => (changed path member).1
  have present : ∀ path ∈ settled.changed,
      (Storage.textAt? tree path).isSome = true :=
    fun path member => ((isChanged path).mp member).2
  have routes : ∀ path ∈ FilePath.sort settled.changed,
      ∃ route : Route, path = route.path session.storage.root := by
    intro path member
    exact (changed path ((isChanged path).mp (List.mem_mergeSort.mp member)).1).2
  have goneRoutes : ∀ path ∈ settled.deleted,
      ∃ route : Route, path = route.path session.storage.root := by
    intro path member
    rcases (isDeleted path).mp member with old | ⟨inChanged, -⟩
    · exact deleted path old
    · exact (changed path inChanged).2
  -- The removals come first: a document that has gone is never up to date.
  let removed := settled.deleted.map (session.storage.key tree)
  have dialectBetween : (session.remove removed).workspace.dialect =
      session.workspace.dialect := Workspace.dialect_foldl_remove _ _
  obtain ⟨keys, after, indexed, sameDialect, held⟩ :=
    @index_textsOf (session.remove removed) tree _ possible routes (by
      intro route member text read
      have inChanged := ((isChanged _).mp (List.mem_mergeSort.mp member)).1
      obtain ⟨canIndex, recognizes⟩ := readable route inChanged text read
      exact ⟨dialectBetween.symm ▸ canIndex, recognizes.foldl_remove removed⟩)
  refine ⟨after, ?_, sameDialect.trans dialectBetween, fun route => ?_⟩
  · rw [relint_of_settle settles present]
    exact recheck_of_index indexed
  · have between : (session.remove removed).workspace.get? route.key =
        if route.path session.storage.root ∈ settled.deleted then none
        else session.workspace.get? route.key :=
      get?_remove possible goneRoutes route
    rw [held, dialectBetween, between]
    simp only [storage_remove, FilePath.sort, List.mem_mergeSort, isChanged,
      isDeleted]
    by_cases inChanged : route.path session.storage.root ∈ batch.changed
    · cases Storage.textAt? tree (route.path session.storage.root) <;>
        simp [inChanged]
    · simp [inChanged]

end Session

end AnchorLint
