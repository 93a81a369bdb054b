import AnchorLint.Proofs.Watch.Applied
import AnchorLint.Session

/-!
# One result for each file

The findings in a file are reported under its key.  Files at different places
have different keys, so that none of them takes the place of another, as long as
no name on the way to them holds a separator and those outside the root are given
by absolute paths.  A relative path that leads out of the root is no different from
one that stays inside, since the segments that climb out of it are dropped.
-/

namespace AnchorLint

namespace FilePath

/-- Whether a path is made of names and of segments that climb, where no name holds
a separator of either kind. -/
structure IsPlain (path : FilePath) : Prop where
  root : path.root = [] ∨ path.root = ['/'] ∨ path.root = ['/', '/']
  parts : ∀ part ∈ path.parts, part ≠ [] ∧ part ≠ ['.'] ∧ '/' ∉ part ∧ '\\' ∉ part

/-- Texts without backslashes denote plain paths. -/
theorem isPlain_parse {text : Text} (unified : '\\' ∉ text) :
    (parse text).IsPlain where
  root := by
    unfold parse rootOf
    dsimp only
    split <;> simp
  parts := by
    intro part member
    obtain ⟨inFields, different⟩ := List.mem_filter.mp member
    obtain ⟨inSegments, visible⟩ := List.mem_filter.mp inFields
    have characters := Path.mem_segments inSegments
    refine ⟨by simpa using visible, by simpa using different, fun slash => ?_,
      fun backslash => unified (characters _ backslash).2⟩
    exact (characters _ slash).1 rfl

end FilePath

namespace Path

theorem join_injective {first second : List Text} (cleanFirst : IsClean first)
    (cleanSecond : IsClean second)
    (same : Text.join ['/'] first = Text.join ['/'] second) : first = second := by
  rw [← resolve_segments_join cleanFirst, same, resolve_segments_join cleanSecond]

end Path

namespace FileTree

variable {tree : FileTree} {path : FilePath}

/-- The place that a plain path leads to, with its segments carried out as those
of a document path. -/
theorem resolve_eq (plain : path.IsPlain) :
    tree.resolve path = Path.resolve (tree.start path).reverse path.parts := by
  have carried : ∀ (parts stack : List Text),
      (∀ part ∈ parts, part ≠ [] ∧ part ≠ ['.'] ∧ '/' ∉ part ∧ '\\' ∉ part) →
      parts.foldl (fun place part =>
        if part = climb then place.dropLast else place ++ [part])
          stack.reverse = Path.resolve stack parts := by
    intro parts
    induction parts with
    | nil => exact fun _ _ => rfl
    | cons part parts ih =>
        intro stack plain
        obtain ⟨⟨visible, moves, -⟩, later⟩ := List.forall_mem_cons.mp plain
        rw [List.foldl_cons, Path.resolve, if_neg (not_or.mpr ⟨visible, moves⟩)]
        have spelled : (part = climb) = (part = ['.', '.']) := rfl
        by_cases climbs : part = ['.', '.']
        · rw [if_pos (spelled ▸ climbs), if_pos climbs, List.dropLast_reverse,
            ih _ later]
        · rw [if_neg (spelled ▸ climbs), if_neg climbs, ← ih _ later,
            List.reverse_cons]
  rw [resolve, ← carried _ _ plain.parts, List.reverse_reverse]

theorem isClean_resolve (plain : path.IsPlain)
    (clean : Path.IsClean tree.workingDirectory) :
    Path.IsClean (tree.resolve path) := by
  rw [resolve_eq plain]
  refine Path.isClean_resolve ?_ fun part member => (plain.parts part member).2.2
  intro segment member
  unfold start at member
  split at member
  · cases List.mem_reverse.mp member
  · exact clean segment (List.mem_reverse.mp member)

theorem isPossible_of_locate {place : List Text}
    (leads : tree.locate path = .ok place) : isPossible path = true := by
  unfold locate at leads
  split at leads
  · cases leads
  · rename_i possible
    simpa using possible

theorem normalize_write (plain : path.IsPlain) (absolute : path.isAbsolute = true) :
    Path.normalize path.write = '/' :: Text.join ['/'] (tree.resolve path) := by
  have noRoot : ¬ path.root.isEmpty = true := by
    simpa [FilePath.isAbsolute] using absolute
  have written : path.write = path.root ++ Text.join ['/'] path.parts :=
    if_neg fun empty => noRoot empty.1
  have joined : Path.resolve [] (Path.segments (Text.join ['/'] path.parts)) =
      tree.resolve path := by
    rw [resolve_eq plain, start, if_pos absolute, Path.segments, Text.splitAt_beq]
    by_cases nonempty : path.parts = []
    · rw [nonempty]
      rfl
    · rw [Text.join, List.splitOn_intercalate '/'
        (fun part member => (plain.parts part member).2.2.1) nonempty]
      rfl
  have unified : Path.unifySeparators path.write = path.write := by
    refine Path.unifySeparators_eq_self fun backslash => ?_
    rw [written] at backslash
    rcases List.mem_append.mp backslash with inRoot | inParts
    · rcases plain.root with root | root | root <;> simp [root] at inRoot
    · rcases Text.mem_join inParts with separator | ⟨part, member, inPart⟩
      · simp at separator
      · exact (plain.parts part member).2.2.2 inPart
  rw [Path.normalize, unified, written]
  rcases plain.root with root | root | root
  · exact absurd (by simp [root]) noRoot
  · rw [root, if_pos (by simp [Text.startsWith]), List.singleton_append,
      Path.segments_cons_slash, Path.resolve, if_pos (Or.inl rfl), joined]
  · rw [root, if_pos (by simp [Text.startsWith]), List.cons_append,
      List.singleton_append, Path.segments_cons_slash, Path.segments_cons_slash,
      Path.resolve, if_pos (Or.inl rfl), Path.resolve, if_pos (Or.inl rfl), joined]

end FileTree

namespace Storage

variable {storage : Storage} {tree : FileTree} {path : FilePath}

/-- Whether a path leads to a place below the root, or starts at the root of the
file system. -/
def IsPlaced (storage : Storage) (tree : FileTree) (path : FilePath) : Prop :=
  tree.resolve storage.root <+: tree.resolve path ∨ path.isAbsolute = true

def reportKey (storage : Storage) (tree : FileTree) (path : FilePath) : Text :=
  Path.normalize (storage.key tree path)

theorem reportKey_below (possibleRoot : FileTree.isPossible storage.root = true)
    (possible : FileTree.isPossible path = true) {names : List Text}
    (clean : Path.IsClean names)
    (below : tree.resolve path = tree.resolve storage.root ++ names) :
    storage.reportKey tree path = Text.join ['/'] names := by
  have found : (tree.resolve storage.root).isPrefixOf? (tree.resolve path) =
      some names := List.isPrefixOf?_eq_some_iff_append_eq.mpr below.symm
  rw [reportKey, key, possible, possibleRoot, Bool.and_true, if_pos rfl, found]
  dsimp only
  unfold FilePath.write
  split
  · rename_i empty
    obtain rfl := List.isEmpty_iff.mp empty.2
    rfl
  · exact Path.normalize_join clean

theorem reportKey_outside (plain : path.IsPlain)
    (absolute : path.isAbsolute = true)
    (outside : ¬ tree.resolve storage.root <+: tree.resolve path) :
    storage.reportKey tree path = '/' :: Text.join ['/'] (tree.resolve path) := by
  have none_ : (tree.resolve storage.root).isPrefixOf? (tree.resolve path) =
      none := by
    rw [Option.eq_none_iff_forall_ne_some]
    intro names found
    exact outside ⟨names, List.isPrefixOf?_eq_some_iff_append_eq.mp found⟩
  rw [reportKey, key, none_, ite_self]
  exact FileTree.normalize_write plain absolute

/-- The key of a placed file, which tells its place. -/
theorem reportKey_of_isPlaced (clean : Path.IsClean tree.workingDirectory)
    (possibleRoot : FileTree.isPossible storage.root = true)
    (plain : path.IsPlain) (possible : FileTree.isPossible path = true)
    (placed : storage.IsPlaced tree path) :
    ∃ names, Path.IsClean names ∧
      ((tree.resolve path = tree.resolve storage.root ++ names ∧
          storage.reportKey tree path = Text.join ['/'] names) ∨
        (tree.resolve path = names ∧
          storage.reportKey tree path = '/' :: Text.join ['/'] names)) := by
  have cleanPlace := FileTree.isClean_resolve plain clean
  by_cases inside : tree.resolve storage.root <+: tree.resolve path
  · obtain ⟨names, below⟩ := inside
    have cleanNames : Path.IsClean names := fun name member =>
      cleanPlace name (below ▸ List.mem_append_right _ member)
    exact ⟨names, cleanNames, Or.inl ⟨below.symm,
      reportKey_below possibleRoot possible cleanNames below.symm⟩⟩
  · exact ⟨_, cleanPlace, Or.inr ⟨rfl,
      reportKey_outside plain (placed.resolve_left inside) inside⟩⟩

theorem resolve_eq_of_reportKey {other : FilePath}
    (clean : Path.IsClean tree.workingDirectory)
    (possibleRoot : FileTree.isPossible storage.root = true)
    (plain : path.IsPlain) (possible : FileTree.isPossible path = true)
    (placed : storage.IsPlaced tree path)
    (plainOther : other.IsPlain) (possibleOther : FileTree.isPossible other = true)
    (placedOther : storage.IsPlaced tree other)
    (same : storage.reportKey tree path = storage.reportKey tree other) :
    tree.resolve path = tree.resolve other := by
  obtain ⟨names, cleanNames, inside | outside⟩ :=
    reportKey_of_isPlaced clean possibleRoot plain possible placed
  all_goals
    obtain ⟨others, cleanOthers, insideOther | outsideOther⟩ :=
      reportKey_of_isPlaced clean possibleRoot plainOther possibleOther placedOther
  · rw [inside.2, insideOther.2] at same
    rw [inside.1, insideOther.1, Path.join_injective cleanNames cleanOthers same]
  · rw [inside.2, outsideOther.2] at same
    exact absurd (by rw [same]; rfl) (Path.head?_join_ne_slash cleanNames)
  · rw [outside.2, insideOther.2] at same
    exact absurd (by rw [← same]; rfl) (Path.head?_join_ne_slash cleanOthers)
  · rw [outside.2, outsideOther.2] at same
    rw [outside.1, outsideOther.1,
      Path.join_injective cleanNames cleanOthers (List.cons.inj same).2]

theorem keys_textsOf {files : List FilePath}
    (present : ∀ file ∈ files, (textAt? tree file).isSome = true) :
    (storage.textsOf tree files).keys = files.map (storage.key tree) := by
  induction files with
  | nil => rfl
  | cons file files ih =>
      obtain ⟨here, later⟩ := List.forall_mem_cons.mp present
      obtain ⟨text, found⟩ := Option.isSome_iff_exists.mp here
      rw [textsOf, List.filterMap_cons, found]
      exact congrArg _ (ih later)

end Storage

namespace Workspace

/-- Whether all documents of a workspace are indexes, and none of them a mere
record of one. -/
def IsIndexed (workspace : Workspace) : Prop :=
  ∀ key stored, workspace.get? key = some stored →
    ∃ document, stored = .indexed document

end Workspace

namespace Linter

variable {linter : Linter}

theorem isSome_get?_store {workspace : Workspace} {key : Text}
    (held : (workspace.get? key).isSome = true) (entry : Text × Option Document) :
    ((store workspace entry).get? key).isSome = true := by
  unfold store
  split
  · rw [Workspace.get?_insert]
    split
    · rfl
    · exact held
  · exact held

theorem isIndexed_store {workspace : Workspace} (indexed : workspace.IsIndexed)
    (entry : Text × Option Document) : (store workspace entry).IsIndexed := by
  unfold store
  split
  · rename_i document _
    intro key stored held
    rw [Workspace.get?_insert] at held
    split at held
    · exact ⟨document, (Option.some.inj held).symm⟩
    · exact indexed key stored held
  · exact indexed

theorem isIndexed_foldl_store {workspace : Workspace}
    (indexed : workspace.IsIndexed) (entries : List (Text × Option Document)) :
    (entries.foldl store workspace).IsIndexed := by
  induction entries generalizing workspace with
  | nil => exact indexed
  | cons entry entries ih => exact ih (isIndexed_store indexed entry)

/-- Behind new indexes there is a document for each of them, and for each text
that was up to date. -/
theorem isSome_get?_foldl_store {workspace : Workspace}
    {entries : List (Text × Option Document)}
    (current : ∀ entry ∈ entries, entry.2 = none →
      (workspace.get? entry.1).isSome = true) :
    ∀ entry ∈ entries,
      ((entries.foldl store workspace).get? entry.1).isSome = true := by
  have keeps (entries : List (Text × Option Document)) (key : Text) :
      ∀ workspace : Workspace, (workspace.get? key).isSome = true →
        ((entries.foldl store workspace).get? key).isSome = true := by
    induction entries with
    | nil => exact fun _ held => held
    | cons entry entries ih =>
        exact fun workspace held => ih _ (isSome_get?_store held entry)
  induction entries generalizing workspace with
  | nil => simp
  | cons entry entries ih =>
      obtain ⟨here, later⟩ := List.forall_mem_cons.mp current
      refine List.forall_mem_cons.mpr ⟨keeps entries _ _ ?_, ih fun next member
        isNone => isSome_get?_store (later next member isNone) entry⟩
      cases isNew : entry.2 with
      | none => exact isSome_get?_store (here isNew) entry
      | some document => simp [store, isNew, Workspace.get?_insert]

theorem exists_of_current {workspace : Workspace} {key digest : Text}
    (current : workspace.isStale key digest = false) :
    ∃ stored, workspace.get? key = some stored := by
  cases held : workspace.get? key with
  | none => simp [Workspace.isStale, held] at current
  | some stored => exact ⟨stored, rfl⟩

/-- Indexing returns the normalized keys of the texts, and there is a document for
each of them then. -/
theorem keys_of_index {sources : Entries Text Text} {keys : List Text}
    {after : Linter} (succeeds : linter.index sources = .ok (keys, after)) :
    keys = sources.keys.map Path.normalize ∧
      ∀ key ∈ keys, (after.workspace.get? key).isSome = true := by
  obtain ⟨entries, computed, equal⟩ := Outcome.bind_eq_ok.mp succeeds
  obtain ⟨rfl, rfl⟩ := Prod.mk.inj (Except.ok.inj equal)
  have each := Outcome.mapM_eq_ok.mp computed
  have sameKeys : entries.map Prod.fst = sources.keys.map Path.normalize := by
    have renews := renews_of_indexAll computed
    clear computed equal succeeds each
    induction renews with
    | nil => rfl
    | cons here _ ih =>
        rw [List.map_cons, here.1, ih]
        rfl
  have current : ∀ entry ∈ entries, entry.2 = none →
      (linter.workspace.get? entry.1).isSome = true := by
    clear computed equal succeeds sameKeys
    induction each with
    | nil => simp
    | cons here _ ih =>
        refine List.forall_mem_cons.mpr ⟨fun isNone => ?_, ih⟩
        obtain ⟨renewed, single, made⟩ := Outcome.bind_eq_ok.mp here
        obtain rfl := Except.ok.inj made
        obtain rfl : renewed = none := isNone
        unfold indexIfStale at single
        split at single
        · obtain ⟨_, -, absurd⟩ := Outcome.map_eq_ok.mp single
          cases absurd
        · rename_i current
          obtain ⟨stored, held⟩ := exists_of_current (Bool.eq_false_iff.mpr current)
          exact Option.isSome_iff_exists.mpr ⟨stored, held⟩
  refine ⟨sameKeys, fun key member => ?_⟩
  obtain ⟨entry, inEntries, rfl⟩ := List.mem_map.mp member
  exact isSome_get?_foldl_store current entry inEntries

theorem keys_of_check {keys : List Text} {results : LintResults}
    (distinct : keys.Nodup)
    (held : ∀ key ∈ keys, (linter.workspace.get? key).isSome = true)
    (checked : linter.check keys = .ok results) : results.keys = keys := by
  induction keys using List.reverseRecOn generalizing results with
  | nil =>
      obtain rfl : results = [] := (Except.ok.inj checked).symm
      rfl
  | append_singleton keys last ih =>
      rw [check_concat] at checked
      obtain ⟨earlier, before, later⟩ := Outcome.bind_eq_ok.mp checked
      obtain ⟨found, checkedHere, rfl⟩ := Outcome.map_eq_ok.mp later
      obtain ⟨stored, isStored⟩ := Option.isSome_iff_exists.mp (held last (by simp))
      obtain ⟨findings, rfl⟩ := checkAt_of_lookup isStored checkedHere
      have sameKeys := ih distinct.of_append_left
        (fun key member => held key (List.mem_append_left _ member)) before
      have isNew : last ∉ earlier.keys := by
        rw [sameKeys]
        exact fun member => List.disjoint_of_nodup_append distinct member (by simp)
      rw [addResult, Entries.put_of_not_mem isNew, Entries.keys, List.map_append,
        ← Entries.keys, sameKeys]
      rfl

theorem exists_check_of_isIndexed (indexed : linter.workspace.IsIndexed)
    (keys : List Text) : ∃ results, linter.check keys = .ok results := by
  refine exists_check fun key _ => ?_
  unfold checkAt
  cases held : linter.workspace.get? key with
  | none => exact ⟨none, rfl⟩
  | some stored =>
      obtain ⟨document, rfl⟩ := indexed key stored held
      exact ⟨_, rfl⟩

/-- Where nothing but indexes is held, texts that can be indexed are linted. -/
theorem exists_lint {sources : Entries Text Text}
    (indexed : linter.workspace.IsIndexed)
    (possible : ∀ entry ∈ sources,
      Document.CanIndex linter.workspace.dialect entry.2) :
    ∃ results after, linter.lint sources = .ok (.ok results, after) := by
  let entries := sources.map fun entry =>
    (Path.normalize entry.1, renewal linter.workspace entry)
  let after := linter.within (entries.foldl store linter.workspace)
  have stays : after.workspace.IsIndexed := isIndexed_foldl_store indexed entries
  obtain ⟨results, checked⟩ :=
    exists_check_of_isIndexed stays (entries.map Prod.fst)
  refine ⟨results, after, ?_⟩
  rw [lint, index, indexAll_of_possible possible]
  exact congrArg (fun outcome => Except.ok (outcome, after)) checked

end Linter

namespace Session

variable {session : Session} {tree : FileTree} {files : List FilePath}

/-- Texts whose normalized keys are distinct have one result each. -/
theorem keys_of_lint {sources : Entries Text Text} {results : LintResults}
    {after : Session} (distinct : (sources.keys.map Path.normalize).Nodup)
    (linted : session.lint sources = .ok (results, after)) :
    results.keys = sources.keys.map Path.normalize := by
  obtain ⟨⟨checked, linter⟩, lints, more⟩ := Outcome.bind_eq_ok.mp linted
  obtain ⟨found, isFound, equal⟩ := Outcome.bind_eq_ok.mp more
  obtain ⟨rfl, -⟩ := Prod.mk.inj (Except.ok.inj equal)
  obtain ⟨⟨keys, behind⟩, indexed, same⟩ :=
    Outcome.bind_eq_ok.mp (Outcome.mapError_eq_ok.mp lints)
  obtain ⟨rfl, rfl⟩ := Prod.mk.inj (Except.ok.inj same)
  obtain ⟨rfl, held⟩ := Linter.keys_of_index indexed
  exact Linter.keys_of_check distinct held (Outcome.mapError_eq_ok.mp isFound)

theorem exists_lint {sources : Entries Text Text}
    (indexed : session.workspace.IsIndexed)
    (possible : ∀ entry ∈ sources,
      Document.CanIndex session.workspace.dialect entry.2) :
    ∃ results after, session.lint sources = .ok (results, after) := by
  obtain ⟨results, linter, lints⟩ := Linter.exists_lint indexed possible
  refine ⟨results, { session with linter := linter }, ?_⟩
  rw [lint, lints]
  rfl

/-- Readable files at different places, below the root or given by absolute paths,
have different keys, and a lint of them returns one result for each file, in their
order.  The lint succeeds if the workspace holds nothing but indexes and each
text can be indexed. -/
theorem lint_keeps_files (clean : Path.IsClean tree.workingDirectory)
    (possibleRoot : FileTree.isPossible session.storage.root = true)
    (readable : ∀ file ∈ files, ∃ content, tree.read file = .ok content)
    (plain : ∀ file ∈ files, file.IsPlain)
    (placed : ∀ file ∈ files, session.storage.IsPlaced tree file)
    (apart : (files.map tree.resolve).Nodup) :
    (files.map (session.storage.reportKey tree)).Nodup ∧
    ∃ texts, (session.storage.readAll tree files).result = (.ok texts, []) ∧
      (∀ results after,
        session.lint (Storage.sources texts) = .ok (results, after) →
          results.keys = files.map (session.storage.reportKey tree)) ∧
      (session.workspace.IsIndexed →
        (∀ entry ∈ texts, Document.CanIndex session.workspace.dialect entry.2) →
          ∃ results after,
            session.lint (Storage.sources texts) = .ok (results, after)) := by
  have possible : ∀ file ∈ files, FileTree.isPossible file = true := by
    intro file member
    obtain ⟨content, held⟩ := readable file member
    obtain ⟨place, leads, -⟩ := FileTree.exists_of_read held
    exact FileTree.isPossible_of_locate leads
  have distinct : (files.map (session.storage.reportKey tree)).Nodup := by
    rw [List.nodup_map_iff_inj_on (List.Nodup.of_map _ apart)]
    intro file member other memberOther same
    refine List.inj_on_of_nodup_map apart member memberOther ?_
    exact Storage.resolve_eq_of_reportKey clean possibleRoot
      (plain file member) (possible file member) (placed file member)
      (plain other memberOther) (possible other memberOther)
      (placed other memberOther) same
  have present : ∀ file ∈ files, (Storage.textAt? tree file).isSome = true := by
    intro file member
    obtain ⟨content, held⟩ := readable file member
    rw [Storage.textAt?_of_read held]
    rfl
  have keys := @Storage.keys_textsOf session.storage _ _ present
  have reported : ((session.storage.textsOf tree files).keys.map
      Path.normalize) = files.map (session.storage.reportKey tree) := by
    rw [keys, List.map_map]
    rfl
  have sources : Storage.sources (session.storage.textsOf tree files) =
      session.storage.textsOf tree files := by
    refine Entries.foldl_put_eq_append ?_
    exact List.Nodup.of_map _ (reported ▸ distinct)
  refine ⟨distinct, session.storage.textsOf tree files,
    Storage.readAll_of_isSome present, ?_, ?_⟩
  · intro results after linted
    rw [sources] at linted
    rw [← reported]
    exact keys_of_lint (reported ▸ distinct) linted
  · intro indexed canIndex
    rw [sources]
    exact exists_lint indexed canIndex

/-- A tree with files inside and outside of the working directory. -/
def crossedTree : FileTree where
  nodes := [(["w".toList], .directory), (["x".toList], .directory),
    (["w".toList, "a.md".toList], .file (Utf8.encode "# In".toList)),
    (["x".toList, "a.md".toList], .file (Utf8.encode "# Out".toList)),
    (["w".toList, "b.md".toList], .file (Utf8.encode "# Back".toList))]
  workingDirectory := ["w".toList]

/-- Files of the tree, one of them by a way that leads out of the root and back
into it. -/
def crossedFiles : List FilePath :=
  ["a.md".toList, "/x/a.md".toList, "../w/b.md".toList].map FilePath.parse

theorem lint_keeps_files_crossed :
    let session : Session := make ⟨[], []⟩ {} { dialect := .github }
    ∃ texts results after,
      (session.storage.readAll crossedTree crossedFiles).result =
        (.ok texts, []) ∧
      session.lint (Storage.sources texts) = .ok (results, after) ∧
      results.keys =
        ["a.md".toList, "/x/a.md".toList, "b.md".toList] := by
  intro session
  have plain : ∀ file ∈ crossedFiles, file.IsPlain := by
    intro file member
    obtain ⟨text, isText, rfl⟩ := List.mem_map.mp member
    refine FilePath.isPlain_parse ?_
    revert text
    decide
  have isReadable : ∀ file ∈ crossedFiles,
      (crossedTree.read file).toOption.isSome = true := by
    decide +kernel
  have readable : ∀ file ∈ crossedFiles, ∃ content,
      crossedTree.read file = .ok content := by
    intro file member
    obtain ⟨content, held⟩ := Option.isSome_iff_exists.mp (isReadable file member)
    exact ⟨content, Outcome.toOption_eq_some.mp held⟩
  have empty : session.workspace.IsIndexed := fun _ _ held => nomatch held
  have canIndex : ∀ text ∈ ["# In".toList, "# Out".toList, "# Back".toList],
      Document.CanIndex .github text := by
    decide +kernel
  obtain ⟨-, texts, read, keys, succeeds⟩ :=
    @lint_keeps_files session crossedTree crossedFiles
      (by unfold Path.IsClean; decide) (by decide) readable plain
      (by unfold Storage.IsPlaced; decide) (by decide)
  have evaluated : (session.storage.readAll crossedTree crossedFiles).result =
      (.ok [("a.md".toList, "# In".toList), ("/x/a.md".toList, "# Out".toList),
        ("b.md".toList, "# Back".toList)], []) := by
    with_unfolding_all rfl
  obtain rfl := Except.ok.inj (Prod.mk.inj (read.symm.trans evaluated)).1
  obtain ⟨results, after, linted⟩ := succeeds empty fun entry member =>
    canIndex entry.2 (List.mem_map_of_mem member)
  refine ⟨_, results, after, evaluated, linted, ?_⟩
  rw [keys results after linted]
  decide +kernel

end Session

end AnchorLint
