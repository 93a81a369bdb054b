import AnchorLint.Proofs.Cache.File
import AnchorLint.Session

/-!
# Cache files of no use

A run that finds a cache file begins with the workspace that the file holds, or it
removes the file and begins with an empty one.  There is one gap between the two:
a file may decode well and hold a link to another document whose path is no text.
Such a link comes to light only when the graph of links is made, and then the run
cannot begin.
-/

namespace AnchorLint

namespace Cache

/-- Whether the graph of links can take up a link: a link to another document
has a text as its path, unless the path counts as missing. -/
def LinkRecord.IsSound (link : LinkRecord) : Prop :=
  link.leavesPage = true → link.path.isTruthy = true →
    ∃ path, link.path = .str path

/-- Whether the graph of links can take up all links of a record. -/
def Record.IsSound (record : Record) : Prop :=
  ∀ link ∈ record.links, link.IsSound

theorem LinkRecord.isSound_of_toLink? {record : LinkRecord} {link : Link}
    (made : record.toLink? = some link) : record.IsSound := by
  intro _ truthy
  unfold toLink? at made
  iterate 5 obtain ⟨_, -, made⟩ := Option.bind_eq_some_iff.mp made
  obtain ⟨path, isPath, -⟩ := Option.bind_eq_some_iff.mp made
  cases read : record.path with
  | str text => exact ⟨text, rfl⟩
  | null =>
      rw [read] at truthy
      cases truthy
  | _ => simp [read, orNull?, text?] at isPath

theorem exists_of_mapM_eq_some {α β : Type} {compute : α → Option β}
    {items : List α} {values : List β} (computed : items.mapM compute = some values) :
    ∀ item ∈ items, ∃ value, compute item = some value := by
  induction items generalizing values with
  | nil => simp
  | cons item items ih =>
      rw [List.mapM_cons] at computed
      obtain ⟨value, here, rest⟩ := Option.bind_eq_some_iff.mp computed
      obtain ⟨others, later, -⟩ := Option.bind_eq_some_iff.mp rest
      exact List.forall_mem_cons.mpr ⟨⟨value, here⟩, ih later⟩

theorem Record.isSound_of_toDocument? {record : Record} {document : Document}
    (made : record.toDocument? = some document) : record.IsSound := by
  unfold toDocument? at made
  iterate 9 obtain ⟨_, -, made⟩ := Option.bind_eq_some_iff.mp made
  obtain ⟨links, read, -⟩ := Option.bind_eq_some_iff.mp made
  intro link member
  obtain ⟨_, found⟩ := exists_of_mapM_eq_some read link member
  exact LinkRecord.isSound_of_toLink? found

end Cache

namespace Stored

theorem checkPaths_cached (record : Cache.Record) :
    (cached record).checkPaths = .ok () ↔ record.IsSound := by
  refine Outcome.forM_eq_ok.trans (forall₂_congr fun link _ => ?_)
  unfold Cache.LinkRecord.IsSound
  split
  · rename_i text isText
    simp [isText]
  · rename_i noText
    cases link.leavesPage <;> cases link.path.isTruthy <;> simp
    exact noText

/-- What is kept of a record passes the check exactly if the record is sound. -/
theorem checkPaths_ofRecord (record : Cache.Record) :
    (ofRecord record).checkPaths = .ok () ↔ record.IsSound := by
  unfold ofRecord
  split
  · rename_i document made
    exact iff_of_true rfl (Cache.Record.isSound_of_toDocument? made)
  · exact checkPaths_cached record

end Stored

namespace Workspace

def restored (dialect : Dialect) (records : List (Text × Cache.Record)) :
    Workspace :=
  records.foldl (fun workspace entry =>
    workspace.insert entry.1 (Stored.ofRecord entry.2)) { dialect := dialect }

theorem ofRecords_of_isSound (dialect : Dialect)
    {records : List (Text × Cache.Record)}
    (sound : ∀ entry ∈ records, entry.2.IsSound) :
    ofRecords dialect records = .ok (restored dialect records) := by
  unfold ofRecords restored
  generalize ({ dialect := dialect } : Workspace) = workspace
  induction records generalizing workspace with
  | nil => rfl
  | cons entry records ih =>
      obtain ⟨here, later⟩ := List.forall_mem_cons.mp sound
      rw [List.foldlM_cons, List.foldl_cons]
      dsimp only
      rw [(Stored.checkPaths_ofRecord entry.2).mpr here]
      exact ih later _

theorem isSound_of_ofRecords {dialect : Dialect}
    {records : List (Text × Cache.Record)} {workspace : Workspace}
    (made : ofRecords dialect records = .ok workspace) :
    ∀ entry ∈ records, entry.2.IsSound := by
  unfold ofRecords at made
  generalize ({ dialect := dialect } : Workspace) = start at made
  induction records generalizing start with
  | nil => simp
  | cons entry records ih =>
      rw [List.foldlM_cons] at made
      obtain ⟨next, here, later⟩ := Outcome.bind_eq_ok.mp made
      obtain ⟨_, passes, -⟩ := Outcome.bind_eq_ok.mp here
      exact List.forall_mem_cons.mpr
        ⟨(Stored.checkPaths_ofRecord entry.2).mp passes, ih next later⟩

end Workspace

namespace Session

variable {tree : FileTree} {directory : FilePath} {dialect : Dialect} {bytes : Bytes}

/-- A file that cannot be decoded is removed, and the run begins with an empty
workspace. -/
theorem exists_firstWorkspace_of_useless
    (held : tree.read (Cache.fileIn directory) = .ok bytes) {reason : Text}
    (useless : Cache.decodeBytes dialect.name bytes = .error reason) :
    ∃ place after, tree.locate (Cache.fileIn directory) = .ok place ∧
      firstWorkspace tree dialect (some directory) =
        .ok ({ dialect := dialect }, after,
          [Cache.discardRemark (Cache.fileIn directory) reason]) ∧
      FileTree.DiffersAt place tree after ∧
      after.contains (Cache.fileIn directory) = .ok false := by
  obtain ⟨place, after, leads, deleted, differs, gone⟩ :=
    FileTree.exists_delete_of_read held
  have loaded : Cache.load tree directory dialect.name =
      .ok (.discarded after
        (Cache.discardRemark (Cache.fileIn directory) reason)) := by
    refine Outcome.bind_eq_ok.mpr ⟨true, FileTree.contains_of_read held, ?_⟩
    rw [if_pos rfl]
    refine Outcome.bind_eq_ok.mpr ⟨bytes, by rw [held]; rfl, ?_⟩
    rw [useless]
    exact Outcome.bind_eq_ok.mpr ⟨after, by rw [deleted]; rfl, rfl⟩
  refine ⟨place, after, leads, ?_, differs, gone⟩
  rw [firstWorkspace, loaded]

/-- A run that finds a cache file begins with an empty workspace and without the
file if the file cannot be decoded, and else with the documents that the file
holds, unless a link among them to another document has a path that is no text:
this is the only way in which a cache file can keep a run from beginning. -/
theorem firstWorkspace_of_cacheFile
    (held : tree.read (Cache.fileIn directory) = .ok bytes) :
    (∀ reason, Cache.decodeBytes dialect.name bytes = .error reason →
      ∃ place after, tree.locate (Cache.fileIn directory) = .ok place ∧
        firstWorkspace tree dialect (some directory) =
          .ok ({ dialect := dialect }, after,
            [Cache.discardRemark (Cache.fileIn directory) reason]) ∧
        FileTree.DiffersAt place tree after ∧
        after.contains (Cache.fileIn directory) = .ok false) ∧
    (∀ records, Cache.decodeBytes dialect.name bytes = .ok records →
      (∀ entry ∈ records, entry.2.IsSound) →
        firstWorkspace tree dialect (some directory) =
          .ok (Workspace.restored dialect records, tree, [])) ∧
    ((∃ error, firstWorkspace tree dialect (some directory) = .error error) ↔
      ∃ records, Cache.decodeBytes dialect.name bytes = .ok records ∧
        ∃ entry ∈ records, ¬ entry.2.IsSound) := by
  have usable {records : List (Text × Cache.Record)}
      (decoded : Cache.decodeBytes dialect.name bytes = .ok records)
      (sound : ∀ entry ∈ records, entry.2.IsSound) :
      firstWorkspace tree dialect (some directory) =
        .ok (Workspace.restored dialect records, tree, []) := by
    rw [firstWorkspace, Cache.load_of_read held decoded]
    dsimp only
    rw [Workspace.ofRecords_of_isSound dialect sound]
  refine ⟨fun _ => exists_firstWorkspace_of_useless held, fun _ => usable, ?_, ?_⟩
  · rintro ⟨error, fails⟩
    cases decoded : Cache.decodeBytes dialect.name bytes with
    | error reason =>
        obtain ⟨_, _, -, begins, -⟩ :=
          exists_firstWorkspace_of_useless held decoded
        rw [begins] at fails
        cases fails
    | ok records =>
        refine ⟨records, rfl, ?_⟩
        by_contra none_
        push Not at none_
        rw [usable decoded none_] at fails
        cases fails
  · rintro ⟨records, decoded, entry, member, unsound⟩
    rw [firstWorkspace, Cache.load_of_read held decoded]
    dsimp only
    cases made : Workspace.ofRecords dialect records with
    | error mismatch => exact ⟨_, rfl⟩
    | ok workspace =>
        exact absurd (Workspace.isSound_of_ofRecords made entry member) unsound

def smallCache : FilePath :=
  ⟨[], ["cache".toList]⟩

def cacheTree (bytes : Bytes) : FileTree where
  nodes := [(["cache".toList], .directory),
    (["cache".toList, "workspace_index.json".toList], .file bytes)]

/-- The record of a page that links to a page whose path is a number. -/
def numberedPage : Cache.Record where
  digest := .str []
  lines := []
  codeBlocks := []
  headings := []
  htmlAnchors := []
  anchors := []
  footnoteRefs := []
  footnoteDefs := []
  links := [⟨.str "5".toList, .null, .int 1, .int 1, .int 0, .int 6, .crossFile,
    .int 5, .str "five".toList, .str "inline".toList, .null, false⟩]
  definitions := []
  regions := []
  frontMatter := []
  frontMatterSpan := none
  frontMatterError := .null
  configuration := []

theorem firstWorkspace_of_cacheFile_numbered :
    (∃ after,
      firstWorkspace (cacheTree [0xFF]) .github (some smallCache) =
        .ok ({ dialect := .github }, after,
          [Cache.discardRemark (Cache.fileIn smallCache)
            "invalid UTF-8".toList]) ∧
      after.contains (Cache.fileIn smallCache) = .ok false) ∧
    ∃ text error,
      Cache.encodeRecords Dialect.github.name
        [("a.md".toList, numberedPage)] = .ok text ∧
      firstWorkspace (cacheTree (Utf8.encode text)) .github (some smallCache) =
        .error error := by
  have held (bytes : Bytes) :
      (cacheTree bytes).read (Cache.fileIn smallCache) = .ok bytes := rfl
  constructor
  · obtain ⟨-, after, -, begins, -, gone⟩ :=
      (@firstWorkspace_of_cacheFile _ _ .github _ (held [0xFF])).1 _ rfl
    exact ⟨after, begins, gone⟩
  · have writes : (Cache.encodeRecords Dialect.github.name
        [("a.md".toList, numberedPage)]).toOption.isSome = true := by
      decide +kernel
    obtain ⟨text, isText⟩ := Option.isSome_iff_exists.mp writes
    have encoded := Outcome.toOption_eq_some.mp isText
    obtain ⟨body, written, rfl⟩ := Cache.encodeRecords_eq_ok encoded
    -- What was written is read back as the same record.
    have decoded : Cache.decodeBytes Dialect.github.name
        (Utf8.encode ("LMWI 2".toList ++ '\n' :: body)) =
          .ok [("a.md".toList, numberedPage)] :=
      Cache.decodeBytes_of_written written (by with_unfolding_all rfl)
    have unsound : ¬ numberedPage.IsSound := by
      intro sound
      obtain ⟨path, isText⟩ := sound _ List.mem_cons_self rfl rfl
      cases isText
    obtain ⟨error, fails⟩ := (firstWorkspace_of_cacheFile (held _)).2.2.mpr
      ⟨_, decoded, _, List.mem_cons_self, unsound⟩
    exact ⟨_, error, encoded, fails⟩

end Session

end AnchorLint
