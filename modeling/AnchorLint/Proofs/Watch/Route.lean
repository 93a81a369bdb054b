import AnchorLint.Proofs.FileTree.Write
import AnchorLint.Proofs.Link.Path
import AnchorLint.Storage

/-!
# Files below a root

A file below the root of a storage is named by the way to it.  Different ways have
different paths, lead to different places and have different keys, and the keys
are normalized, so each file has an entry of its own in a workspace.
-/

namespace AnchorLint

namespace Text

theorem mem_join {separator : Text} {pieces : List Text} {character : Char}
    (member : character ∈ Text.join separator pieces) :
    character ∈ separator ∨ ∃ piece ∈ pieces, character ∈ piece := by
  induction pieces with
  | nil => simp [Text.join] at member
  | cons piece pieces ih =>
      cases pieces with
      | nil =>
          right
          exact ⟨piece, by simp, by simpa [Text.join] using member⟩
      | cons second rest =>
          rw [Text.join, List.intercalate_cons_cons] at member
          rcases List.mem_append.mp member with early | later
          · rcases List.mem_append.mp early with here | between
            · exact Or.inr ⟨piece, by simp, here⟩
            · exact Or.inl between
          · rcases ih later with between | ⟨found, inRest, here⟩
            · exact Or.inl between
            · exact Or.inr ⟨found, List.mem_cons_of_mem _ inRest, here⟩

theorem mem_join_of_mem {separator : Text} {pieces : List Text} {piece : Text}
    {character : Char} (inPieces : piece ∈ pieces) (inPiece : character ∈ piece) :
    character ∈ Text.join separator pieces := by
  induction pieces with
  | nil => cases inPieces
  | cons first pieces ih =>
      cases pieces with
      | nil =>
          obtain rfl := List.mem_singleton.mp inPieces
          simpa [Text.join] using inPiece
      | cons second rest =>
          rw [Text.join, List.intercalate_cons_cons]
          rcases List.mem_cons.mp inPieces with rfl | later
          · exact List.mem_append_left _ (List.mem_append_left _ inPiece)
          · exact List.mem_append_right _ (ih later)

end Text

namespace FileTree

theorem isPossible_iff {path : FilePath} :
    isPossible path = true ↔ Char.ofNat 0 ∉ path.root ∧
      ∀ part ∈ path.parts, Char.ofNat 0 ∉ part := by
  unfold isPossible
  rw [Bool.not_eq_true', ← Bool.not_eq_true, List.contains_iff_mem,
    FilePath.write]
  split
  · rename_i empty
    obtain ⟨noRoot, noParts⟩ := empty
    rw [List.isEmpty_iff.mp noRoot, List.isEmpty_iff.mp noParts]
    decide +revert
  · rw [List.mem_append, not_or]
    refine and_congr_right fun _ => ⟨fun outside part member inside => ?_, ?_⟩
    · exact outside (Text.mem_join_of_mem member inside)
    · intro outside inside
      rcases Text.mem_join inside with separator | ⟨part, member, here⟩
      · exact absurd separator (by decide)
      · exact outside part member here

end FileTree

/-- The names on the way from a directory to a file below it. -/
@[ext]
structure Route where
  names : List Text
  proper : names ≠ []
  clean : Path.IsClean names
  possible : ∀ name ∈ names, Char.ofNat 0 ∉ name

namespace Route

def path (route : Route) (root : FilePath) : FilePath :=
  root.append ⟨[], route.names⟩

/-- The key of the file, which consists of the names on the way to it. -/
def key (route : Route) : Text :=
  Text.join ['/'] route.names

variable {root : FilePath} {route other : Route}

theorem path_eq (route : Route) (root : FilePath) :
    route.path root = ⟨root.root, root.parts ++ route.names⟩ := rfl

theorem path_injective (same : route.path root = other.path root) :
    route = other := by
  rw [path_eq, path_eq, FilePath.mk.injEq] at same
  exact Route.ext (List.append_cancel_left same.2)

/-! ## Keys -/

theorem isPossible_path (possible : FileTree.isPossible root = true)
    (route : Route) : FileTree.isPossible (route.path root) = true := by
  obtain ⟨inRoot, inParts⟩ := FileTree.isPossible_iff.mp possible
  refine FileTree.isPossible_iff.mpr ⟨inRoot, fun part member => ?_⟩
  rcases List.mem_append.mp member with old | new
  · exact inParts part old
  · exact route.possible part new

theorem not_climb (route : Route) : FileTree.climb ∉ route.names :=
  fun member => (route.clean _ member).2.2.1 rfl

theorem resolve_path (tree : FileTree) (route : Route) (root : FilePath) :
    tree.resolve (route.path root) = tree.resolve root ++ route.names := by
  have extend (names place : List Text) (level : FileTree.climb ∉ names) :
      names.foldl (fun place part =>
        if part = FileTree.climb then place.dropLast else place ++ [part])
        place = place ++ names := by
    induction names generalizing place with
    | nil => simp
    | cons name names ih =>
        obtain ⟨different, levelLater⟩ := not_or.mp (mt List.mem_cons.mpr level)
        rw [List.foldl_cons, if_neg (Ne.symm different), ih _ levelLater,
          List.append_assoc, List.singleton_append]
  rw [path_eq, FileTree.resolve, List.foldl_append,
    extend _ _ route.not_climb]
  rfl

theorem key_path {storage : Storage}
    (possible : FileTree.isPossible storage.root = true) (tree : FileTree)
    (route : Route) :
    storage.key tree (route.path storage.root) = route.key := by
  have below : (tree.resolve storage.root).isPrefixOf?
      (tree.resolve storage.root ++ route.names) = some route.names :=
    List.isPrefixOf?_eq_some_iff_append_eq.mpr rfl
  unfold Storage.key
  dsimp only
  rw [isPossible_path possible, possible, Bool.and_true, if_pos rfl,
    resolve_path, below]
  dsimp only
  unfold FilePath.write
  rw [if_neg fun empty => route.proper (List.isEmpty_iff.mp empty.2)]
  rfl

theorem normalize_key (route : Route) : Path.normalize route.key = route.key :=
  Path.normalize_join route.clean

theorem key_injective (same : route.key = other.key) : route = other := by
  refine Route.ext ?_
  rw [← Path.segments_join route.clean route.proper,
    ← Path.segments_join other.clean other.proper]
  exact congrArg Path.segments same

/-! ## Places -/

variable {tree : FileTree} {place : List Text}

/-- The way from the root is followed behind the way to the root. -/
theorem follow_of_locate (leads : tree.locate (route.path root) = .ok place) :
    ∃ base, tree.follow (tree.start root) root.parts = .ok base ∧
      tree.follow base route.names = .ok place := by
  unfold FileTree.locate at leads
  repeat' split at leads
  · cases leads
  · cases leads
  · exact FileTree.follow_append_eq_ok.mp leads

theorem eq_of_locate (one : tree.locate (route.path root) = .ok place)
    (two : tree.locate (other.path root) = .ok place) : route = other := by
  obtain ⟨base, toRoot, below⟩ := follow_of_locate one
  obtain ⟨otherBase, toOther, otherBelow⟩ := follow_of_locate two
  obtain rfl := Except.ok.inj (toRoot.symm.trans toOther)
  have placeEq := FileTree.follow_eq_append route.not_climb below
  have otherEq := FileTree.follow_eq_append other.not_climb otherBelow
  exact Route.ext (List.append_cancel_left (placeEq.symm.trans otherEq))

theorem directory_of_locate
    (leads : tree.locate (route.path root) = .ok place) :
    tree.nodeAt? place.dropLast = some .directory := by
  obtain ⟨base, -, below⟩ := follow_of_locate leads
  have split : route.names.dropLast ++ [route.names.getLast route.proper] =
      route.names := List.dropLast_append_getLast route.proper
  rw [← split] at below
  refine FileTree.directory_of_follow ?_ below
  intro isClimb
  exact route.not_climb (isClimb ▸ List.getLast_mem route.proper)

/-- A change at the place of one file does not change what is read elsewhere.  A
new directory opens new ways, but there is nothing at their ends. -/
theorem read_of_differsAt {after : FileTree} (rooted : tree.IsRooted)
    (leads : tree.locate (route.path root) = .ok place)
    (differs : FileTree.DiffersAt place tree after) (different : other ≠ route)
    {content : Bytes} :
    after.read (other.path root) = .ok content ↔
      tree.read (other.path root) = .ok content := by
  constructor
  · intro held
    obtain ⟨goal, leadsAfter, found⟩ := FileTree.exists_of_read held
    have elsewhere : goal ≠ place := by
      rintro rfl
      exact different (eq_of_locate leadsAfter (differs.locate leads))
    rw [differs.elsewhere goal elsewhere] at found
    refine FileTree.read_of_locate ?_ found
    obtain ⟨base, toRoot, -⟩ := follow_of_locate leads
    obtain ⟨baseAfter, toRootAfter, below⟩ := follow_of_locate leadsAfter
    rw [differs.start, differs.follow toRoot] at toRootAfter
    obtain rfl := Except.ok.inj toRootAfter
    have followed : tree.follow base other.names = .ok goal :=
      rooted.follow other.not_climb below (by rw [found]; simp)
    unfold FileTree.locate at leadsAfter ⊢
    repeat' split at leadsAfter
    · cases leadsAfter
    · cases leadsAfter
    · rename_i possible short
      rw [if_neg possible, if_neg short]
      exact FileTree.follow_append_eq_ok.mpr ⟨base, toRoot, followed⟩
  · intro held
    obtain ⟨goal, leadsThere, found⟩ := FileTree.exists_of_read held
    have elsewhere : goal ≠ place := by
      rintro rfl
      exact different (eq_of_locate leadsThere leads)
    refine FileTree.read_of_locate (differs.locate leadsThere) ?_
    rw [differs.elsewhere goal elsewhere]
    exact found

end Route

end AnchorLint
