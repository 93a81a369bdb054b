import AnchorLint.Proofs.Workspace.View

/-!
# The graph of links

A workspace records where the links of each document lead, and for each path the
documents with links to it.  Inserting a document replaces its links in both
records, and removing it takes them out.  So both records always say what the
links of the stored documents say, and nothing else.
-/

namespace AnchorLint

namespace Workspace

/-- The documents that are recorded as linking to a path. -/
def linkersOf (sources : Entries Text (List Text)) (target : Text) :
    List Text :=
  (sources.lookup target).getD []

/-- No path has an empty record, and no document is recorded twice for it. -/
def Tidy (sources : Entries Text (List Text)) : Prop :=
  ∀ target keys, sources.lookup target = some keys → keys ≠ [] ∧ keys.Nodup

/-! ## One link more or less -/

theorem linkersOf_unlink (key : Text) (sources : Entries Text (List Text))
    (target other : Text) :
    linkersOf (unlink key sources target) other =
      if other = target then (linkersOf sources other).filter (· != key)
      else linkersOf sources other := by
  unfold unlink
  by_cases same : other = target
  · subst same
    rw [if_pos rfl]
    cases found : sources.lookup other with
    | none => simp [linkersOf, found]
    | some keys =>
        dsimp only
        split
        · rename_i nothing
          simp [linkersOf, found, List.isEmpty_iff.mp nothing]
        · simp [linkersOf, found]
  · rw [if_neg same]
    cases sources.lookup target with
    | none => rfl
    | some keys =>
        dsimp only
        split
        · rw [linkersOf, Entries.lookup_erase_of_ne _ same]
          rfl
        · rw [linkersOf, Entries.lookup_put_of_ne _ same]
          rfl

theorem linkersOf_link (key : Text) (sources : Entries Text (List Text))
    (target other : Text) :
    linkersOf (link key sources target) other =
      if other = target then
        if (linkersOf sources other).contains key then linkersOf sources other
        else linkersOf sources other ++ [key]
      else linkersOf sources other := by
  unfold link
  by_cases same : other = target
  · subst same
    rw [if_pos rfl, linkersOf, Entries.lookup_put_self]
    rfl
  · rw [if_neg same, linkersOf, Entries.lookup_put_of_ne _ same]
    rfl

theorem mem_linkersOf_unlink {key other target path : Text}
    {sources : Entries Text (List Text)} :
    other ∈ linkersOf (unlink key sources path) target ↔
      other ∈ linkersOf sources target ∧ ¬ (other = key ∧ target = path) := by
  rw [linkersOf_unlink]
  by_cases same : target = path
  · simp [same]
  · simp [same]

theorem mem_linkersOf_link {key other target path : Text}
    {sources : Entries Text (List Text)} :
    other ∈ linkersOf (link key sources path) target ↔
      other ∈ linkersOf sources target ∨ (other = key ∧ target = path) := by
  rw [linkersOf_link]
  by_cases same : target = path
  · by_cases known : key ∈ linkersOf sources target
    · simp only [same] at known
      simp only [same, if_true, List.contains_eq_mem, known, decide_true,
        and_true]
      exact (or_iff_left_of_imp fun equal => equal ▸ known).symm
    · simp only [same] at known
      simp [same, known]
  · simp [same]

theorem mem_linkersOf_foldl_unlink {key other target : Text}
    {gone : List Text} {sources : Entries Text (List Text)} :
    other ∈ linkersOf (gone.foldl (unlink key) sources) target ↔
      other ∈ linkersOf sources target ∧ ¬ (other = key ∧ target ∈ gone) := by
  induction gone generalizing sources with
  | nil => simp
  | cons first gone ih =>
      rw [List.foldl_cons, ih, mem_linkersOf_unlink, List.mem_cons,
        and_or_left, not_or, and_assoc]

theorem mem_linkersOf_foldl_link {key other target : Text}
    {new : List Text} {sources : Entries Text (List Text)} :
    other ∈ linkersOf (new.foldl (link key) sources) target ↔
      other ∈ linkersOf sources target ∨ (other = key ∧ target ∈ new) := by
  induction new generalizing sources with
  | nil => simp
  | cons first new ih =>
      rw [List.foldl_cons, ih, mem_linkersOf_link, List.mem_cons, and_or_left,
        or_assoc]

theorem Tidy.unlink {sources : Entries Text (List Text)} (tidy : Tidy sources)
    (key target : Text) : Tidy (unlink key sources target) := by
  intro other keys found
  unfold Workspace.unlink at found
  cases held : sources.lookup target with
  | none =>
      rw [held] at found
      exact tidy other keys found
  | some linkers =>
      rw [held] at found
      dsimp only at found
      by_cases same : other = target
      · subst same
        split at found
        · simp at found
        · rename_i some_
          rw [Entries.lookup_put_self] at found
          obtain rfl := Option.some.inj found
          exact ⟨by simpa using some_, (tidy other linkers held).2.filter _⟩
      · split at found
        · rw [Entries.lookup_erase_of_ne _ same] at found
          exact tidy other keys found
        · rw [Entries.lookup_put_of_ne _ same] at found
          exact tidy other keys found

theorem Tidy.link {sources : Entries Text (List Text)} (tidy : Tidy sources)
    (key target : Text) : Tidy (link key sources target) := by
  intro other keys found
  unfold Workspace.link at found
  by_cases same : other = target
  · subst same
    rw [Entries.lookup_put_self] at found
    obtain rfl := Option.some.inj found
    have nodup : ((sources.lookup other).getD []).Nodup := by
      cases held : sources.lookup other with
      | none => simp
      | some linkers => exact (tidy other linkers held).2
    split
    · rename_i known
      have member : key ∈ (sources.lookup other).getD [] := by simpa using known
      exact ⟨List.ne_nil_of_mem member, nodup⟩
    · rename_i missing
      refine ⟨by simp, nodup.append (List.nodup_singleton key) ?_⟩
      simpa [List.disjoint_singleton] using missing
  · rw [Entries.lookup_put_of_ne _ same] at found
    exact tidy other keys found

theorem Tidy.foldl {sources : Entries Text (List Text)} (tidy : Tidy sources)
    {change : Entries Text (List Text) → Text → Entries Text (List Text)}
    (keeps : ∀ sources target, Tidy sources → Tidy (change sources target))
    (targets : List Text) : Tidy (targets.foldl change sources) := by
  induction targets generalizing sources with
  | nil => exact tidy
  | cons target targets ih => exact ih (keeps sources target tidy)

/-! ## Both records say what the stored documents say -/

/-- The records of links are those of the stored documents. -/
structure Exact (workspace : Workspace) : Prop where
  nodup : (Entries.keys workspace.files).Nodup
  normalized : ∀ key ∈ Entries.keys workspace.files, Path.normalize key = key
  targets : ∀ key, workspace.targets.lookup key =
    (workspace.files.lookup key).map (targetsOf key)
  linkers : ∀ target key, key ∈ linkersOf workspace.sources target ↔
    ∃ stored, workspace.files.lookup key = some stored ∧
      target ∈ targetsOf key stored
  tidy : Tidy workspace.sources

theorem exact_empty (dialect : Dialect) (version : Nat) :
    Exact { dialect := dialect, version := version } where
  nodup := by simp [Entries.keys]
  normalized := by simp [Entries.keys]
  targets := by simp
  linkers := by simp [linkersOf]
  tidy := by simp [Tidy]

variable {workspace : Workspace}

/-- Forgetting the links of a document leaves those of all others. -/
theorem Exact.mem_linkersOf_dropLinks (graph : workspace.Exact)
    (key other target : Text) :
    other ∈ linkersOf (workspace.dropLinks key).sources target ↔
      other ≠ key ∧ ∃ stored, workspace.files.lookup other = some stored ∧
        target ∈ targetsOf other stored := by
  rw [dropLinks, mem_linkersOf_foldl_unlink, graph.linkers, graph.targets]
  constructor
  · rintro ⟨⟨stored, found, leads⟩, notGone⟩
    refine ⟨?_, stored, found, leads⟩
    rintro rfl
    exact notGone ⟨rfl, by simpa [found] using leads⟩
  · rintro ⟨different, stored, found, leads⟩
    exact ⟨⟨stored, found, leads⟩, fun gone => different gone.1⟩

theorem Exact.insert (graph : workspace.Exact) (path : Text)
    (stored : Stored) : (workspace.insert path stored).Exact where
  nodup := Entries.nodup_keys_put graph.nodup _ _
  normalized := by
    intro key member
    rcases Entries.mem_keys_put.mp member with rfl | old
    · exact Path.normalize_normalize path
    · exact graph.normalized key old
  targets := by
    intro key
    rw [files_insert]
    unfold Workspace.insert dropLinks
    by_cases same : key = Path.normalize path
    · rw [same, Entries.lookup_put_self, Entries.lookup_put_self]
      rfl
    · rw [Entries.lookup_put_of_ne _ same, Entries.lookup_put_of_ne _ same,
        Entries.lookup_erase_of_ne _ same]
      exact graph.targets key
  linkers := by
    intro target key
    rw [files_insert]
    unfold Workspace.insert
    dsimp only
    rw [mem_linkersOf_foldl_link, graph.mem_linkersOf_dropLinks]
    by_cases same : key = Path.normalize path
    · subst same
      simp
    · rw [Entries.lookup_put_of_ne _ same]
      simp [same]
  tidy := by
    have dropped : Tidy (workspace.dropLinks (Path.normalize path)).sources :=
      graph.tidy.foldl (fun _ target tidy => tidy.unlink _ target) _
    exact dropped.foldl (fun _ target tidy => tidy.link _ target) _

theorem Exact.remove (graph : workspace.Exact) (path : Text) :
    (workspace.remove path).Exact where
  nodup := Entries.nodup_keys_erase graph.nodup _
  normalized := by
    intro key member
    exact graph.normalized key (Entries.mem_keys_erase.mp member).2
  targets := by
    intro key
    rw [files_remove]
    unfold Workspace.remove dropLinks
    by_cases same : key = Path.normalize path
    · rw [same, Entries.lookup_erase_self, Entries.lookup_erase_self]
      rfl
    · rw [Entries.lookup_erase_of_ne _ same, Entries.lookup_erase_of_ne _ same]
      exact graph.targets key
  linkers := by
    intro target key
    rw [files_remove]
    unfold Workspace.remove
    dsimp only
    rw [graph.mem_linkersOf_dropLinks]
    by_cases same : key = Path.normalize path
    · subst same
      simp
    · rw [Entries.lookup_erase_of_ne _ same]
      simp [same]
  tidy := graph.tidy.foldl (fun _ target tidy => tidy.unlink _ target) _

/-- The dependents of a path are the documents with links to it. -/
theorem Exact.mem_dependents (graph : workspace.Exact) (path key : Text) :
    key ∈ workspace.dependents path ↔
      ∃ stored, workspace.files.lookup key = some stored ∧
        Path.normalize path ∈ targetsOf key stored := by
  rw [← graph.linkers]
  simp [dependents, Text.sort, linkersOf]

end Workspace

end AnchorLint
