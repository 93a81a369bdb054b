import AnchorLint.Proofs.Text.Order
import AnchorLint.Proofs.Workspace.Graph

/-!
# Workspaces under changes

A workspace grows out of an empty one by insertions, updates, removals, clearing
and retaining.  Each of these changes keeps the graph of links exact, so that
after any sequence of them the dependents of a path are the stored documents
with a link to it, in order, and both records of the graph say the same.
-/

namespace AnchorLint

namespace Stored

/-- Whether the document at a key has a link to another document that leads to
a target. -/
def LinksTo (stored : Stored) (key target : Text) : Prop :=
  match stored with
  | indexed document => ∃ link ∈ document.links,
      (link.kind = .crossFile ∨ link.kind = .absolutePath) ∧
      ∃ path, link.path = some path ∧ path ≠ [] ∧
        Path.resolveTarget key link.kind link.path = target
  | cached record => ∃ link ∈ record.links,
      (link.kind = .crossFile ∨ link.kind = .absolutePath) ∧
      ∃ path, link.path = .str path ∧ path ≠ [] ∧
        Path.resolveTarget key link.kind (some path) = target

theorem mem_outgoing_indexed {document : Document} {kind : LinkKind}
    {path : Text} :
    (kind, path) ∈ (indexed document).outgoing ↔
      ∃ link ∈ document.links,
        (link.kind = .crossFile ∨ link.kind = .absolutePath) ∧
        link.kind = kind ∧ link.path = some path ∧ path ≠ [] := by
  simp only [outgoing, List.mem_filterMap, List.mem_filter, Link.leavesPage,
    Bool.or_eq_true, beq_iff_eq, Option.map_eq_some_iff,
    Option.filter_eq_some_iff, Prod.mk.injEq]
  constructor
  · rintro ⟨link, ⟨inLinks, leaves⟩, named, ⟨isPath, some_⟩, rfl, rfl⟩
    exact ⟨link, inLinks, leaves, rfl, isPath, by simpa using some_⟩
  · rintro ⟨link, inLinks, leaves, rfl, isPath, some_⟩
    exact ⟨link, ⟨inLinks, leaves⟩, path, ⟨isPath, by simpa using some_⟩,
      rfl, rfl⟩

theorem mem_outgoing_cached {record : Cache.Record} {kind : LinkKind}
    {path : Text} :
    (kind, path) ∈ (cached record).outgoing ↔
      ∃ link ∈ record.links,
        (link.kind = .crossFile ∨ link.kind = .absolutePath) ∧
        link.kind = kind ∧ link.path = .str path ∧ path ≠ [] := by
  have isText (value : Value) :
      Cache.text? value = some path ↔ value = .str path := by
    cases value <;> simp [Cache.text?]
  simp only [outgoing, List.mem_filterMap, List.mem_filter,
    Cache.LinkRecord.leavesPage, Bool.or_eq_true, beq_iff_eq,
    Option.map_eq_some_iff, Option.filter_eq_some_iff, Prod.mk.injEq]
  constructor
  · rintro ⟨link, ⟨inLinks, leaves⟩, named, ⟨isPath, some_⟩, rfl, rfl⟩
    exact ⟨link, inLinks, leaves, rfl, (isText _).mp isPath,
      by simpa using some_⟩
  · rintro ⟨link, inLinks, leaves, rfl, isPath, some_⟩
    exact ⟨link, ⟨inLinks, leaves⟩, path,
      ⟨(isText _).mpr isPath, by simpa using some_⟩, rfl, rfl⟩

theorem mem_targetsOf {stored : Stored} {key target : Text} :
    target ∈ Workspace.targetsOf key stored ↔ stored.LinksTo key target := by
  have leads : target ∈ Workspace.targetsOf key stored ↔
      ∃ kind path, (kind, path) ∈ stored.outgoing ∧
        Path.resolveTarget key kind (some path) = target := by
    simp [Workspace.targetsOf]
  rw [leads]
  cases stored with
  | indexed document =>
      simp only [mem_outgoing_indexed]
      constructor
      · rintro ⟨kind, path, ⟨link, inLinks, leaves, rfl, isPath, some_⟩, equal⟩
        exact ⟨link, inLinks, leaves, path, isPath, some_, isPath ▸ equal⟩
      · rintro ⟨link, inLinks, leaves, path, isPath, some_, equal⟩
        exact ⟨link.kind, path, ⟨link, inLinks, leaves, rfl, isPath, some_⟩,
          isPath ▸ equal⟩
  | cached record =>
      simp only [mem_outgoing_cached]
      constructor
      · rintro ⟨kind, path, ⟨link, inLinks, leaves, rfl, isPath, some_⟩, equal⟩
        exact ⟨link, inLinks, leaves, path, isPath, some_, equal⟩
      · rintro ⟨link, inLinks, leaves, path, isPath, some_, equal⟩
        exact ⟨link.kind, path, ⟨link, inLinks, leaves, rfl, isPath, some_⟩,
          equal⟩

end Stored

namespace Workspace

/-- A change of a workspace. -/
inductive Change where
  | insert (path : Text) (stored : Stored)
  | update (path text : Text)
  | remove (path : Text)
  | clear
  | retain (paths : List Text)

/-- The workspace after a change.  A text that cannot be indexed changes
nothing. -/
def Change.apply (workspace : Workspace) : Change → Workspace
  | insert path stored => workspace.insert path stored
  | update path text =>
    match workspace.update path text with
    | .ok (_, after) => after
    | .error _ => workspace
  | remove path => workspace.remove path
  | clear => workspace.clear
  | retain paths => workspace.retain paths

/-- The workspace that a sequence of changes makes of an empty one. -/
def ofChanges (dialect : Dialect) (changes : List Change) : Workspace :=
  changes.foldl Change.apply { dialect := dialect }

/-- A property of workspaces that insertions, removals and clearing keep. -/
structure IsInvariant (Holds : Workspace → Prop) : Prop where
  clear : ∀ workspace, Holds workspace → Holds workspace.clear
  insert : ∀ workspace path stored, Holds workspace →
    Holds (workspace.insert path stored)
  remove : ∀ workspace path, Holds workspace → Holds (workspace.remove path)

namespace IsInvariant

variable {Holds : Workspace → Prop} {workspace : Workspace}

theorem retain (invariant : IsInvariant Holds) (holds : Holds workspace)
    (paths : List Text) : Holds (workspace.retain paths) := by
  unfold Workspace.retain
  generalize workspace.outside paths = gone
  induction gone generalizing workspace with
  | nil => exact holds
  | cons key gone ih => exact ih (invariant.remove workspace key holds)

theorem update (invariant : IsInvariant Holds) (holds : Holds workspace)
    (path text : Text) : Holds ((Change.update path text).apply workspace) := by
  rw [Change.apply]
  cases updated : workspace.update path text with
  | error error => exact holds
  | ok result =>
      obtain ⟨isNew, after⟩ := result
      rcases update_cases updated with rfl | ⟨document, -, rfl⟩
      · exact holds
      · exact invariant.insert workspace path _ holds

theorem apply (invariant : IsInvariant Holds) (holds : Holds workspace)
    (change : Change) : Holds (change.apply workspace) := by
  cases change with
  | insert path stored => exact invariant.insert workspace path stored holds
  | update path text => exact invariant.update holds path text
  | remove path => exact invariant.remove workspace path holds
  | clear => exact invariant.clear workspace holds
  | retain paths => exact invariant.retain holds paths

/-- What every change keeps holds after any sequence of them. -/
theorem ofChanges (invariant : IsInvariant Holds) {dialect : Dialect}
    (empty : Holds { dialect := dialect }) (changes : List Change) :
    Holds (ofChanges dialect changes) := by
  have run (changes : List Change) (workspace : Workspace)
      (holds : Holds workspace) : Holds (changes.foldl Change.apply workspace) := by
    induction changes generalizing workspace with
    | nil => exact holds
    | cons change changes ih => exact ih _ (invariant.apply holds change)
  exact run changes _ empty

end IsInvariant

theorem exact_ofChanges (dialect : Dialect) (changes : List Change) :
    (ofChanges dialect changes).Exact := by
  have invariant : IsInvariant Exact :=
    { clear := fun workspace _ => exact_empty workspace.dialect _
      insert := fun _ path stored graph => graph.insert path stored
      remove := fun _ path graph => graph.remove path }
  exact invariant.ofChanges (exact_empty dialect 0) changes

theorem dialect_ofChanges (dialect : Dialect) (changes : List Change) :
    (ofChanges dialect changes).dialect = dialect := by
  have invariant : IsInvariant fun workspace => workspace.dialect = dialect :=
    { clear := fun _ same => same
      insert := fun _ _ _ same => same
      remove := fun _ _ same => same }
  exact invariant.ofChanges rfl changes

/-! ## Each path is recorded once -/

/-- Both records of the graph have one entry for each key. -/
structure HasDistinctKeys (workspace : Workspace) : Prop where
  targets : (Entries.keys workspace.targets).Nodup
  sources : (Entries.keys workspace.sources).Nodup

theorem nodup_keys_unlink {sources : Entries Text (List Text)}
    (nodup : (Entries.keys sources).Nodup) (key target : Text) :
    (Entries.keys (unlink key sources target)).Nodup := by
  unfold unlink
  split
  · exact nodup
  · dsimp only
    split
    · exact Entries.nodup_keys_erase nodup target
    · exact Entries.nodup_keys_put nodup target _

theorem nodup_keys_foldl {sources : Entries Text (List Text)}
    (nodup : (Entries.keys sources).Nodup)
    {change : Entries Text (List Text) → Text → Entries Text (List Text)}
    (keeps : ∀ sources target, (Entries.keys sources).Nodup →
      (Entries.keys (change sources target)).Nodup)
    (targets : List Text) :
    (Entries.keys (targets.foldl change sources)).Nodup := by
  induction targets generalizing sources with
  | nil => exact nodup
  | cons target targets ih => exact ih (keeps sources target nodup)

theorem HasDistinctKeys.dropLinks {workspace : Workspace}
    (distinct : workspace.HasDistinctKeys) (key : Text) :
    (workspace.dropLinks key).HasDistinctKeys where
  targets := Entries.nodup_keys_erase distinct.targets key
  sources := nodup_keys_foldl distinct.sources
    (fun _ target nodup => nodup_keys_unlink nodup key target) _

theorem HasDistinctKeys.insert {workspace : Workspace}
    (distinct : workspace.HasDistinctKeys) (path : Text) (stored : Stored) :
    (workspace.insert path stored).HasDistinctKeys := by
  have dropped := distinct.dropLinks (Path.normalize path)
  refine ⟨Entries.nodup_keys_put dropped.targets _ _, ?_⟩
  exact nodup_keys_foldl dropped.sources
    (fun _ target nodup => Entries.nodup_keys_put nodup target _) _

theorem hasDistinctKeys_ofChanges (dialect : Dialect)
    (changes : List Change) : (ofChanges dialect changes).HasDistinctKeys := by
  have invariant : IsInvariant HasDistinctKeys :=
    { clear := fun _ _ => ⟨List.nodup_nil, List.nodup_nil⟩
      insert := fun _ path stored distinct => distinct.insert path stored
      remove := fun _ path distinct =>
        ⟨(distinct.dropLinks _).targets, (distinct.dropLinks _).sources⟩ }
  exact invariant.ofChanges ⟨List.nodup_nil, List.nodup_nil⟩ changes

/-! ## The graph after any sequence of changes -/

theorem Exact.nodup_linkers {workspace : Workspace} (graph : workspace.Exact)
    (target : Text) : (linkersOf workspace.sources target).Nodup := by
  unfold linkersOf
  cases found : workspace.sources.lookup target with
  | none => exact List.nodup_nil
  | some keys => exact (graph.tidy target keys found).2

/-- Workspaces whose documents have the same links know the same dependents. -/
theorem Exact.dependents_congr {first second : Workspace} (left : first.Exact)
    (right : second.Exact)
    (same : ∀ key target,
      (∃ stored, first.files.lookup key = some stored ∧
        target ∈ targetsOf key stored) ↔
      ∃ stored, second.files.lookup key = some stored ∧
        target ∈ targetsOf key stored) (path : Text) :
    first.dependents path = second.dependents path := by
  apply Text.sort_congr (left.nodup_linkers _) (right.nodup_linkers _)
  intro key
  exact (left.linkers _ key).trans ((same key _).trans (right.linkers _ key).symm)

theorem Exact.mem_keys_targets {workspace : Workspace}
    (graph : workspace.Exact) (key : Text) :
    key ∈ Entries.keys workspace.targets ↔
      key ∈ Entries.keys workspace.files := by
  rw [← Entries.isSome_lookup_iff, graph.targets, Option.isSome_map,
    Entries.isSome_lookup_iff]

/-- Where a document is recorded as leading to a path, it is recorded as one of
those that link to the path. -/
theorem Exact.mem_targets_iff_mem_sources {workspace : Workspace}
    (graph : workspace.Exact) (distinct : workspace.HasDistinctKeys)
    (key target : Text) :
    (∃ targets, (key, targets) ∈ workspace.targets ∧ target ∈ targets) ↔
      ∃ keys, (target, keys) ∈ workspace.sources ∧ key ∈ keys := by
  have forward : (∃ targets, (key, targets) ∈ workspace.targets ∧
      target ∈ targets) ↔ ∃ stored, workspace.files.lookup key = some stored ∧
        target ∈ targetsOf key stored := by
    simp only [← Entries.lookup_eq_some_iff_mem distinct.targets,
      graph.targets, Option.map_eq_some_iff]
    constructor
    · rintro ⟨_, ⟨stored, found, rfl⟩, leads⟩
      exact ⟨stored, found, leads⟩
    · rintro ⟨stored, found, leads⟩
      exact ⟨_, ⟨stored, found, rfl⟩, leads⟩
  have reverse : (∃ keys, (target, keys) ∈ workspace.sources ∧ key ∈ keys) ↔
      key ∈ linkersOf workspace.sources target := by
    simp only [← Entries.lookup_eq_some_iff_mem distinct.sources, linkersOf]
    cases workspace.sources.lookup target with
    | none => simp
    | some keys => simp
  rw [forward, reverse, graph.linkers]

/-- The graph of links of a workspace says what its documents say: for each path
the dependents are the stored documents with a link to it, each once and in
increasing order; the two records are inverse to each other, one of them has an
entry for every stored document and the other one no empty entry. -/
theorem dependents_ofChanges (dialect : Dialect) (changes : List Change) :
    let workspace := ofChanges dialect changes
    (∀ path, (workspace.dependents path).Pairwise (· < ·) ∧
      ∀ key, key ∈ workspace.dependents path ↔
        ∃ stored, (key, stored) ∈ workspace.files ∧
          stored.LinksTo key (Path.normalize path)) ∧
    (∀ key target,
      (∃ targets, (key, targets) ∈ workspace.targets ∧ target ∈ targets) ↔
        ∃ keys, (target, keys) ∈ workspace.sources ∧ key ∈ keys) ∧
    ((Entries.keys workspace.files).Nodup ∧
      (Entries.keys workspace.targets).Nodup ∧
      (Entries.keys workspace.sources).Nodup) ∧
    (∀ key, key ∈ Entries.keys workspace.targets ↔
      key ∈ Entries.keys workspace.files) ∧
    (∀ key ∈ Entries.keys workspace.files, Path.normalize key = key) ∧
    ∀ entry ∈ workspace.sources, entry.2 ≠ [] := by
  intro workspace
  have graph : workspace.Exact := exact_ofChanges dialect changes
  have distinct : workspace.HasDistinctKeys :=
    hasDistinctKeys_ofChanges dialect changes
  refine ⟨fun path => ⟨?_, fun key => ?_⟩,
    graph.mem_targets_iff_mem_sources distinct,
    ⟨graph.nodup, distinct.targets, distinct.sources⟩,
    graph.mem_keys_targets, graph.normalized, ?_⟩
  · exact Text.pairwise_lt_sort (graph.nodup_linkers (Path.normalize path))
  · simp only [graph.mem_dependents, Stored.mem_targetsOf,
      Entries.lookup_eq_some_iff_mem graph.nodup]
  · rintro ⟨target, keys⟩ member
    have found := Entries.lookup_of_mem distinct.sources member
    exact (graph.tidy target keys found).1

end Workspace

end AnchorLint
