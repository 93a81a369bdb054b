import AnchorLint.Proofs.Cache.File
import AnchorLint.Proofs.Workspace.View
import Mathlib.Data.Set.Basic

/-!
# Workspaces that are kept between runs

Each document of a workspace stands for the text that it was indexed from, and it
does so still after it has been kept in a cache file.  This file shows that the
documents of a workspace stand for texts through all that a run does with them:
new ones are put in, old ones are taken out, and the rest is saved and loaded by
the next run.
-/

namespace AnchorLint

namespace Stored

/-- Whether something stored answers all questions of the rules as the index of
a text does. -/
def StandsFor (dialect : Dialect) (text : Text) (stored : Stored) : Prop :=
  ∃ document original, stored = .indexed document ∧ document.IsTidy ∧
    Document.index dialect text = .ok original ∧ document.Alike original

/-- Whether something stored stands for one of the given texts. -/
def IsKept (dialect : Dialect) (texts : Set Text) (stored : Stored) : Prop :=
  ∃ text ∈ texts, stored.StandsFor dialect text

variable {dialect : Dialect} {text : Text}

theorem standsFor_of_index {document : Document}
    (indexed : Document.index dialect text = .ok document) :
    StandsFor dialect text (.indexed document) :=
  ⟨document, document, rfl, Document.isTidy_of_index indexed, indexed,
    .refl document⟩

theorem StandsFor.hasDigest {stored : Stored}
    (standsFor : stored.StandsFor dialect text) (digest : Text) :
    stored.hasDigest digest = (Digest.ofText text == digest) := by
  obtain ⟨document, original, rfl, -, indexed, alike⟩ := standsFor
  rw [Stored.hasDigest, alike.digest, (Document.isFrom_of_index indexed).digest]

theorem StandsFor.isTidy {document : Document}
    (standsFor : StandsFor dialect text (.indexed document)) :
    document.IsTidy := by
  obtain ⟨other, -, same, tidy, -⟩ := standsFor
  obtain rfl := Stored.indexed.inj same
  exact tidy

theorem StandsFor.reread {document : Document}
    (standsFor : StandsFor dialect text (.indexed document)) :
    StandsFor dialect text (.indexed document.reread) := by
  obtain ⟨other, original, same, tidy, indexed, alike⟩ := standsFor
  obtain rfl := Stored.indexed.inj same
  exact ⟨_, original, rfl, tidy.reread, indexed, tidy.alike.trans alike⟩

end Stored

namespace Workspace

/-- Whether each document of a workspace stands for one of the given texts. -/
structure IsKept (dialect : Dialect) (texts : Set Text)
    (workspace : Workspace) : Prop where
  sameDialect : workspace.dialect = dialect
  nodup : (Entries.keys workspace.files).Nodup
  each : ∀ entry ∈ workspace.files, entry.2.IsKept dialect texts

namespace IsKept

variable {dialect : Dialect} {texts : Set Text} {workspace : Workspace}

theorem empty (dialect : Dialect) (texts : Set Text) :
    IsKept dialect texts { dialect := dialect } where
  sameDialect := rfl
  nodup := List.nodup_nil
  each := by simp

theorem insert (kept : workspace.IsKept dialect texts) (path : Text)
    {stored : Stored} (keptStored : stored.IsKept dialect texts) :
    (workspace.insert path stored).IsKept dialect texts where
  sameDialect := kept.sameDialect
  nodup := Entries.nodup_keys_put kept.nodup _ _
  each := Entries.forall_mem_put kept.each keptStored _

theorem remove (kept : workspace.IsKept dialect texts) (path : Text) :
    (workspace.remove path).IsKept dialect texts where
  sameDialect := kept.sameDialect
  nodup := Entries.nodup_keys_erase kept.nodup _
  each := by
    intro entry member
    exact kept.each entry (List.mem_filter.mp member).1

theorem retain (kept : workspace.IsKept dialect texts) (paths : List Text) :
    (workspace.retain paths).IsKept dialect texts := by
  unfold Workspace.retain
  generalize workspace.outside paths = gone
  induction gone generalizing workspace with
  | nil => exact kept
  | cons key gone ih => exact ih (kept.remove key)

theorem get? (kept : workspace.IsKept dialect texts) {path : Text}
    {stored : Stored} (held : workspace.get? path = some stored) :
    stored.IsKept dialect texts :=
  kept.each _ (Entries.mem_of_lookup held)

/-! ## Saving and loading -/

theorem exists_documents (kept : workspace.IsKept dialect texts) :
    ∃ documents : Entries Text Document,
      workspace.files = documents.map (fun entry =>
        (entry.1, .indexed entry.2)) ∧
      ∀ entry ∈ documents, (Stored.indexed entry.2).IsKept dialect texts := by
  have each := kept.each
  generalize workspace.files = files at each
  induction files with
  | nil => exact ⟨[], rfl, by simp⟩
  | cons entry files ih =>
      obtain ⟨here, later⟩ := List.forall_mem_cons.mp each
      obtain ⟨documents, rfl, standFor⟩ := ih later
      obtain ⟨key, stored⟩ := entry
      obtain ⟨text, inTexts, standsFor⟩ := here
      obtain ⟨document, -, rfl, -⟩ := id standsFor
      exact ⟨(key, document) :: documents, rfl,
        List.forall_mem_cons.mpr ⟨⟨text, inTexts, standsFor⟩, standFor⟩⟩

theorem exists_ofRecords {documents : Entries Text Document}
    (each : ∀ entry ∈ documents,
      (Stored.indexed entry.2).IsKept dialect texts) :
    ∃ workspace, ofRecords dialect (documents.map fun entry =>
        (entry.1, Cache.Record.ofDocument entry.2.reread)) = .ok workspace ∧
      workspace.IsKept dialect texts := by
  have start := empty dialect texts
  unfold ofRecords
  generalize ({ dialect := dialect } : Workspace) = workspace at start
  induction documents generalizing workspace with
  | nil => exact ⟨workspace, rfl, start⟩
  | cons entry documents ih =>
      obtain ⟨⟨text, inTexts, standsFor⟩, later⟩ :=
        List.forall_mem_cons.mp each
      have stored : Stored.ofRecord (.ofDocument entry.2.reread) =
          .indexed entry.2.reread := by
        rw [Stored.ofRecord, Cache.Record.toDocument?_reread]
      rw [List.map_cons, List.foldlM_cons]
      dsimp only
      rw [stored]
      exact ih later _ (start.insert entry.1 ⟨text, inTexts, standsFor.reread⟩)

end IsKept

end Workspace

namespace Cache

/-- Whether the bytes of a cache file are those of documents that stand for some
of the given texts. -/
def Holds (dialect : Dialect) (texts : Set Text) (bytes : Bytes) : Prop :=
  ∃ records workspace, decodeBytes dialect.name bytes = .ok records ∧
    Workspace.ofRecords dialect records = .ok workspace ∧
      workspace.IsKept dialect texts

end Cache

theorem Workspace.IsKept.holds_of_save {dialect : Dialect} {texts : Set Text}
    {workspace : Workspace} {tree after : FileTree}
    {directory target : FilePath} (kept : workspace.IsKept dialect texts)
    (saved : workspace.save tree directory = (.ok target, after)) :
    ∃ bytes, after.read (Cache.fileIn directory) = .ok bytes ∧
      Cache.Holds dialect texts bytes := by
  obtain ⟨documents, filesEq, standFor⟩ := kept.exists_documents
  have records : (workspace.files.map fun entry => (entry.1, entry.2.toRecord)) =
      Cache.recordsOf documents := by
    rw [filesEq, List.map_map]
    rfl
  have nodup : documents.keys.Nodup := by
    have keys := kept.nodup
    rwa [filesEq, Entries.keys_map_value] at keys
  have tidy : ∀ entry ∈ documents, entry.2.IsTidy := by
    intro entry member
    obtain ⟨text, -, standsFor⟩ := standFor entry member
    exact standsFor.isTidy
  unfold save at saved
  rw [records, kept.sameDialect] at saved
  obtain ⟨text, encoded, written⟩ := Cache.read_of_save saved
  have perm : (Cache.inOrder documents).Perm documents :=
    List.mergeSort_perm _ _
  obtain ⟨other, made, keptOther⟩ := exists_ofRecords fun entry member =>
    standFor entry (perm.subset member)
  exact ⟨_, written, _, other, Cache.decodeBytes_encode nodup tidy encoded,
    made, keptOther⟩

end AnchorLint
