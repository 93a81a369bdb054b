import AnchorLint.Cache.File
import AnchorLint.Proofs.Document.Reread
import AnchorLint.Proofs.FileTree.Write
import AnchorLint.Proofs.Text.Utf8
import AnchorLint.Proofs.Workspace.View

/-!
# Workspaces read back

What has been saved is loaded: the cache file has the right header, its text has
no line breaks that a file would not keep, and every document comes back as it
reads back.
-/

namespace AnchorLint

theorem Storage.unifyBreaks_of_unbroken {text : Text}
    (unbroken : '\r' ∉ text) : unifyBreaks text = text := by
  induction text with
  | nil => rfl
  | cons character text ih =>
      obtain ⟨here, later⟩ := not_or.mp (mt List.mem_cons.mpr unbroken)
      rw [unifyBreaks.eq_3, ih later]
      · rintro rest rfl
        exact absurd rfl here
      · rintro rfl
        exact absurd rfl here

namespace Cache

open Value (named)

/-! ## The text of a cache file -/

def recordsOf (documents : Entries Text Document) : List (Text × Record) :=
  documents.map fun entry => (entry.1, .ofDocument entry.2)

/-- The documents in the order in which a cache file holds them. -/
def inOrder (documents : Entries Text Document) : Entries Text Document :=
  documents.mergeSort fun first second => Text.le first.1 second.1

theorem payload_eq (dialect : Text) (documents : Entries Text Document) :
    payload dialect (recordsOf documents) =
      .map (named [("dialect".toList, .str dialect),
        ("files".toList, .map (named ((recordsOf (inOrder documents)).map
          fun entry => (entry.1, entry.2.toValue))))]) := by
  have sorted : (recordsOf documents).mergeSort (fun first second =>
      Text.le first.1 second.1) = recordsOf (inOrder documents) := by
    refine Eq.symm (List.map_mergeSort ?_)
    exact fun _ _ _ _ => rfl
  unfold payload
  dsimp only
  rw [sorted]
  simp only [named, fieldName, List.map_cons, List.map_nil, List.map_map]
  rfl

theorem readPayload?_reread (dialect : Text) {documents : Entries Text Document}
    (nodup : documents.keys.Nodup)
    (tidy : ∀ entry ∈ documents, entry.2.IsTidy) :
    readPayload? (payload dialect (recordsOf documents)).reread =
      some (.str dialect, (inOrder documents).map fun entry =>
        (entry.1, Record.ofDocument entry.2.reread)) := by
  have perm : (inOrder documents).Perm documents := List.mergeSort_perm _ _
  have distinct : (Entries.keys ((recordsOf (inOrder documents)).map
      fun entry => (entry.1, entry.2.toValue))).Nodup := by
    rw [Entries.keys_map_value, recordsOf, Entries.keys_map_value]
    exact (perm.map Prod.fst).nodup_iff.mpr nodup
  have each : ∀ entry ∈ inOrder documents,
      Record.ofValue? (Record.ofDocument entry.2).toValue.reread =
        some (.ofDocument entry.2.reread) := fun entry member =>
    Record.ofValue?_reread (tidy entry (perm.subset member)).definitions
      (tidy entry (perm.subset member)).configuration.nodup
  have records : (((recordsOf (inOrder documents)).map fun entry =>
        (entry.1, entry.2.toValue)).map fun entry =>
          (entry.1, entry.2.reread)).mapM (fun entry => do
        return (entry.1, ← Record.ofValue? entry.2)) =
      some ((inOrder documents).map fun entry =>
        (entry.1, Record.ofDocument entry.2.reread)) := by
    rw [recordsOf, List.map_map, List.map_map, List.mapM_map]
    exact mapM_eq_some fun entry member => bind_of_eq (each entry member) rfl
  have fields : ["dialect".toList, "files".toList].Nodup := by decide
  have whole (files : Value) := @Value.reread_named
    [("dialect".toList, .str dialect), ("files".toList, files)] fields
  rw [payload_eq, whole]
  refine bind_of_eq (Value.field?_named _ "dialect") ?_
  refine bind_of_eq (Value.field?_named _ "files") ?_
  exact bind_of_eq (textEntries?_reread distinct) (bind_of_eq records rfl)

theorem encodeRecords_eq_ok {dialect text : Text}
    {records : List (Text × Record)}
    (encoded : encodeRecords dialect records = .ok text) :
    ∃ body, Json.compact.write (payload dialect records) = .ok body ∧
      text = "LMWI 2".toList ++ '\n' :: body := by
  obtain ⟨body, written, equal⟩ := Outcome.bind_eq_ok.mp encoded
  exact ⟨body, written, (Except.ok.inj equal).symm⟩

/-- A written value behind the right header is decoded as what it holds once it
is read back. -/
theorem decode_of_written {dialect body : Text} {content : Value}
    {records : List (Text × Record)}
    (written : Json.compact.write content = .ok body)
    (holds : readPayload? content.reread = some (.str dialect, records)) :
    decode dialect ("LMWI 2".toList ++ '\n' :: body) = .ok records := by
  have header : Text.splitFirst (· == '\n')
      ("LMWI 2".toList ++ '\n' :: body) = ("LMWI 2".toList, some body) := rfl
  have words : Text.words "LMWI 2".toList = [magic, formatVersion] := by decide
  unfold decode
  rw [header]
  dsimp only
  rw [words]
  dsimp only
  rw [if_neg (by simp), if_neg (by simp), Option.getD_some,
    Json.read_write written]
  dsimp only
  rw [holds]
  dsimp only
  rw [if_pos rfl]

theorem decodeBytes_of_written {dialect body : Text} {content : Value}
    {records : List (Text × Record)}
    (written : Json.compact.write content = .ok body)
    (holds : readPayload? content.reread = some (.str dialect, records)) :
    decodeBytes dialect (Utf8.encode ("LMWI 2".toList ++ '\n' :: body)) =
      .ok records := by
  have unbroken : '\r' ∉ "LMWI 2".toList ++ '\n' :: body := by
    simp [Json.unbroken_write written]
  rw [decodeBytes, Utf8.decode?_encode]
  dsimp only
  rw [Storage.unifyBreaks_of_unbroken unbroken, decode_of_written written holds]

theorem decode_encodeRecords {dialect text : Text}
    {documents : Entries Text Document} (nodup : documents.keys.Nodup)
    (tidy : ∀ entry ∈ documents, entry.2.IsTidy)
    (encoded : encodeRecords dialect (recordsOf documents) = .ok text) :
    decode dialect text = .ok ((inOrder documents).map fun entry =>
      (entry.1, Record.ofDocument entry.2.reread)) := by
  obtain ⟨body, written, rfl⟩ := encodeRecords_eq_ok encoded
  exact decode_of_written written (readPayload?_reread dialect nodup tidy)

theorem decodeBytes_encode {dialect text : Text}
    {documents : Entries Text Document} (nodup : documents.keys.Nodup)
    (tidy : ∀ entry ∈ documents, entry.2.IsTidy)
    (encoded : encodeRecords dialect (recordsOf documents) = .ok text) :
    decodeBytes dialect (Utf8.encode text) =
      .ok ((inOrder documents).map fun entry =>
        (entry.1, Record.ofDocument entry.2.reread)) := by
  obtain ⟨body, written, rfl⟩ := encodeRecords_eq_ok encoded
  exact decodeBytes_of_written written
    (readPayload?_reread dialect nodup tidy)

/-! ## The cache file in a directory -/

theorem load_of_read {tree : FileTree} {directory : FilePath} {dialect : Text}
    {bytes : Bytes} {records : List (Text × Record)}
    (held : tree.read (fileIn directory) = .ok bytes)
    (decoded : decodeBytes dialect bytes = .ok records) :
    load tree directory dialect = .ok (.records records) := by
  refine Outcome.bind_eq_ok.mpr ⟨true, FileTree.contains_of_read held, ?_⟩
  rw [if_pos rfl]
  refine Outcome.bind_eq_ok.mpr ⟨bytes, by rw [held]; rfl, ?_⟩
  rw [decoded]
  rfl

/-- A file whose bytes cannot be decoded is removed, if anything is done. -/
theorem discarded_of_read {tree : FileTree} {directory : FilePath}
    {dialect reason : Text} {bytes : Bytes} {loaded : Loaded}
    (held : tree.read (fileIn directory) = .ok bytes)
    (useless : decodeBytes dialect bytes = .error reason)
    (outcome : load tree directory dialect = .ok loaded) :
    ∃ after remark, loaded = .discarded after remark := by
  obtain ⟨contains, found, more⟩ := Outcome.bind_eq_ok.mp outcome
  rw [FileTree.contains_of_read held] at found
  obtain rfl := Except.ok.inj found
  rw [if_pos rfl, held] at more
  obtain ⟨read, same, rest⟩ := Outcome.bind_eq_ok.mp more
  obtain rfl := Except.ok.inj same
  rw [useless] at rest
  obtain ⟨after, -, equal⟩ := Outcome.bind_eq_ok.mp rest
  exact ⟨after, _, (Except.ok.inj equal).symm⟩

theorem load_of_missing {tree : FileTree} {directory : FilePath}
    (missing : tree.contains (fileIn directory) = .ok false) (dialect : Text) :
    load tree directory dialect = .ok .nothing := by
  simp only [load, missing]
  rfl

theorem read_of_save {tree after : FileTree} {directory target : FilePath}
    {dialect : Text} {records : List (Text × Record)}
    (saved : save tree directory dialect records = (.ok target, after)) :
    ∃ text, encodeRecords dialect records = .ok text ∧
      after.read (fileIn directory) = .ok (Utf8.encode text) := by
  unfold save at saved
  rcases made : tree.makeDirectories directory with ⟨outcome, ready⟩
  rw [made] at saved
  cases outcome with
  | error fault => simp at saved
  | ok =>
      dsimp only at saved
      unfold replaceFile at saved
      dsimp only at saved
      split at saved
      · simp at saved
      · split at saved
        · simp at saved
        · rename_i text encoded
          split at saved
          · simp at saved
          · rename_i written wrote
            split at saved
            · simp at saved
            · rename_i renamed moved
              obtain ⟨-, rfl⟩ := Prod.mk.inj saved
              exact ⟨text, encoded, FileTree.read_of_rename
                (FileTree.read_of_write wrote) moved⟩

end Cache

end AnchorLint
