import AnchorLint.Proofs.Cache.File
import AnchorLint.Proofs.Data.Json.Plain
import AnchorLint.Proofs.Document.Assembly
import AnchorLint.Proofs.Workspace.Change
import Mathlib

/-!
# Documents with plain data are kept whole

A document whose front matter and configuration are plain comes back from a cache
file as it was, but for its text.  So it gives the same answers, and a workspace
of such documents that is saved and loaded again holds the same documents at the
same paths and knows the same dependents.
-/

namespace AnchorLint

namespace Document

/-- A document of which the text is not known. -/
def withoutText (document : Document) : Document :=
  { document with text := [] }

/-- Whether the front matter and the configuration are plain data. -/
structure IsPlain (document : Document) : Prop where
  frontMatter : (Value.map document.frontMatter).IsPlain
  configuration : ∀ entry ∈ document.configuration, entry.2.IsPlain

theorem IsPlain.reread_eq {dialect : Dialect} {text : Text}
    {document : Document} (plain : document.IsPlain)
    (indexed : index dialect text = .ok document) :
    document.reread = document.withoutText := by
  have frontMatter : Value.rereadEntries [] document.frontMatter =
      document.frontMatter := by
    have whole := plain.frontMatter.reread_eq
    rw [Value.reread] at whole
    exact Value.map.inj whole
  have configuration : document.configuration.map (fun entry =>
      (entry.1, entry.2.reread)) = document.configuration := by
    conv_rhs => rw [← List.map_id document.configuration]
    apply List.map_congr_left
    intro entry member
    exact Prod.ext rfl (plain.configuration entry member).reread_eq
  have error := ofText_text_of_index indexed
  unfold reread withoutText
  rw [frontMatter, configuration, error]

/-- Whether two documents give the same answers to all questions about
anchors, headings, lines, links and findings. -/
structure AnswersAs (first second : Document) : Prop where
  hasAnchor : ∀ fragment, first.hasAnchor fragment = second.hasAnchor fragment
  headingByAnchor : ∀ fragment,
    first.headingByAnchor? fragment = second.headingByAnchor? fragment
  isDisabledAt : ∀ rule line,
    first.isDisabledAt rule line = second.isDisabledAt rule line
  lineAt : ∀ offset, first.lineAt offset = second.lineAt offset
  crossFileLinks : first.crossFileLinks = second.crossFileLinks
  lint : ∀ rules, first.lint rules = second.lint rules

theorem answersAs_withoutText (document : Document) :
    document.withoutText.AnswersAs document where
  hasAnchor _ := rfl
  headingByAnchor _ := rfl
  isDisabledAt _ _ := rfl
  lineAt _ := rfl
  crossFileLinks := rfl
  lint _ := rfl

end Document

namespace Cache

open Value (IsPlain named)

/-! ## Records are plain -/

@[simp]
theorem isPlain_ofNat (number : Nat) : (ofNat number).IsPlain :=
  .int number

@[simp]
theorem isPlain_ofNat? (number : Option Nat) : (ofNat? number).IsPlain := by
  cases number with
  | none => exact .null
  | some number => exact .int number

@[simp]
theorem isPlain_ofText? (text : Option Text) : (ofText? text).IsPlain := by
  cases text with
  | none => exact .null
  | some text => exact .str text

@[simp]
theorem isPlain_flag (truth : Bool) : (flag truth).IsPlain :=
  .int _

theorem LineRecord.isPlain (line : Line) : (ofLine line).toValue.IsPlain := by
  simp [toValue, ofLine]

theorem CodeBlockRecord.isPlain (block : CodeBlock) :
    (ofBlock block).toValue.IsPlain := by
  simp [toValue, ofBlock]

theorem HeadingRecord.isPlain (heading : Heading) :
    (ofHeading heading).toValue.IsPlain := by
  simp [toValue, ofHeading]

theorem HtmlAnchorRecord.isPlain (anchor : HtmlAnchor) :
    (ofAnchor anchor).toValue.IsPlain := by
  simp [toValue, ofAnchor]

theorem AnchorRecord.isPlain (anchor : Anchor) :
    (ofAnchor anchor).toValue.IsPlain := by
  simp [toValue, ofAnchor]

theorem FootnoteRecord.isPlain (footnote : Footnote) :
    (ofFootnote footnote).toValue.IsPlain := by
  simp [toValue, ofFootnote]

theorem LinkRecord.isPlain (link : Link) : (ofLink link).toValue.IsPlain := by
  simp [toValue, ofLink]

theorem DefinitionRecord.isPlain (definition : ReferenceDefinition) :
    (ofDefinition definition).toValue.IsPlain := by
  simp [toValue, ofDefinition]

theorem RegionRecord.isPlain (region : Region) :
    (ofRegion region).toValue.IsPlain := by
  simp [toValue, ofRegion]

theorem Record.isPlain {document : Document} (tidy : document.IsTidy)
    (plain : document.IsPlain) : (ofDocument document).toValue.IsPlain := by
  have list {α β : Type} (items : List α) {record : α → β} {write : β → Value}
      (each : ∀ item, (write (record item)).IsPlain) :
      (Value.list ((items.map record).map write)).IsPlain := by
    simpa using fun item _ => each item
  have definitions : (Value.map (named (((ofDocument document).definitions.map
      fun entry => (entry.1, entry.2.toValue))))).IsPlain := by
    refine .map ?_ ?_
    · simpa only [ofDocument, Entries.keys_map_value] using tidy.definitions
    · intro entry member
      obtain ⟨record, inRecords, rfl⟩ := List.mem_map.mp member
      obtain ⟨definition, -, rfl⟩ := List.mem_map.mp inRecords
      exact DefinitionRecord.isPlain definition.2
  have configuration : (Value.map (named document.configuration)).IsPlain :=
    .map tidy.configuration.nodup plain.configuration
  rw [toValue_eq]
  refine .map (nodup_fields _) ?_
  simp only [fields, List.forall_mem_cons, List.not_mem_nil, false_imp_iff,
    implies_true, and_true]
  refine ⟨.str _, list _ LineRecord.isPlain, list _ CodeBlockRecord.isPlain,
    list _ HeadingRecord.isPlain, list _ HtmlAnchorRecord.isPlain,
    list _ AnchorRecord.isPlain, list _ FootnoteRecord.isPlain,
    list _ FootnoteRecord.isPlain, list _ LinkRecord.isPlain, definitions,
    list _ RegionRecord.isPlain, plain.frontMatter, ?_, isPlain_ofText? _,
    configuration⟩
  rw [ofDocument]
  cases document.frontMatterSpan with
  | none => exact .null
  | some span => simp

/-- Whether documents at distinct paths have been indexed and hold plain
data. -/
structure ArePlain (files : Entries Text Document) : Prop where
  nodup : files.keys.Nodup
  indexed : ∀ entry ∈ files, ∃ dialect text,
    Document.index dialect text = .ok entry.2
  plain : ∀ entry ∈ files, entry.2.IsPlain

variable {files : Entries Text Document}

theorem ArePlain.tidy (arePlain : ArePlain files) :
    ∀ entry ∈ files, entry.2.IsTidy := by
  intro entry member
  obtain ⟨_, _, made⟩ := arePlain.indexed entry member
  exact Document.isTidy_of_index made

theorem ArePlain.reread_eq (arePlain : ArePlain files) :
    ∀ entry ∈ files, entry.2.reread = entry.2.withoutText := by
  intro entry member
  obtain ⟨_, _, made⟩ := arePlain.indexed entry member
  exact (arePlain.plain entry member).reread_eq made

theorem ArePlain.payload (arePlain : ArePlain files) (dialect : Text) :
    (payload dialect (recordsOf files)).IsPlain := by
  have perm : (inOrder files).Perm files := List.mergeSort_perm _ _
  have records : (Value.map (named ((recordsOf (inOrder files)).map
      fun entry => (entry.1, entry.2.toValue)))).IsPlain := by
    refine .map ?_ ?_
    · rw [Entries.keys_map_value, recordsOf, Entries.keys_map_value]
      exact (perm.map Prod.fst).nodup_iff.mpr arePlain.nodup
    · intro entry member
      obtain ⟨record, inRecords, rfl⟩ := List.mem_map.mp member
      obtain ⟨file, inFiles, rfl⟩ := List.mem_map.mp inRecords
      have held := perm.subset inFiles
      exact Record.isPlain (arePlain.tidy file held)
        (arePlain.plain file held)
  rw [payload_eq]
  refine .map (by simp [Entries.keys]) ?_
  simp only [List.forall_mem_cons, List.not_mem_nil, false_imp_iff,
    implies_true, and_true]
  exact ⟨.str dialect, records⟩

/-! ## Encoding and decoding -/

def withoutTexts (files : Entries Text Document) : Entries Text Document :=
  files.map fun entry => (entry.1, entry.2.withoutText)

def holding (files : Entries Text Document) : Entries Text Stored :=
  files.map fun entry => (entry.1, .indexed entry.2)

/-- Plain documents can be encoded exactly if no number in their records has too
many digits. -/
theorem ArePlain.writes_encode (arePlain : ArePlain files) (dialect : Text) :
    Json.Writes (Cache.payload dialect (recordsOf files)).integers
      (encode dialect files) :=
  (Json.writes_plain (arePlain.payload dialect) style 0).map _

theorem ArePlain.map_reread (arePlain : ArePlain files) :
    ((inOrder files).map fun entry =>
      (entry.1, Record.ofDocument entry.2.reread)) =
        recordsOf (withoutTexts (inOrder files)) := by
  rw [recordsOf, withoutTexts, List.map_map]
  apply List.map_congr_left
  intro entry member
  have held : entry ∈ files := (List.mergeSort_perm _ _).subset member
  rw [arePlain.reread_eq entry held]
  rfl

theorem ArePlain.ofRecord_eq (arePlain : ArePlain files) :
    ∀ entry ∈ withoutTexts (inOrder files),
      Stored.ofRecord (.ofDocument entry.2) = .indexed entry.2 := by
  intro entry member
  obtain ⟨file, inFiles, rfl⟩ := List.mem_map.mp member
  have held : file ∈ files := (List.mergeSort_perm _ _).subset inFiles
  have read := Record.toDocument?_reread file.2
  rw [arePlain.reread_eq file held] at read
  rw [Stored.ofRecord, read]

theorem holding_perm :
    (holding (withoutTexts (inOrder files))).Perm
      (holding (withoutTexts files)) :=
  ((List.mergeSort_perm _ _).map _).map _

/-- Decoding undoes encoding but for the texts of the documents. -/
theorem ArePlain.decode_encode (arePlain : ArePlain files) {dialect text : Text}
    (encoded : encode dialect files = .ok text) :
    ∃ records, decode dialect text = .ok records ∧
      (records.map fun entry => (entry.1, Stored.ofRecord entry.2)).Perm
        (holding (withoutTexts files)) := by
  refine ⟨recordsOf (withoutTexts (inOrder files)), ?_, ?_⟩
  · rw [decode_encodeRecords arePlain.nodup arePlain.tidy encoded,
      arePlain.map_reread]
  · have stored : ((recordsOf (withoutTexts (inOrder files))).map fun entry =>
        (entry.1, Stored.ofRecord entry.2)) =
          holding (withoutTexts (inOrder files)) := by
      rw [recordsOf, List.map_map]
      apply List.map_congr_left
      intro entry member
      exact Prod.ext rfl (arePlain.ofRecord_eq entry member)
    rw [stored]
    exact holding_perm

end Cache

namespace Workspace

open Cache (ArePlain holding withoutTexts)

/-! ## Workspaces that are loaded again -/

theorem files_ofChanges_insert (dialect : Dialect)
    {entries : Entries Text Stored} (nodup : entries.keys.Nodup)
    (normalized : ∀ key ∈ entries.keys, Path.normalize key = key) :
    (ofChanges dialect (entries.map fun entry =>
      .insert entry.1 entry.2)).files = entries := by
  have run (workspace : Workspace) :
      ((entries.map fun entry => Change.insert entry.1 entry.2).foldl
        Change.apply workspace).files =
      entries.foldl (fun known entry => known.put entry.1 entry.2)
        workspace.files := by
    clear nodup
    induction entries generalizing workspace with
    | nil => rfl
    | cons entry entries ih =>
        obtain ⟨here, later⟩ := List.forall_mem_cons.mp normalized
        rw [List.map_cons, List.foldl_cons, List.foldl_cons, ih later,
          Change.apply, files_insert, here]
  rw [ofChanges, run,
    Entries.foldl_put_eq_append (by simpa [Entries.keys] using nodup)]
  rfl

theorem ofRecords_eq (dialect : Dialect) {files : Entries Text Document}
    (each : ∀ entry ∈ files,
      Stored.ofRecord (.ofDocument entry.2) = .indexed entry.2) :
    ofRecords dialect (Cache.recordsOf files) =
      .ok (ofChanges dialect ((holding files).map fun entry =>
        .insert entry.1 entry.2)) := by
  unfold ofRecords ofChanges
  generalize ({ dialect := dialect } : Workspace) = workspace
  induction files generalizing workspace with
  | nil => rfl
  | cons entry files ih =>
      obtain ⟨here, later⟩ := List.forall_mem_cons.mp each
      rw [Cache.recordsOf, List.map_cons, List.foldlM_cons]
      dsimp only
      rw [here]
      exact ih later _

theorem exists_holding_withoutTexts {files : Entries Text Document}
    {key target : Text} :
    (∃ stored, (holding (withoutTexts files)).lookup key = some stored ∧
      target ∈ targetsOf key stored) ↔
    ∃ stored, (holding files).lookup key = some stored ∧
      target ∈ targetsOf key stored := by
  have kept : (holding (withoutTexts files)).lookup key =
      (files.lookup key).map fun document => .indexed document.withoutText := by
    rw [holding, withoutTexts, List.map_map]
    exact Entries.lookup_map_value files
      (fun _ document => Stored.indexed document.withoutText) key
  have whole : (holding files).lookup key =
      (files.lookup key).map Stored.indexed :=
    Entries.lookup_map_value files (fun _ => Stored.indexed) key
  rw [kept, whole]
  cases files.lookup key with
  | none => simp
  | some document =>
      simp only [Option.map_some, Option.some.injEq, exists_eq_left']
      rfl

theorem load_of_save {files : Entries Text Document}
    (arePlain : ArePlain files) {dialect : Dialect} {changes : List Change}
    (held : (ofChanges dialect changes).files = holding files)
    {tree after : FileTree} {directory target : FilePath}
    (saved : (ofChanges dialect changes).save tree directory =
      (.ok target, after)) :
    ∃ records loaded,
      Cache.load after directory dialect.name = .ok (.records records) ∧
      ofRecords dialect records = .ok loaded ∧
      loaded.files.Perm (holding (withoutTexts files)) ∧
      ∀ path, loaded.dependents path =
        (ofChanges dialect changes).dependents path := by
  have graph := exact_ofChanges dialect changes
  have records : ((ofChanges dialect changes).files.map fun entry =>
      (entry.1, entry.2.toRecord)) = Cache.recordsOf files := by
    rw [held, holding, List.map_map]
    rfl
  unfold save at saved
  rw [records, dialect_ofChanges] at saved
  obtain ⟨text, encoded, written⟩ := Cache.read_of_save saved
  have decoded := Cache.decodeBytes_encode arePlain.nodup arePlain.tidy encoded
  rw [arePlain.map_reread] at decoded
  have perm := @Cache.holding_perm files
  have keys : (holding (withoutTexts (Cache.inOrder files))).keys.Perm
      (Entries.keys (ofChanges dialect changes).files) := by
    have same : (holding (withoutTexts files)).keys =
        Entries.keys (ofChanges dialect changes).files := by
      rw [held, holding, holding, withoutTexts, Entries.keys_map_value,
        Entries.keys_map_value, Entries.keys_map_value]
    rw [← same]
    exact perm.map Prod.fst
  have nodup : (holding (withoutTexts (Cache.inOrder files))).keys.Nodup :=
    keys.nodup_iff.mpr graph.nodup
  have loadedFiles := files_ofChanges_insert dialect nodup fun key member =>
    graph.normalized key (keys.subset member)
  refine ⟨_, _, Cache.load_of_read written decoded,
    ofRecords_eq dialect arePlain.ofRecord_eq, ?_, ?_⟩
  · rw [loadedFiles]
    exact perm
  · apply (exact_ofChanges dialect _).dependents_congr graph
    intro key target
    rw [loadedFiles, held, Entries.lookup_eq_of_perm perm nodup]
    exact exists_holding_withoutTexts

/-- Documents with plain data survive being cached.  They can be encoded exactly if
no number has more digits than can be written; then they are decoded as they were
but for their texts, which no answer depends on; and a workspace of such documents
that is saved and loaded again holds them at the same paths and knows the same
dependents. -/
theorem plain_documents_survive {files : Entries Text Document}
    (arePlain : ArePlain files) :
    (∀ dialect : Text,
      ((∀ number ∈ (Cache.payload dialect (Cache.recordsOf files)).integers,
          Json.Fits number) →
        ∃ text records, Cache.encode dialect files = .ok text ∧
          Cache.decode dialect text = .ok records ∧
          (records.map fun entry => (entry.1, Stored.ofRecord entry.2)).Perm
            (holding (withoutTexts files))) ∧
      ((∃ number ∈ (Cache.payload dialect (Cache.recordsOf files)).integers,
          ¬ Json.Fits number) →
        Cache.encode dialect files = .error .integerTooLong)) ∧
    (∀ entry ∈ files, entry.2.withoutText.AnswersAs entry.2) ∧
    ∀ dialect changes tree after directory target,
      (ofChanges dialect changes).files = holding files →
      (ofChanges dialect changes).save tree directory = (.ok target, after) →
      ∃ records loaded,
        Cache.load after directory dialect.name = .ok (.records records) ∧
        ofRecords dialect records = .ok loaded ∧
        loaded.files.Perm (holding (withoutTexts files)) ∧
        ∀ path, loaded.dependents path =
          (ofChanges dialect changes).dependents path := by
  refine ⟨fun dialect => ?_, fun entry _ =>
    entry.2.answersAs_withoutText, fun dialect changes tree after directory
      target held saved => load_of_save arePlain held saved⟩
  have writes := arePlain.writes_encode dialect
  generalize encoded : Cache.encode dialect files = outcome at writes
  cases writes with
  | text text fit =>
      obtain ⟨records, decoded, perm⟩ := arePlain.decode_encode encoded
      refine ⟨fun _ => ⟨text, records, rfl, decoded, perm⟩, ?_⟩
      rintro ⟨number, member, long⟩
      exact absurd (fit number member) long
  | tooLong member long =>
      exact ⟨fun fit => absurd (fit _ member) long, fun _ => rfl⟩

/-- A page with front matter and a link. -/
def numberedText : Text :=
  "+++\nn = 1\n+++\n# A\n[b](b.md#c)\n".toList

theorem plain_documents_survive_numbered :
    ∃ document, Document.index .github numberedText = .ok document ∧
      document.frontMatter = [(.str ['n'], .int 1)] ∧
      ArePlain [("a.md".toList, document)] ∧
      ∃ text records,
        Cache.encode "github".toList [("a.md".toList, document)] = .ok text ∧
        Cache.decode "github".toList text = .ok records ∧
        (records.map fun entry => (entry.1, Stored.ofRecord entry.2)).Perm
          [("a.md".toList, .indexed document.withoutText)] := by
  have frontMatter : Document.frontMatterOf (SourceLine.split numberedText) =
      .ok { data := [(.str ['n'], .int 1)] } := by
    cbv
  have facts : (Document.index .github numberedText).toOption.any
      (fun document => document.configuration.isEmpty &&
        (Cache.payload "github".toList (Cache.recordsOf
          [("a.md".toList, document)])).integers.all fun number =>
            (Text.ofNat number.natAbs).length ≤ ReadError.digitLimit) =
      true := by
    decide +kernel
  obtain ⟨document, found, holds⟩ := (Option.any_eq_true _ _).mp facts
  have indexed := Outcome.toOption_eq_some.mp found
  rw [Bool.and_eq_true, List.isEmpty_iff, List.all_eq_true] at holds
  have data : document.frontMatter = [(.str ['n'], .int 1)] := by
    obtain ⟨other, decoded, -, rfl⟩ := Document.exists_of_index indexed
    rw [frontMatter] at decoded
    rw [← Except.ok.inj decoded]
    rfl
  have plain : document.IsPlain := by
    refine ⟨?_, by simp [holds.1]⟩
    rw [data]
    exact @Value.IsPlain.map [(['n'], .int 1)] (by decide) (by simp)
  have arePlain : ArePlain [("a.md".toList, document)] :=
    { nodup := List.nodup_singleton _
      indexed := by simpa using ⟨.github, numberedText, indexed⟩
      plain := by simpa using plain }
  refine ⟨document, indexed, data, arePlain, ?_⟩
  exact ((plain_documents_survive arePlain).1 "github".toList).1
    fun number member => by simpa [Json.Fits] using holds.2 number member

end Workspace

end AnchorLint
