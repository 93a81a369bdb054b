import AnchorLint.Proofs.Data.Outcome
import AnchorLint.Proofs.Document.Harvest

/-!
# How an index is put together

An index is made of the harvest of the scan and of what the front matter says,
if neither of them asks for data that cannot exist.
-/

namespace AnchorLint

namespace Document

/-- How many lines the front matter takes up. -/
def headerOf (lines : List SourceLine) : Nat :=
  ((frontMatterBlock? lines).map fun found => found.2.2).getD 0

def headerSpan? (lines : List SourceLine) : Option Span :=
  (lines[headerOf lines - 1]?.filter fun _ => 0 < headerOf lines).map
    fun line => ⟨0, line.span.stop⟩

def frontMatterOf (lines : List SourceLine) :
    Except FrontMatter.Fault FrontMatter :=
  match frontMatterBlock? lines with
  | some (delimiter, inside, _) =>
    FrontMatter.decode delimiter (Text.join ['\n'] inside)
  | none => .ok {}

/-- The index of a text with a harvest and front matter. -/
def assemble (dialect : Dialect) (text : Text) (frontMatter : FrontMatter)
    (harvest : Scan.Harvest) : Document :=
  let headings := nameHeadings dialect {} harvest.headings.reverse
  { text := text
    lines := harvest.lines.reverse
    codeBlocks := harvest.codeBlocks.reverse.mergeSort
      fun first second => first.firstLine ≤ second.firstLine
    headings := headings
    htmlAnchors := harvest.htmlAnchors.reverse
    anchors := allAnchors headings harvest.htmlAnchors.reverse
    footnoteRefs := harvest.footnoteRefs.reverse
    footnoteDefs := harvest.footnoteDefs.reverse
    links := allLinks harvest.links.reverse harvest.pending.reverse
      harvest.definitions
    definitions := harvest.definitions
    regions := harvest.replay.regions
    frontMatter := frontMatter.data
    frontMatterSpan := headerSpan? (SourceLine.split text)
    frontMatterError := frontMatter.error
    configuration := harvest.replay.configuration
    digest := Digest.ofText text }

/-- Indexing fails if the front matter cannot be decoded or a comment holds too long
an integer, in this order. -/
theorem index_eq (dialect : Dialect) (text : Text) :
    index dialect text =
      match frontMatterOf (SourceLine.split text) with
      | .error fault => .error (.frontMatter fault)
      | .ok frontMatter =>
        match (harvestOf text).replay.oversized with
        | some digits => .error (.oversizedInteger digits)
        | none => .ok (assemble dialect text frontMatter (harvestOf text)) := rfl

theorem exists_of_index {dialect : Dialect} {text : Text} {document : Document}
    (indexed : index dialect text = .ok document) :
    ∃ frontMatter, frontMatterOf (SourceLine.split text) = .ok frontMatter ∧
      (harvestOf text).replay.oversized = none ∧
      document = assemble dialect text frontMatter (harvestOf text) := by
  rw [index_eq] at indexed
  split at indexed
  · cases indexed
  · rename_i frontMatter decoded
    split at indexed
    · cases indexed
    · rename_i fits
      exact ⟨frontMatter, decoded, fits, (Except.ok.inj indexed).symm⟩

theorem error_of_decode {delimiter block : Text} {frontMatter : FrontMatter}
    (decoded : FrontMatter.decode delimiter block = .ok frontMatter) :
    frontMatter.error = none ∨ frontMatter.error = some .notMapping ∨
      frontMatter.error = some (.unparseable "unparseable".toList) := by
  have ofValue (value : Value) : (FrontMatter.ofValue value).error = none ∨
      (FrontMatter.ofValue value).error = some .notMapping := by
    cases value <;> simp [FrontMatter.ofValue]
  unfold FrontMatter.decode at decoded
  split at decoded
  · exact .inl (Except.ok.inj decoded ▸ rfl)
  split at decoded
  · unfold FrontMatter.decodeToml at decoded
    split at decoded
    · rw [← Except.ok.inj decoded]
      exact (ofValue _).imp_right .inl
    · exact .inr (.inr (Except.ok.inj decoded ▸ rfl))
    · cases decoded
  · unfold FrontMatter.decodeYaml at decoded
    split at decoded
    · rw [← Except.ok.inj decoded]
      exact (ofValue _).imp_right .inl
    · exact .inr (.inr (Except.ok.inj decoded ▸ rfl))
    · cases decoded

/-- The error that an index notes is the one that its text records. -/
theorem ofText_text_of_index {dialect : Dialect} {text : Text}
    {document : Document} (indexed : index dialect text = .ok document) :
    document.frontMatterError.map (fun error => .ofText error.text) =
      document.frontMatterError := by
  obtain ⟨frontMatter, decoded, -, rfl⟩ := exists_of_index indexed
  change frontMatter.error.map _ = frontMatter.error
  unfold frontMatterOf at decoded
  split at decoded
  · rcases error_of_decode decoded with none_ | notMapping | unparseable
    · rw [none_]
      rfl
    · rw [notMapping]
      rfl
    · rw [unparseable]
      decide
  · rw [← Except.ok.inj decoded]
    rfl

end Document

end AnchorLint
