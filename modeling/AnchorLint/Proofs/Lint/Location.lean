import AnchorLint.Lint.Rules
import AnchorLint.Proofs.Document.Location

/-!
# Where findings are

A finding takes its place from the link or the footnote it is about.  Since these
are where the index says, the line of a finding is the one that holds the start of
its span, and its columns are those of the span on that line.
-/

namespace AnchorLint

/-- Whether a finding is on the line that holds its span, and its columns count the
characters of that line from one. -/
structure Finding.IsAt (finding : Finding) (document : Document) : Prop where
  line : finding.line = document.lineAt finding.span.start
  column : ∃ line, document.lines[finding.line - 1]? = some line ∧
    finding.column = (finding.span.start : Int) - line.span.start + 1
  endColumn : finding.endColumn - finding.column =
    (finding.span.stop : Int) - finding.span.start

theorem Finding.isAt_of_places {dialect : Dialect} {text : Text}
    {document : Document} (indexed : Document.index dialect text = .ok document)
    {number : Nat} {line : Line} {span : Span}
    (places : document.Places number line span) {column : Int}
    (columns : column = (span.start : Int) - line.span.start + 1)
    (severity : Severity) (rule message : Text) :
    (Finding.make severity rule message number column span).IsAt document where
  line := (Document.lineAt_of_places indexed places).symm
  column := ⟨line, places.found, columns⟩
  endColumn := by
    simp only [Finding.make]
    omega

namespace Rule

theorem mem_of_mem_repeated {seen : List (Text × Nat)} {notes : List Footnote}
    {entry : Footnote × Nat} (member : entry ∈ repeated seen notes) :
    entry.1 ∈ notes := by
  fun_induction repeated seen notes with
  | case1 => cases member
  | case2 seen note rest line found ih =>
      rcases List.mem_cons.mp member with rfl | later
      · exact List.mem_cons_self
      · exact List.mem_cons_of_mem note (ih later)
  | case3 seen note rest new ih => exact List.mem_cons_of_mem note (ih member)

section

variable {dialect : Dialect} {text : Text} {document : Document}
  (indexed : Document.index dialect text = .ok document)

include indexed

theorem isAt_of_mem_checkFragments {finding : Finding}
    (member : finding ∈ checkFragments document) : finding.IsAt document := by
  obtain ⟨link, broken, rfl⟩ := List.mem_map.mp member
  obtain ⟨line, places, column⟩ :=
    Document.exists_places_of_link indexed (List.mem_filter.mp broken).1
  refine Finding.isAt_of_places indexed places ?_ _ _ _
  have starts := places.starts
  omega

theorem isAt_footnoteFinding {note : Footnote} {line : Line}
    (places : document.Places note.line line note.span) (severity : Severity)
    (what ending : Text) :
    (footnoteFinding document severity note what ending).IsAt document := by
  refine Finding.isAt_of_places indexed places ?_ _ _ _
  have positive := places.positive
  rw [Document.columnAt, places.found]
  dsimp only
  rw [if_neg (by omega)]

theorem isAt_of_mem_checkFootnotes {options : FootnoteOptions}
    {finding : Finding}
    (member : finding ∈ checkFootnotes options document) :
    finding.IsAt document := by
  rcases List.mem_append.mp member with inDefinitions | inReferences
  · split at inDefinitions
    · obtain ⟨entry, isRepeated, rfl⟩ := List.mem_map.mp inDefinitions
      obtain ⟨line, places, -⟩ := Document.exists_places_of_definition indexed
        (mem_of_mem_repeated isRepeated)
      exact isAt_footnoteFinding indexed places _ _ _
    · cases inDefinitions
  · split at inReferences
    · obtain ⟨entry, isRepeated, rfl⟩ := List.mem_map.mp inReferences
      obtain ⟨line, places, -⟩ := Document.exists_places_of_reference indexed
        (mem_of_mem_repeated isRepeated)
      exact isAt_footnoteFinding indexed places _ _ _
    · cases inReferences

end

end Rule

namespace Document

variable {dialect : Dialect} {text : Text} {document : Document}

theorem isAt_of_mem_lint (indexed : index dialect text = .ok document)
    {rules : RuleSet} {finding : Finding}
    (member : finding ∈ document.lint rules) : finding.IsAt document := by
  have found := (List.mem_filter.mp (List.mem_mergeSort.mp member)).1
  rcases List.mem_append.mp found with inLinks | inFootnotes
  · split at inLinks
    · exact Rule.isAt_of_mem_checkFragments indexed inLinks
    · cases inLinks
  · cases isOn : rules.footnotes with
    | none =>
        rw [isOn] at inFootnotes
        cases inFootnotes
    | some options =>
        rw [isOn] at inFootnotes
        exact Rule.isAt_of_mem_checkFootnotes indexed inFootnotes

/-- Every element of an index is placed on a line that is neither code nor front
matter, its span is not empty and lies in the content of that line, links count
their columns from the start of the line, and footnotes can be read back from the
text.  So every finding is where its span is. -/
theorem elements_are_placed (indexed : index dialect text = .ok document) :
    (∀ link ∈ document.links, ∃ line,
      document.Places link.line line link.span ∧
        link.column = link.span.start - line.span.start + 1) ∧
    (∀ note ∈ document.footnoteRefs, ∃ line,
      document.Places note.line line note.span ∧
        document.text.slice note.span.start note.span.stop =
          "[^".toList ++ note.id ++ "]".toList) ∧
    (∀ note ∈ document.footnoteDefs, ∃ line,
      document.Places note.line line note.span ∧
        "[^".toList ++ note.id ++ "]:".toList <:+
          document.text.slice note.span.start note.span.stop) ∧
    (∀ anchor ∈ document.htmlAnchors, ∃ line,
      document.Places anchor.line line anchor.span) ∧
    ∀ rules, ∀ finding ∈ document.lint rules, finding.IsAt document :=
  ⟨fun _ => exists_places_of_link indexed,
    fun _ => exists_places_of_reference indexed,
    fun _ => exists_places_of_definition indexed,
    fun _ => exists_places_of_anchor indexed,
    fun _ _ => isAt_of_mem_lint indexed⟩

/-- A comment before a repeated footnote, a link in the text of a link, a reference
in a block quote, and a tag. -/
def placedText : Text :=
  ("[^n]: one\n<!-- c --> [^n]: two [^n]\n[![i](#a)](#b)\n> [r] <a id=t>\n\n"
    ++ "[r]: #c\n").toList

theorem elements_are_placed_nested :
    ∃ document, index .github placedText = .ok document ∧
      document.footnoteDefs.map Footnote.span = [⟨0, 5⟩, ⟨10, 26⟩] ∧
      document.footnoteRefs.map Footnote.span = [⟨31, 35⟩] ∧
      document.htmlAnchors.map HtmlAnchor.span = [⟨57, 65⟩] ∧
      (∀ note ∈ document.footnoteRefs, ∃ line,
        document.Places note.line line note.span ∧
          document.text.slice note.span.start note.span.stop =
            "[^".toList ++ note.id ++ "]".toList) ∧
      ∀ finding ∈ document.lint {}, finding.IsAt document := by
  have found : (index .github placedText).toOption.any (fun document =>
      document.footnoteDefs.map Footnote.span == [⟨0, 5⟩, ⟨10, 26⟩]
        && document.footnoteRefs.map Footnote.span == [⟨31, 35⟩]
        && document.htmlAnchors.map HtmlAnchor.span == [⟨57, 65⟩]) = true := by
    decide +kernel
  obtain ⟨document, indexed, spans⟩ := (Option.any_eq_true _ _).mp found
  have indexed := Outcome.toOption_eq_some.mp indexed
  simp only [Bool.and_eq_true, beq_iff_eq] at spans
  obtain ⟨⟨definitions, references⟩, anchors⟩ := spans
  obtain ⟨-, placed, -, -, findings⟩ := elements_are_placed indexed
  exact ⟨document, indexed, definitions, references, anchors, placed,
    findings {}⟩

end Document

end AnchorLint
