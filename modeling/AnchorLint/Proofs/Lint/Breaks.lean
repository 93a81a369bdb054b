import AnchorLint.Proofs.Document.Breaks
import AnchorLint.Proofs.Lint.Location

/-!
# Findings with other line breaks

A finding takes its columns from the distance between a span and the start of its
line.  With other line breaks both move by the same distance, so a text has the same
findings, at the same lines and columns, whatever its line breaks are.
-/

namespace AnchorLint

/-- A finding in a text once the line breaks are others. -/
def Finding.placeIn (ending text : Text) (finding : Finding) : Finding :=
  { finding with span := finding.span.placeIn ending text }

namespace Rule

theorem repeated_map {move : Footnote → Footnote}
    (keepsId : ∀ note, (move note).id = note.id)
    (keepsLine : ∀ note, (move note).line = note.line)
    (seen : List (Text × Nat)) (notes : List Footnote) :
    repeated seen (notes.map move) =
      (repeated seen notes).map fun entry => (move entry.1, entry.2) := by
  induction notes generalizing seen with
  | nil => rfl
  | cons note notes ih =>
      rw [List.map_cons, repeated, repeated, keepsId, keepsLine]
      cases seen.lookup note.id with
      | some line => exact congrArg (_ :: ·) (ih seen)
      | none => exact ih _

end Rule

namespace Document

section

variable {dialect : Dialect} {ending text : Text} {document : Document}
  (indexed : index dialect text = .ok document)

include indexed

/-- A finding about a span on a line has the same columns. -/
theorem make_placeIn {number : Nat} {line : Line} {span : Span}
    (places : document.Places number line span) (severity : Severity)
    (rule message : Text) (column : Int) :
    Finding.make severity rule message number column (span.placeIn ending text) =
      (Finding.make severity rule message number column span).placeIn ending
        text := by
  obtain ⟨startEq, stopEq⟩ := @placeIn_of_places ending _ _ _ indexed _ _ _ places
  have starts := places.starts
  have proper := places.proper
  have width : column + Text.placeIn ending text span.stop
      - Text.placeIn ending text span.start = column + span.stop - span.start := by
    omega
  rw [Finding.make, Finding.placeIn, Finding.mk.injEq]
  exact ⟨rfl, rfl, rfl, rfl, rfl, rfl, width, rfl⟩

theorem columnAt_withBreaks {number : Nat} {line : Line} {span : Span}
    (places : document.Places number line span) :
    (document.withBreaks ending).columnAt number
        (Text.placeIn ending text span.start) =
      document.columnAt number span.start := by
  obtain ⟨startEq, -⟩ := @placeIn_of_places ending _ _ _ indexed _ _ _ places
  have starts := places.starts
  have positive := places.positive
  have moved : (document.withBreaks ending).lines[number - 1]? =
      some { line with span := line.span.placeIn ending text } := by
    rw [withBreaks, List.getElem?_map, places.found, text_of_index indexed]
    rfl
  rw [columnAt, columnAt, moved, places.found]
  dsimp only [Span.placeIn]
  rw [if_neg (by omega), if_neg (by omega)]
  omega

theorem checkFragments_withBreaks :
    Rule.checkFragments (document.withBreaks ending) =
      (Rule.checkFragments document).map (Finding.placeIn ending text) := by
  rw [Rule.checkFragments, withBreaks, List.filter_map, List.map_map,
    Rule.checkFragments, List.map_map]
  refine List.map_congr_left fun link member => ?_
  obtain ⟨line, places, -⟩ :=
    exists_places_of_link indexed (List.mem_filter.mp member).1
  rw [text_of_index indexed]
  exact make_placeIn indexed places _ _ _ _

theorem footnoteFinding_withBreaks {note : Footnote} {line : Line}
    (places : document.Places note.line line note.span) (severity : Severity)
    (what remark : Text) :
    Rule.footnoteFinding (document.withBreaks ending) severity
        { note with span := note.span.placeIn ending text } what remark =
      (Rule.footnoteFinding document severity note what remark).placeIn ending
        text := by
  unfold Rule.footnoteFinding
  rw [← make_placeIn indexed places]
  exact congrArg (fun column => Finding.make _ _ _ _ column _)
    (columnAt_withBreaks indexed places)

/-- The findings about repeated footnotes, whether these are defined or referred
to. -/
theorem map_repeated_withBreaks {notes : List Footnote}
    (placed : ∀ note ∈ notes, ∃ line, document.Places note.line line note.span)
    (severity : Severity) (what : Text) (remark : Nat → Text) :
    (Rule.repeated [] (notes.map fun note =>
        { note with span := note.span.placeIn ending text })).map (fun entry =>
          Rule.footnoteFinding (document.withBreaks ending) severity entry.1 what
            (remark entry.2)) =
      ((Rule.repeated [] notes).map fun entry =>
        Rule.footnoteFinding document severity entry.1 what
          (remark entry.2)).map (Finding.placeIn ending text) := by
  have moved := @Rule.repeated_map
    (fun note => { note with span := note.span.placeIn ending text })
    (fun _ => rfl) (fun _ => rfl) [] notes
  rw [moved, List.map_map, List.map_map]
  refine List.map_congr_left fun entry member => ?_
  obtain ⟨line, places⟩ := placed entry.1 (Rule.mem_of_mem_repeated member)
  exact footnoteFinding_withBreaks indexed places severity what _

theorem checkFootnotes_withBreaks (options : FootnoteOptions) :
    Rule.checkFootnotes options (document.withBreaks ending) =
      (Rule.checkFootnotes options document).map
        (Finding.placeIn ending text) := by
  obtain rfl := text_of_index indexed
  have definitions : Rule.checkDefinitions (document.withBreaks ending) =
      (Rule.checkDefinitions document).map
        (Finding.placeIn ending document.text) :=
    map_repeated_withBreaks indexed (fun note member =>
      (exists_places_of_definition indexed member).imp fun _ => And.left)
      .error "definition".toList fun line =>
        " (first defined on line ".toList ++ Text.ofNat line ++ ")".toList
  have references : Rule.checkReferences (document.withBreaks ending) =
      (Rule.checkReferences document).map
        (Finding.placeIn ending document.text) :=
    map_repeated_withBreaks indexed (fun note member =>
      (exists_places_of_reference indexed member).imp fun _ => And.left)
      .warn "reference".toList fun _ => []
  have sameOptions : Rule.footnoteOptionsFor (document.withBreaks ending) options =
      Rule.footnoteOptionsFor document options := rfl
  rw [Rule.checkFootnotes, Rule.checkFootnotes, sameOptions, definitions,
    references, List.map_append]
  congr 1
  · split <;> rfl
  · split <;> rfl

theorem lint_withBreaks (rules : RuleSet) :
    (document.withBreaks ending).lint rules =
      (document.lint rules).map (Finding.placeIn ending text) := by
  have found : (if rules.linkFragments then
          Rule.checkFragments (document.withBreaks ending) else [])
        ++ (rules.footnotes.map fun options =>
          Rule.checkFootnotes options (document.withBreaks ending)).getD [] =
      ((if rules.linkFragments then Rule.checkFragments document else [])
        ++ (rules.footnotes.map fun options =>
          Rule.checkFootnotes options document).getD []).map
            (Finding.placeIn ending text) := by
    rw [List.map_append, checkFragments_withBreaks indexed]
    congr 1
    · split <;> rfl
    · cases rules.footnotes with
      | none => rfl
      | some options => exact checkFootnotes_withBreaks indexed options
  unfold lint
  dsimp only
  rw [found]
  unfold visible Finding.sort
  rw [List.filter_map]
  refine Eq.symm (List.map_mergeSort ?_)
  exact fun _ _ _ _ => rfl

end

variable {ending text : Text}

/-- The index of a text does not depend on its line breaks: with other ones it is the
same up to the offsets, and fails alike.  Offsets on a line move with the start of the
line, and the findings are the same up to their spans. -/
theorem index_ignores_breaks (isBreak : Text.IsOtherBreak ending)
    (unbroken : '\r' ∉ text) (dialect : Dialect) :
    index dialect (Text.withBreaks ending text) =
        (index dialect text).map (withBreaks ending) ∧
    ∀ document, index dialect text = .ok document →
      (∀ number line span, document.Places number line span →
        Text.placeIn ending text span.start =
            Text.placeIn ending text line.span.start
              + (span.start - line.span.start) ∧
          Text.placeIn ending text span.stop =
            Text.placeIn ending text line.span.start
              + (span.stop - line.span.start)) ∧
      ∀ rules, (document.withBreaks ending).lint rules =
        (document.lint rules).map (Finding.placeIn ending text) :=
  ⟨index_withBreaks_eq isBreak unbroken dialect, fun _ indexed =>
    ⟨fun _ _ _ => placeIn_of_places indexed, lint_withBreaks indexed⟩⟩

/-- Empty front matter, a comment over two lines, and a link behind it. -/
def breakText : Text :=
  "---\n---\n<!--\n--> [a](#x)\n".toList

theorem index_ignores_breaks_pair :
    ∃ document : Document, index .github breakText = .ok document ∧
      index .github (Text.withBreaks ['\r', '\n'] breakText) =
        .ok (document.withBreaks ['\r', '\n']) ∧
      document.links.map Link.span = [⟨17, 24⟩] ∧
      (document.withBreaks ['\r', '\n']).links.map Link.span = [⟨20, 27⟩] ∧
      ((document.withBreaks ['\r', '\n']).lint {}).length = 1 ∧
      (document.withBreaks ['\r', '\n']).lint {} =
        (document.lint {}).map (Finding.placeIn ['\r', '\n'] breakText) := by
  have found : (index .github breakText).toOption.any (fun document =>
      document.links.map Link.span == [⟨17, 24⟩]
        && (document.lint {}).length == 1) = true := by
    decide +kernel
  obtain ⟨document, isIndex, found⟩ := (Option.any_eq_true _ _).mp found
  have indexed := Outcome.toOption_eq_some.mp isIndex
  rw [Bool.and_eq_true, beq_iff_eq, beq_iff_eq] at found
  obtain ⟨spans, count⟩ := found
  obtain ⟨same, further⟩ := @index_ignores_breaks ['\r', '\n'] breakText
    (Or.inl rfl) (by decide) .github
  obtain ⟨-, findings⟩ := further document indexed
  rw [indexed] at same
  refine ⟨document, indexed, same, spans, ?_, ?_, findings {}⟩
  · have moved : (document.withBreaks ['\r', '\n']).links.map Link.span =
        (document.links.map Link.span).map
          (Span.placeIn ['\r', '\n'] document.text) := by
      rw [withBreaks, List.map_map, List.map_map]
      rfl
    rw [moved, spans, text_of_index indexed]
    decide +kernel
  · rw [findings {}, List.length_map, count]

end Document

end AnchorLint
