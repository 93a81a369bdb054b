import AnchorLint.Document.Index

/-!
# What a scan keeps

A scan records what it finds in a harvest, one element after the other.  So what
holds for an empty harvest and is kept by each way to record an element holds for
the harvest of every document.  An index takes over what the harvest holds.
-/

namespace AnchorLint

namespace Scan

/-! ## What a line leaves as it is -/

section Changes

variable {state after : State} {input : Input}

theorem closeIndented_changes (harvest : Harvest) (indented : Option (Nat × Nat)) :
    ∃ codeBlocks, harvest.closeIndented indented =
      { harvest with codeBlocks := codeBlocks } := by
  cases indented with
  | none => exact ⟨_, rfl⟩
  | some range => exact ⟨_, rfl⟩

theorem addComment_changes (harvest : Harvest) (comment : Nat × Text) :
    ∃ replay, harvest.addComment comment = { harvest with replay := replay } := by
  unfold Harvest.addComment
  split
  · exact ⟨_, rfl⟩
  · exact ⟨_, rfl⟩

theorem foldl_addComment_changes (harvest : Harvest) (comments : List (Nat × Text)) :
    ∃ replay, comments.foldl Harvest.addComment harvest =
      { harvest with replay := replay } := by
  induction comments generalizing harvest with
  | nil => exact ⟨_, rfl⟩
  | cons comment comments ih =>
      obtain ⟨replay, same⟩ := addComment_changes harvest comment
      rw [List.foldl_cons, same]
      exact ih _

theorem nameHeading_changes (harvest : Harvest) (custom : Option Text) :
    ∃ headings, harvest.nameHeading custom = { harvest with headings := headings } := by
  unfold Harvest.nameHeading
  split
  · split
    · exact ⟨_, rfl⟩
    · exact ⟨_, rfl⟩
  · exact ⟨_, rfl⟩

/-- A line of a known kind is recorded without regard to lines, blocks of code and
comments. -/
theorem record_changes (harvest : Harvest) (input : Input) (masked : Text)
    (takesAttributes : Bool) (kind : Kind) :
    ∃ headings htmlAnchors footnoteRefs footnoteDefs links pending definitions,
      record harvest input masked takesAttributes kind =
        { harvest with
          headings := headings, htmlAnchors := htmlAnchors
          footnoteRefs := footnoteRefs, footnoteDefs := footnoteDefs
          links := links, pending := pending, definitions := definitions } := by
  cases kind with
  | attributes custom =>
      cases takesAttributes with
      | true =>
          obtain ⟨headings, same⟩ := nameHeading_changes harvest custom
          exact ⟨headings, _, _, _, _, _, _, same⟩
      | false => exact ⟨_, _, _, _, _, _, _, rfl⟩
  | atx draft => exact ⟨_, _, _, _, _, _, _, rfl⟩
  | setext draft => exact ⟨_, _, _, _, _, _, _, rfl⟩
  | definition definition => exact ⟨_, _, _, _, _, _, _, rfl⟩
  | footnote id length => exact ⟨_, _, _, _, _, _, _, rfl⟩
  | prose continues => exact ⟨_, _, _, _, _, _, _, rfl⟩

/-- A line of fenced code changes no more than what is known about blocks of code, and
it ends the paragraph. -/
theorem fenced?_changes (fenced : fenced? state input = some after) :
    ∃ fence indented codeBlocks, after = afterFenced
      { context := { state.context with fence := fence, indented := indented }
        harvest := { state.harvest with codeBlocks := codeBlocks } } := by
  unfold fenced? at fenced
  dsimp only at fenced
  repeat' split at fenced
  all_goals simp only [Option.some.injEq, reduceCtorEq] at fenced
  all_goals subst fenced
  · exact ⟨_, _, _, rfl⟩
  · exact ⟨_, _, _, rfl⟩
  · obtain ⟨codeBlocks, same⟩ :=
      closeIndented_changes state.harvest state.context.indented
    rw [same]
    exact ⟨_, _, _, rfl⟩

theorem indented?_changes (indented : indented? state input = some after) :
    ∃ range, after =
      { state with
        context := { state.context with
          indented := some range
          paragraph := none, takesAttributes := false, afterBlank := false } } := by
  unfold indented? at indented
  dsimp only at indented
  repeat' split at indented
  all_goals simp only [Option.some.injEq, reduceCtorEq] at indented
  all_goals exact ⟨_, indented.symm⟩

theorem leaveIndented_changes (state : State) (input : Input) :
    ∃ indented codeBlocks, leaveIndented state input =
      { context := { state.context with indented := indented }
        harvest := { state.harvest with codeBlocks := codeBlocks } } := by
  unfold leaveIndented
  split
  · exact ⟨_, _, rfl⟩
  · obtain ⟨codeBlocks, same⟩ :=
      closeIndented_changes state.harvest state.context.indented
    rw [same]
    exact ⟨_, _, rfl⟩

/-- A line that is no code leaves lines and blocks of code as they are. -/
theorem plain_changes (state : State) (input : Input) (lastClose : Option Nat) :
    ∃ comment paragraph takesAttributes afterBlank inList headings htmlAnchors
        footnoteRefs footnoteDefs links pending definitions replay,
      plain state input lastClose =
        { context := { state.context with
            comment := comment, paragraph := paragraph
            takesAttributes := takesAttributes, afterBlank := afterBlank
            inList := inList }
          harvest := { state.harvest with
            headings := headings, htmlAnchors := htmlAnchors
            footnoteRefs := footnoteRefs, footnoteDefs := footnoteDefs
            links := links, pending := pending, definitions := definitions
            replay := replay } } := by
  obtain ⟨replay, fed⟩ := foldl_addComment_changes state.harvest
    (Comment.mask input.place lastClose state.context.comment).closed
  unfold plain
  dsimp only
  rw [fed]
  split
  · exact ⟨_, _, _, _, _, _, _, _, _, _, _, _, _, rfl⟩
  split
  · exact ⟨_, _, _, _, _, _, _, _, _, _, _, _, _, rfl⟩
  · obtain ⟨headings, htmlAnchors, footnoteRefs, footnoteDefs, links, pending,
      definitions, same⟩ := record_changes { state.harvest with replay := replay } input
        (Comment.mask input.place lastClose state.context.comment).text
        state.context.takesAttributes
        (kindOf input (Comment.mask input.place lastClose state.context.comment).text
          state.context.paragraph)
    rw [same]
    exact ⟨_, _, _, _, _, _, _, _, _, _, _, _, _, rfl⟩

end Changes

/-! ## What is kept along a scan -/

/-- Whether each way to record an element keeps a property of the harvest. -/
structure Keeps (holds : Harvest → Prop) : Prop where
  addLine : ∀ harvest input inCode inFrontMatter, holds harvest →
    holds (harvest.addLine input inCode inFrontMatter)
  addCodeBlock : ∀ harvest block, holds harvest →
    holds (harvest.addCodeBlock block)
  addHeading : ∀ harvest draft, holds harvest →
    holds (harvest.addHeading draft)
  nameHeading : ∀ harvest custom, holds harvest →
    holds (harvest.nameHeading custom)
  addDefinition : ∀ harvest line definition, holds harvest →
    holds (harvest.addDefinition line definition)
  addFootnote : ∀ (harvest : Harvest) note, holds harvest →
    holds { harvest with footnoteDefs := note :: harvest.footnoteDefs }
  addElements : ∀ (harvest : Harvest) (place : Inline.Place) masked,
    holds harvest → holds (harvest.addElements (place.elements masked))
  addComment : ∀ harvest comment, holds harvest →
    holds (harvest.addComment comment)

namespace Keeps

variable {holds : Harvest → Prop} (keeps : Keeps holds)

include keeps

theorem closeIndented {harvest : Harvest} (before : holds harvest)
    (indented : Option (Nat × Nat)) :
    holds (harvest.closeIndented indented) := by
  cases indented with
  | none => exact before
  | some range => exact keeps.addCodeBlock _ _ before

theorem foldl_addComment {harvest : Harvest} (before : holds harvest)
    (comments : List (Nat × Text)) :
    holds (comments.foldl Harvest.addComment harvest) := by
  induction comments generalizing harvest with
  | nil => exact before
  | cons comment comments ih => exact ih (keeps.addComment _ _ before)

theorem fenced? {state after : State} (before : holds state.harvest)
    {input : Input} (fenced : Scan.fenced? state input = some after) :
    holds after.harvest := by
  unfold Scan.fenced? at fenced
  dsimp only at fenced
  repeat' split at fenced
  all_goals simp only [Option.some.injEq, reduceCtorEq] at fenced
  all_goals subst fenced
  · exact keeps.addCodeBlock _ _ before
  · exact before
  · exact keeps.closeIndented before _

omit keeps in
theorem indented? {state after : State} (before : holds state.harvest)
    {input : Input} (indented : Scan.indented? state input = some after) :
    holds after.harvest := by
  obtain ⟨range, rfl⟩ := indented?_changes indented
  exact before

theorem leaveIndented {state : State} (before : holds state.harvest)
    (input : Input) : holds (Scan.leaveIndented state input).harvest := by
  unfold Scan.leaveIndented
  split
  · exact before
  · exact keeps.closeIndented before _

theorem record {harvest : Harvest} (before : holds harvest) (input : Input)
    (masked : Text) (takesAttributes : Bool) (kind : Kind) :
    holds (Scan.record harvest input masked takesAttributes kind) := by
  cases kind with
  | attributes custom =>
      cases takesAttributes with
      | true => exact keeps.nameHeading _ _ before
      | false => exact before
  | atx draft => exact keeps.addElements _ _ _ (keeps.addHeading _ _ before)
  | setext draft => exact keeps.addHeading _ _ before
  | definition definition => exact keeps.addDefinition _ _ _ before
  | footnote id length =>
      exact keeps.addElements _ _ _ (keeps.addFootnote _ _ before)
  | prose continues => exact keeps.addElements _ _ _ before

theorem plain {state : State} (before : holds state.harvest) (input : Input)
    (lastClose : Option Nat) :
    holds (Scan.plain state input lastClose).harvest := by
  unfold Scan.plain
  dsimp only
  split
  · exact keeps.foldl_addComment before _
  split
  · exact keeps.addElements _ _ _ (keeps.foldl_addComment before _)
  · exact keeps.record (keeps.foldl_addComment before _) _ _ _ _

theorem step (header : Nat) (lastClose : Option Nat) {state : State}
    (before : holds state.harvest) (input : Input) :
    holds (Scan.step header lastClose state input).harvest := by
  unfold Scan.step
  dsimp only
  split
  · exact keeps.addLine _ _ _ _ before
  split
  · rename_i fenced
    exact keeps.addLine _ _ _ _ (keeps.fenced? before fenced)
  split
  · rename_i indented
    exact keeps.addLine _ _ _ _ (Keeps.indented? before indented)
  · exact keeps.addLine _ _ _ _
      (keeps.plain (keeps.leaveIndented before input) input lastClose)

/-- What every way to record an element keeps holds for a whole document. -/
theorem run (empty : holds {}) (header : Nat) (lastClose : Option Nat)
    (lines : List SourceLine) : holds (Scan.run header lastClose lines) := by
  have scanned (inputs : List Input) : ∀ state : State,
      holds state.harvest →
        holds (inputs.foldl (Scan.step header lastClose) state).harvest := by
    induction inputs with
    | nil => exact fun _ before => before
    | cons input inputs ih =>
        exact fun state before =>
          ih _ (keeps.step header lastClose before input)
  have harvested := keeps.closeIndented (scanned (inputs lines) {} empty)
  unfold Scan.run
  dsimp only
  split
  · exact keeps.addComment _ _ (harvested _)
  · exact harvested _

end Keeps

end Scan

namespace Document

def harvestOf (text : Text) : Scan.Harvest :=
  let lines := SourceLine.split text
  let header := ((frontMatterBlock? lines).map fun found => found.2.2).getD 0
  Scan.run header (Text.findLast? Comment.closer text) lines

/-- What an index has from the text and from the harvest. -/
structure IsFrom (text : Text) (harvest : Scan.Harvest)
    (document : Document) : Prop where
  links : document.links = allLinks harvest.links.reverse
    harvest.pending.reverse harvest.definitions
  definitions : document.definitions = harvest.definitions
  regions : document.regions = harvest.replay.regions
  configuration : document.configuration = harvest.replay.configuration
  digest : document.digest = Digest.ofText text

theorem isFrom_of_index {dialect : Dialect} {text : Text} {document : Document}
    (indexed : index dialect text = .ok document) :
    document.IsFrom text (harvestOf text) := by
  unfold index at indexed
  dsimp only at indexed
  repeat' split at indexed
  all_goals simp only [Except.ok.injEq, reduceCtorEq] at indexed
  all_goals
    subst indexed
    exact ⟨rfl, rfl, rfl, rfl, rfl⟩

end Document

end AnchorLint
