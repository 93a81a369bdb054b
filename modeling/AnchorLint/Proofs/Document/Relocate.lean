import AnchorLint.Proofs.Document.Fence
import AnchorLint.Proofs.Document.Mask
import AnchorLint.Proofs.Document.Patterns
import Mathlib.Data.List.Forall2

/-!
# Scans of lines that stand elsewhere

Two documents may have lines with the same content at different offsets.  What a
scan finds on such a line is the same up to the spans, and a span is found again
at the same distance from the start of its line.  So if two scans are in the same
context and have found the same up to the spans, this is still so behind a line
with the same content, provided that the two scans agree on whether the line
opens a fence and on what comments hide in it.
-/

namespace AnchorLint

/-- What stands on a line and has a span. -/
class Located (α : Type) where
  line : α → Nat
  span : α → Span
  withSpan : α → Span → α

instance : Located HtmlAnchor :=
  ⟨HtmlAnchor.line, HtmlAnchor.span, fun anchor span =>
    { anchor with span := span }⟩

instance : Located Footnote :=
  ⟨Footnote.line, Footnote.span, fun note span => { note with span := span }⟩

instance : Located Link :=
  ⟨Link.line, Link.span, fun link span => { link with span := span }⟩

instance : Located Inline.PendingReference :=
  ⟨Inline.PendingReference.line, Inline.PendingReference.span,
    fun reference span => { reference with span := span }⟩

/-- How spans are found again in another document: on a given line, a span of
the one document and the span of the other one. -/
abbrev Relocation := (line : Nat) → Span → Span → Prop

/-- Whether two elements are the same up to their spans, and these are found
again. -/
def Relocation.Relates (moves : Relocation) {α : Type} [Located α]
    (one other : α) : Prop :=
  moves (Located.line one) (Located.span one) (Located.span other) ∧
    Located.withSpan one (Located.span other) = other

namespace Inline

variable {moves : Relocation}

/-! ## Elements -/

/-- Whether a place has the line and the content of another one, and the spans
that start in it are found again there. -/
structure Place.Carries (moves : Relocation) (one other : Place) : Prop where
  line : other.line = one.line
  content : other.content = one.content
  moves : ∀ start < one.content.length, ∀ stop : Nat,
    moves one.line ⟨one.offset + start, one.offset + stop⟩
      ⟨other.offset + start, other.offset + stop⟩

theorem makeLink?_relates {line : Nat} {one other : Span}
    (moved : moves line one other) (target : Text) (column : Nat) (text : Text)
    (style : LinkStyle) (reference : Option Text) (isImage : Bool) :
    Option.Rel moves.Relates
      (makeLink? target line column one text style reference isImage)
      (makeLink? target line column other text style reference isImage) := by
  unfold makeLink?
  split
  · exact .none
  · exact .some ⟨moved, rfl⟩

theorem forall₂_toList {α : Type} {relates : α → α → Prop} {one other : Option α}
    (related : Option.Rel relates one other) :
    List.Forall₂ relates one.toList other.toList := by
  cases related with
  | none => exact .nil
  | some related => exact .cons related .nil

theorem forall₂_filterMap {α β : Type} {relates : β → β → Prop}
    {items : List α} {one other : α → Option β}
    (each : ∀ item ∈ items, Option.Rel relates (one item) (other item)) :
    List.Forall₂ relates (items.filterMap one) (items.filterMap other) := by
  have same : List.Forall₂ (fun first second => first = second ∧ first ∈ items)
      items items := List.forall₂_same.mpr fun item member => ⟨rfl, member⟩
  refine List.rel_filterMap ?_ same
  rintro item _ ⟨rfl, member⟩
  exact each item member

theorem forall₂_flatMap {α β : Type} {relates : β → β → Prop}
    {items : List α} {one other : α → List β}
    (each : ∀ item ∈ items, List.Forall₂ relates (one item) (other item)) :
    List.Forall₂ relates (items.flatMap one) (items.flatMap other) := by
  have same : List.Forall₂ (fun first second => first = second ∧ first ∈ items)
      items items := List.forall₂_same.mpr fun item member => ⟨rfl, member⟩
  refine List.rel_flatMap same ?_
  rintro item _ ⟨rfl, member⟩
  exact each item member

theorem forall₂_map {α β : Type} {relates : β → β → Prop}
    {items : List α} {one other : α → β}
    (each : ∀ item ∈ items, relates (one item) (other item)) :
    List.Forall₂ relates (items.map one) (items.map other) := by
  rw [List.forall₂_map_left_iff, List.forall₂_map_right_iff]
  exact List.forall₂_same.mpr each

/-- Whether two places have the same elements up to their spans. -/
structure Elements.Relates (moves : Relocation) (one other : Elements) :
    Prop where
  htmlAnchors : List.Forall₂ moves.Relates one.htmlAnchors other.htmlAnchors
  footnotes : List.Forall₂ moves.Relates one.footnotes other.footnotes
  links : List.Forall₂ moves.Relates one.links other.links
  pending : List.Forall₂ moves.Relates one.pending other.pending

namespace Place.Carries

variable {one other : Place} (carries : Carries moves one other)

include carries

theorem span {α : Type} {found : Found α}
    (inside : found.start < one.content.length) :
    moves one.line (one.span found) (other.span found) :=
  carries.moves found.start inside found.stop

theorem tagAnchors {found : Found (Text × List (Text × Option Text))}
    (inside : found.start < one.content.length) :
    List.Forall₂ moves.Relates (one.tagAnchors found)
      (other.tagAnchors found) := by
  unfold Place.tagAnchors
  refine forall₂_map fun id _ => ⟨carries.span inside, ?_⟩
  rw [carries.line]
  rfl

theorem addressLink? {found : Found Text}
    (inside : found.start < one.content.length) (target : Text) :
    Option.Rel moves.Relates (one.addressLink? found target)
      (other.addressLink? found target) := by
  unfold Place.addressLink?
  rw [carries.line]
  exact makeLink?_relates (carries.span inside) _ _ _ _ _ _

theorem reference {found : Found Written}
    (inside : found.start < one.content.length) :
    moves.Relates (one.reference found) (other.reference found) := by
  refine ⟨carries.span inside, ?_⟩
  unfold Place.reference
  rw [carries.line, carries.content]
  rfl

theorem inlineLink? {base : Nat} {found : Found Written}
    (inside : base + found.start < one.content.length) :
    Option.Rel moves.Relates (one.inlineLink? base found)
      (other.inlineLink? base found) := by
  have moved := carries.moves (base + found.start) inside (base + found.stop)
  simp only [← Nat.add_assoc] at moved
  unfold Place.inlineLink?
  rw [carries.line, carries.content]
  exact makeLink?_relates moved _ _ _ _ _ _

theorem inlineLinks {masked : Text}
    (length : masked.length = one.content.length) {found : Found Written}
    (isMatch : Pattern.IsMatch Inline.inlineLink masked found) :
    List.Forall₂ moves.Relates (one.inlineLinks found)
      (other.inlineLinks found) := by
  have inside : found.start < one.content.length :=
    length ▸ Nat.lt_of_lt_of_le isMatch.lt_stop isMatch.stop_le
  refine List.rel_append ?_ ?_
  · refine forall₂_toList (carries.inlineLink? ?_)
    rwa [Nat.zero_add]
  · refine forall₂_filterMap fun inner member => carries.inlineLink? ?_
    obtain ⟨before, after, read, -⟩ := isMatch.reads
    have fits := textOffset_add_length_lt read
    have innerMatch := Pattern.isMatch_of_mem_findAll member
    have := innerMatch.lt_stop
    have := innerMatch.stop_le
    rw [List.length_drop] at fits
    omega

/-- The elements of places with the same content are the same up to their
spans. -/
theorem elements {masked : Text}
    (length : masked.length = one.content.length) :
    (one.elements masked).Relates moves (other.elements masked) := by
  have inside {α : Type} {pattern : Pattern α} {text : Text}
      (same : text.length = masked.length) :
      ∀ found ∈ Pattern.findAll pattern text,
        found.start < one.content.length := by
    intro found member
    have isMatch := Pattern.isMatch_of_mem_findAll member
    have := isMatch.lt_stop
    have := isMatch.stop_le
    omega
  -- Blanking out what has been found keeps the length, so the bound on the
  -- starts holds for each text in which something is looked for.
  have shows_ := Shows.refl masked
  refine ⟨?_, ?_, ?_, ?_⟩
  · exact forall₂_flatMap fun found member =>
      carries.tagAnchors (inside rfl found member)
  · refine forall₂_map fun found member =>
      ⟨carries.span (inside rfl found member), ?_⟩
    rw [carries.line]
    rfl
  · refine List.rel_append (List.rel_append (List.rel_append ?_ ?_) ?_) ?_
    · exact forall₂_flatMap fun found member =>
        carries.inlineLinks length (Pattern.isMatch_of_mem_findAll member)
    · exact forall₂_filterMap fun found member =>
        carries.addressLink? (inside shows_.unreferenced.length found member) _
    · exact forall₂_filterMap fun found member =>
        carries.addressLink? (inside shows_.unreferenced.length found member) _
    · exact forall₂_filterMap fun found member =>
        carries.addressLink? (inside shows_.unaddressed.length found member) _
  · refine forall₂_map fun found member => carries.reference ?_
    rcases List.mem_append.mp member with full | shortcut
    · exact inside shows_.unlinked.length found full
    · exact inside shows_.unlabelled.length found (List.mem_of_mem_filter shortcut)

end Place.Carries

end Inline

namespace Block

theorem bounds_of_footnoteDefinition? {line id : Text} {length : Nat}
    (defined : footnoteDefinition? line = some (id, length)) :
    0 < line.length ∧ length ≤ line.length := by
  unfold footnoteDefinition? at defined
  split at defined
  · rename_i id after marked
    obtain ⟨-, rfl⟩ := Prod.mk.inj (Option.some.inj defined)
    refine ⟨?_, Nat.sub_le _ _⟩
    cases line with
    | nil => simp [footnoteMark?] at marked
    | cons character rest => exact Nat.zero_lt_succ _
  · cases defined

end Block

namespace Scan

variable {moves : Relocation}

/-! ## Harvests -/

/-- What is said about a line apart from its span. -/
def flags (line : Line) : Bool × Bool :=
  (line.inCode, line.inFrontMatter)

/-- Whether two harvests are the same up to the spans. -/
structure Harvest.Relates (moves : Relocation) (one other : Harvest) :
    Prop where
  flags : other.lines.map flags = one.lines.map flags
  codeBlocks : other.codeBlocks = one.codeBlocks
  headings : other.headings = one.headings
  definitions : other.definitions = one.definitions
  replay : other.replay = one.replay
  htmlAnchors : List.Forall₂ moves.Relates one.htmlAnchors other.htmlAnchors
  footnoteRefs : List.Forall₂ moves.Relates one.footnoteRefs other.footnoteRefs
  footnoteDefs : List.Forall₂ moves.Relates one.footnoteDefs other.footnoteDefs
  links : List.Forall₂ moves.Relates one.links other.links
  pending : List.Forall₂ moves.Relates one.pending other.pending

namespace Harvest.Relates

variable {one other : Harvest} (related : one.Relates moves other)

include related

theorem addLine (input otherInput : Input) (inCode inFrontMatter : Bool) :
    (one.addLine input inCode inFrontMatter).Relates moves
      (other.addLine otherInput inCode inFrontMatter) :=
  { related with
    flags := by
      simp only [Harvest.addLine, List.map_cons, related.flags]
      rfl }

theorem addCodeBlock (block : CodeBlock) :
    (one.addCodeBlock block).Relates moves (other.addCodeBlock block) :=
  { related with codeBlocks := congrArg (block :: ·) related.codeBlocks }

theorem closeIndented (indented : Option (Nat × Nat)) :
    (one.closeIndented indented).Relates moves
      (other.closeIndented indented) := by
  cases indented with
  | none => exact related
  | some range => exact related.addCodeBlock _

theorem addHeading (draft : Draft) :
    (one.addHeading draft).Relates moves (other.addHeading draft) :=
  { related with headings := congrArg (draft :: ·) related.headings }

theorem nameHeading (custom : Option Text) :
    (one.nameHeading custom).Relates moves (other.nameHeading custom) := by
  unfold Harvest.nameHeading
  rw [related.headings]
  split
  · split
    · exact { related with headings := rfl }
    · exact related
  · exact related

theorem addDefinition (line : Nat) (definition : Block.Definition) :
    (one.addDefinition line definition).Relates moves
      (other.addDefinition line definition) :=
  { related with
    definitions := by
      simp only [Harvest.addDefinition, related.definitions] }

theorem addFootnote {note otherNote : Footnote}
    (same : moves.Relates note otherNote) :
    { one with footnoteDefs := note :: one.footnoteDefs }.Relates moves
      { other with footnoteDefs := otherNote :: other.footnoteDefs } :=
  { related with footnoteDefs := .cons same related.footnoteDefs }

theorem addElements {elements otherElements : Inline.Elements}
    (same : elements.Relates moves otherElements) :
    (one.addElements elements).Relates moves
      (other.addElements otherElements) :=
  { related with
    htmlAnchors := List.rel_append (List.rel_reverse same.htmlAnchors)
      related.htmlAnchors
    footnoteRefs := List.rel_append (List.rel_reverse same.footnotes)
      related.footnoteRefs
    links := List.rel_append (List.rel_reverse same.links) related.links
    pending := List.rel_append (List.rel_reverse same.pending)
      related.pending }

theorem addComment (comment : Nat × Text) :
    (one.addComment comment).Relates moves (other.addComment comment) := by
  unfold Harvest.addComment
  split
  · exact { related with replay := by rw [related.replay] }
  · exact related

omit related in
theorem foldl_addComment (comments : List (Nat × Text))
    {one other : Harvest} (related : one.Relates moves other) :
    (comments.foldl Harvest.addComment one).Relates moves
      (comments.foldl Harvest.addComment other) := by
  induction comments generalizing one other with
  | nil => exact related
  | cons comment comments ih => exact ih (related.addComment comment)

end Harvest.Relates

/-! ## Lines -/

/-- Whether a line has the number and the content of another one, and the spans
that start in it are found again there. -/
structure Input.Carries (moves : Relocation) (one other : Input) : Prop where
  body : other.body = one.body
  place : one.place.Carries moves other.place

namespace Input.Carries

variable {one other : Input} (carries : Carries moves one other)

include carries

theorem number : other.number = one.number :=
  carries.place.line

theorem content : other.source.content = one.source.content :=
  carries.place.content

theorem quoted : other.quoted = one.quoted := by
  unfold Input.quoted
  rw [carries.body, carries.content]

theorem closes (opener : Block.Fence) :
    other.closes opener = one.closes opener := by
  unfold Input.closes
  rw [carries.body]

theorem kindOf (masked : Text) (paragraph : Option Paragraph) :
    Scan.kindOf other masked paragraph = Scan.kindOf one masked paragraph := by
  unfold Scan.kindOf
  rw [carries.body, carries.number, carries.quoted]

theorem extendParagraph (paragraph : Option Paragraph) :
    Scan.extendParagraph paragraph other = Scan.extendParagraph paragraph one := by
  unfold Scan.extendParagraph
  rw [carries.body, carries.number, carries.quoted]

theorem listAfter (context : Context) (kind : Kind) :
    Scan.listAfter context other kind = Scan.listAfter context one kind := by
  unfold Scan.listAfter
  rw [carries.body, carries.content]

end Input.Carries

theorem footnoteDefinition?_of_kindOf {input : Input} {masked : Text}
    {paragraph : Option Paragraph} {id : Text} {length : Nat}
    (isFootnote : kindOf input masked paragraph = .footnote id length) :
    Block.footnoteDefinition? masked = some (id, length) := by
  unfold kindOf at isFootnote
  dsimp only at isFootnote
  repeat' split at isFootnote
  all_goals cases isFootnote
  assumption

theorem record_relates {one other : Harvest} (related : one.Relates moves other)
    {input otherInput : Input} (carries : input.Carries moves otherInput)
    {masked : Text} (length : masked.length = input.source.content.length)
    (takesAttributes : Bool) (paragraph : Option Paragraph) :
    (record one input masked takesAttributes
      (kindOf input masked paragraph)).Relates moves
      (record other otherInput masked takesAttributes
        (kindOf input masked paragraph)) := by
  have elements := carries.place.elements length
  cases kind : kindOf input masked paragraph with
  | attributes custom =>
      cases takesAttributes with
      | true => exact related.nameHeading custom
      | false => exact related
  | atx draft => exact (related.addHeading draft).addElements elements
  | setext draft => exact related.addHeading draft
  | definition definition =>
      unfold record
      rw [carries.number]
      exact related.addDefinition _ definition
  | footnote id size =>
      obtain ⟨positive, fits⟩ := Block.bounds_of_footnoteDefinition?
        (footnoteDefinition?_of_kindOf kind)
      have blanked : (Inline.blank masked [⟨0, size⟩]).length = masked.length :=
        Inline.length_blank (List.forall_mem_singleton.mpr
          ⟨Nat.zero_le _, fits⟩)
      have moved := carries.place.moves 0 (length ▸ positive) size
      refine (related.addFootnote ⟨moved, ?_⟩).addElements
        (carries.place.elements (blanked.trans length))
      rw [carries.number]
      rfl
  | prose continues => exact related.addElements elements

/-- Whether two scans are in the same context and have found the same up to the
spans. -/
structure State.Relates (moves : Relocation) (one other : State) : Prop where
  context : other.context = one.context
  harvest : one.harvest.Relates moves other.harvest

namespace State.Relates

variable {one other : State} (related : one.Relates moves other)
  {input otherInput : Input} {lastClose otherClose : Option Nat}

include related

theorem addLine (inCode inFrontMatter : Bool) :
    (one.addLine input inCode inFrontMatter).Relates moves
      (other.addLine otherInput inCode inFrontMatter) :=
  ⟨related.context, related.harvest.addLine _ _ _ _⟩

theorem afterFenced :
    (Scan.afterFenced one).Relates moves (Scan.afterFenced other) := by
  refine ⟨?_, related.harvest⟩
  simp only [Scan.afterFenced, related.context]

theorem openFence (number : otherInput.number = input.number)
    (opener : Block.Fence) :
    (Scan.openFence one input opener).Relates moves
      (Scan.openFence other otherInput opener) := by
  unfold Scan.openFence
  rw [related.context, number]
  exact afterFenced ⟨rfl, related.harvest.closeIndented _⟩

theorem closeFence (number : otherInput.number = input.number) (first : Nat)
    (opener : Block.Fence) :
    (Scan.closeFence one input first opener).Relates moves
      (Scan.closeFence other otherInput first opener) := by
  unfold Scan.closeFence
  rw [related.context, number]
  exact afterFenced ⟨rfl, related.harvest.addCodeBlock _⟩

theorem leaveIndented (carries : input.Carries moves otherInput) :
    (Scan.leaveIndented one input).Relates moves
      (Scan.leaveIndented other otherInput) := by
  unfold Scan.leaveIndented
  rw [related.context, carries.content]
  split
  · exact related
  · exact ⟨rfl, related.harvest.closeIndented _⟩

theorem indented? (carries : input.Carries moves otherInput) :
    Option.Rel (State.Relates moves) (Scan.indented? one input)
      (Scan.indented? other otherInput) := by
  unfold Scan.indented?
  dsimp only
  rw [related.context, carries.content, carries.number]
  repeat' split
  all_goals first
    | exact .none
    | exact .some ⟨rfl, related.harvest⟩

theorem plain (carries : input.Carries moves otherInput)
    (masked : Comment.mask otherInput.place otherClose one.context.comment =
      Comment.mask input.place lastClose one.context.comment) :
    (Scan.plain one input lastClose).Relates moves
      (Scan.plain other otherInput otherClose) := by
  have length := Comment.length_mask input.place lastClose one.context.comment
  unfold Scan.plain
  dsimp only
  rw [related.context, masked, carries.content]
  split
  · exact ⟨rfl, related.harvest.foldl_addComment _⟩
  split
  · exact ⟨rfl, (Harvest.Relates.foldl_addComment _ related.harvest).addElements
      (carries.place.elements length)⟩
  · rw [carries.kindOf, carries.listAfter, carries.extendParagraph]
    exact ⟨rfl, record_relates
      (Harvest.Relates.foldl_addComment _ related.harvest) carries length _ _⟩

theorem indented?_eq_none (carries : input.Carries moves otherInput)
    (noCode : Scan.indented? one input = none) :
    Scan.indented? other otherInput = none := by
  have same := related.indented? carries
  rw [noCode] at same
  generalize Scan.indented? other otherInput = after at same
  cases same
  rfl

theorem unfenced (carries : input.Carries moves otherInput)
    (masked : Scan.indented? one input = none →
      Comment.mask otherInput.place otherClose one.context.comment =
        Comment.mask input.place lastClose one.context.comment) :
    (Scan.unfenced lastClose one input).Relates moves
      (Scan.unfenced otherClose other otherInput) := by
  have same := related.indented? carries
  unfold Scan.unfenced
  generalize Scan.indented? one input = after at same masked ⊢
  generalize Scan.indented? other otherInput = otherAfter at same ⊢
  cases same with
  | some same => exact same.addLine true false
  | none =>
      refine addLine (plain (related.leaveIndented carries) carries ?_)
        false false
      rw [(leaveIndented_keeps one input).2]
      exact masked rfl

end State.Relates

/-- Whether two scans that are in the same context agree on a line: on the fence
that it opens and, if it is no code, on the comments in it. -/
structure Agree (lastClose otherClose : Option Nat) (state : State)
    (input otherInput : Input) : Prop where
  opened : state.context.fence = none →
    opened? state.context otherInput = opened? state.context input
  masked : state.context.fence = none → opened? state.context input = none →
    indented? state input = none →
    Comment.mask otherInput.place otherClose state.context.comment =
      Comment.mask input.place lastClose state.context.comment

/-- Scans that have found the same up to the spans do so behind a line with the
same content on which they agree. -/
theorem step_relates {header : Nat} {lastClose otherClose : Option Nat}
    {one other : State} (related : one.Relates moves other)
    {input otherInput : Input} (carries : input.Carries moves otherInput)
    (agree : header < input.number →
      Agree lastClose otherClose one input otherInput) :
    (step header lastClose one input).Relates moves
      (step header otherClose other otherInput) := by
  have number := carries.number
  rcases Nat.lt_or_ge header input.number with behind | front
  · have otherBehind : header < otherInput.number := number ▸ behind
    obtain ⟨openedEq, maskedEq⟩ := agree behind
    cases fence : one.context.fence with
    | some entry =>
        have otherFence := related.context ▸ fence
        rw [step_of_fence behind fence, step_of_fence otherBehind otherFence,
          carries.closes]
        split
        · exact (related.closeFence number _ _).addLine true false
        · exact related.afterFenced.addLine true false
    | none =>
        have otherFence : other.context.fence = none :=
          related.context ▸ fence
        have otherOpened : opened? other.context otherInput =
            opened? one.context input := by
          rw [related.context]
          exact openedEq fence
        cases opened : opened? one.context input with
        | some opener =>
            rw [step_of_opened behind fence opened,
              step_of_opened otherBehind otherFence (otherOpened.trans opened)]
            exact (related.openFence number opener).addLine true false
        | none =>
            rw [step_of_unfenced behind fence opened,
              step_of_unfenced otherBehind otherFence
                (otherOpened.trans opened)]
            exact related.unfenced carries (maskedEq fence opened)
  · have otherFront : otherInput.number ≤ header := number ▸ front
    rw [step_of_le front, step_of_le otherFront]
    exact related.addLine false true

theorem finish_relates {one other : State} (related : one.Relates moves other) :
    (finish one).Relates moves (finish other) := by
  unfold finish
  rw [related.context]
  split
  · exact (related.harvest.closeIndented _).addComment _
  · exact related.harvest.closeIndented _

end Scan

end AnchorLint
