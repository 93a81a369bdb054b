import AnchorLint.Proofs.Document.CodeBlock
import AnchorLint.Proofs.Document.Recorded

/-!
# Documents that differ in code only

An index is put together from what a scan has found.  If two scans have found the
same up to the spans, and the spans keep their order, then the two indexes are the
same up to the spans.  In particular this is so for texts that differ inside a
fenced block only.
-/

namespace AnchorLint

/-! ## Indexes of harvests that are the same up to the spans -/

/-- Whether spans are found again by a function that keeps the order of their
starts. -/
structure Relocation.IsMonotone (moves : Relocation) (move : Span → Span) :
    Prop where
  eq : ∀ {line : Nat} {one other : Span}, moves line one other → move one = other
  le_iff : ∀ {line nextLine : Nat} {one other next otherNext : Span},
    moves line one other → moves nextLine next otherNext →
      (one.start ≤ next.start ↔ other.start ≤ otherNext.start)

def Located.moved {α : Type} [Located α] (move : Span → Span) (element : α) : α :=
  Located.withSpan element (move (Located.span element))

namespace Relocation.IsMonotone

variable {moves : Relocation} {move : Span → Span}
  (monotone : moves.IsMonotone move)

include monotone

theorem eq_map {α : Type} [Located α] {elements others : List α}
    (related : List.Forall₂ moves.Relates elements others) :
    others = elements.map (Located.moved move) := by
  induction related with
  | nil => rfl
  | cons here _ ih =>
      obtain ⟨moved, same⟩ := here
      rw [List.map_cons, ← ih, Located.moved, monotone.eq moved, same]

theorem moves_of_mem {α : Type} [Located α] {elements others : List α}
    (related : List.Forall₂ moves.Relates elements others) :
    ∀ element ∈ elements, moves (Located.line element) (Located.span element)
      (move (Located.span element)) := by
  induction related with
  | nil => exact fun _ member => absurd member List.not_mem_nil
  | cons here _ ih =>
      refine List.forall_mem_cons.mpr ⟨?_, ih⟩
      rw [monotone.eq here.1]
      exact here.1

end Relocation.IsMonotone

namespace Document

/-- Whether two documents have the same index, except that spans have moved. -/
structure IsMoved (move : Span → Span) (document other : Document) : Prop where
  headings : other.headings = document.headings
  anchors : other.anchors = document.anchors
  htmlAnchors : other.htmlAnchors = document.htmlAnchors.map fun anchor =>
    { anchor with span := move anchor.span }
  footnoteRefs : other.footnoteRefs = document.footnoteRefs.map fun note =>
    { note with span := move note.span }
  footnoteDefs : other.footnoteDefs = document.footnoteDefs.map fun note =>
    { note with span := move note.span }
  links : other.links = document.links.map fun link =>
    { link with span := move link.span }
  definitions : other.definitions = document.definitions
  regions : other.regions = document.regions
  configuration : other.configuration = document.configuration
  frontMatter : other.frontMatter = document.frontMatter
  frontMatterSpan : other.frontMatterSpan = document.frontMatterSpan
  frontMatterError : other.frontMatterError = document.frontMatterError
  codeBlocks : other.codeBlocks = document.codeBlocks
  flags : other.lines.map (fun line => (line.inCode, line.inFrontMatter)) =
    document.lines.map fun line => (line.inCode, line.inFrontMatter)

section

variable {moves : Relocation} {move : Span → Span}
  (monotone : moves.IsMonotone move)

theorem resolveReference?_relates
    (definitions : Entries Text ReferenceDefinition)
    {reference other : Inline.PendingReference}
    (related : moves.Relates reference other) :
    Option.Rel moves.Relates (resolveReference? definitions reference)
      (resolveReference? definitions other) := by
  obtain ⟨moved, same⟩ := related
  rw [← same]
  unfold resolveReference?
  change Option.Rel _ (Option.bind (definitions.lookup reference.label) _)
    (Option.bind (definitions.lookup reference.label) _)
  cases definitions.lookup reference.label with
  | none => exact .none
  | some definition => exact Inline.makeLink?_relates moved _ _ _ _ _ _

include monotone

theorem map_mergeSort_links {links others : List Link}
    (related : List.Forall₂ moves.Relates links others) :
    (links.mergeSort fun first second =>
      first.span.start ≤ second.span.start).map (Located.moved move) =
      others.mergeSort fun first second =>
        first.span.start ≤ second.span.start := by
  have each := monotone.moves_of_mem related
  rw [monotone.eq_map related]
  refine List.map_mergeSort fun first inFirst second inSecond => ?_
  rw [decide_eq_decide]
  exact monotone.le_iff (each first inFirst) (each second inSecond)

theorem allLinks_relates {harvest other : Scan.Harvest}
    (related : harvest.Relates moves other) :
    allLinks other.links.reverse other.pending.reverse other.definitions =
      (allLinks harvest.links.reverse harvest.pending.reverse
        harvest.definitions).map (Located.moved move) := by
  have links := List.rel_reverse related.links
  have pending := List.rel_reverse related.pending
  have resolved := List.rel_filterMap
    (fun _ _ related => resolveReference?_relates harvest.definitions related)
    pending
  have empty : other.pending.reverse.isEmpty =
      harvest.pending.reverse.isEmpty := by
    rw [Bool.eq_iff_iff, List.isEmpty_iff_length_eq_zero,
      List.isEmpty_iff_length_eq_zero, pending.length_eq]
  unfold allLinks
  rw [related.definitions, empty]
  split
  · exact monotone.eq_map links
  · exact (map_mergeSort_links monotone (List.rel_append links resolved)).symm

theorem isMoved_assemble {harvest other : Scan.Harvest}
    (related : harvest.Relates moves other) (dialect : Dialect)
    {text otherText : Text} (frontMatter : FrontMatter)
    (header : headerSpan? (SourceLine.split otherText) =
      headerSpan? (SourceLine.split text)) :
    (assemble dialect text frontMatter harvest).IsMoved move
      (assemble dialect otherText frontMatter other) := by
  have htmlAnchors := monotone.eq_map (List.rel_reverse related.htmlAnchors)
  have headings : nameHeadings dialect {} other.headings.reverse =
      nameHeadings dialect {} harvest.headings.reverse := by
    rw [related.headings]
  refine ⟨headings, ?_, htmlAnchors, ?_, ?_, allLinks_relates monotone related,
    related.definitions, ?_, ?_, rfl, header, rfl, ?_, ?_⟩
  · change allAnchors _ other.htmlAnchors.reverse =
      allAnchors _ harvest.htmlAnchors.reverse
    rw [headings, htmlAnchors]
    unfold allAnchors
    rw [List.map_map]
    rfl
  · exact monotone.eq_map (List.rel_reverse related.footnoteRefs)
  · exact monotone.eq_map (List.rel_reverse related.footnoteDefs)
  · exact congrArg Replay.regions related.replay
  · exact congrArg Replay.configuration related.replay
  · change other.codeBlocks.reverse.mergeSort _ = _
    rw [related.codeBlocks]
    rfl
  · change other.lines.reverse.map Scan.flags =
      harvest.lines.reverse.map Scan.flags
    rw [List.map_reverse, List.map_reverse, related.flags]

end

/-! ## Exchanging code -/

/-- Whether two texts have the same number of lines and agree on all lines up to
`first` and from `last` on. -/
structure AgreeOutside (first last : Nat) (text other : Text) : Prop where
  length : (SourceLine.wholeLines other).length =
    (SourceLine.wholeLines text).length
  upTo : (SourceLine.wholeLines other).take first =
    (SourceLine.wholeLines text).take first
  onward : (SourceLine.wholeLines other).drop (last - 1) =
    (SourceLine.wholeLines text).drop (last - 1)

def HasFencedBlock (document : Document) (first last : Nat) : Prop :=
  ∃ block ∈ document.codeBlocks,
    block.fence ≠ [] ∧ block.firstLine = first ∧ block.lastLine = last

/-- The lines of a text between two others. -/
def interior (first last : Nat) (text : Text) : Text :=
  (((SourceLine.wholeLines text).take (last - 1)).drop first).flatten

def upTo (last : Nat) (text : Text) : Text :=
  ((SourceLine.wholeLines text).take last).flatten

/-- The harvest of a text in terms of its whole lines. -/
theorem mem_codeBlocks_of_finish {state : Scan.State} {block : CodeBlock}
    (fenced : block.fence ≠ [])
    (member : block ∈ (Scan.finish state).codeBlocks) :
    block ∈ state.harvest.codeBlocks := by
  obtain ⟨replay, same⟩ := Scan.finish_feeds state
  rw [same] at member
  exact Scan.mem_codeBlocks_closeIndented fenced member

/-- A document with a fenced block gives the lines around it. -/
theorem exists_frame_of_index {dialect : Dialect} {text : Text}
    {document : Document} (indexed : index dialect text = .ok document)
    {first last : Nat} (block : document.HasFencedBlock first last) :
    ∃ (frame : Frame) (inside : List Text),
      SourceLine.wholeLines text = frame.fill inside ∧
      frame.before.length + 1 = first ∧
      frame.before.length + inside.length + 2 = last ∧
      frame.HasBlock inside (headerOf (SourceLine.split text))
        (Text.findLast? Comment.closer text) := by
  obtain ⟨frontMatter, -, -, rfl⟩ := exists_of_index indexed
  obtain ⟨block, member, fenced, rfl, rfl⟩ := block
  have harvested : block ∈ (harvestOf text).codeBlocks :=
    List.mem_reverse.mp (List.mem_mergeSort.mp member)
  rw [harvestOf_eq] at harvested
  exact Frame.exists_frame fenced (mem_codeBlocks_of_finish fenced harvested)

end Document

namespace Frame

variable {frame : Frame} {inside otherInside : List Text}

/-- Exchanging the inside of a block keeps the order of what lies outside. -/
theorem isMonotone_moves :
    (frame.moves inside otherInside).IsMonotone
      (Span.exchange (frame.bound inside) inside.flatten.length
        otherInside.flatten.length) := by
  refine ⟨fun moved => moved.2, fun moved movedNext => ?_⟩
  obtain ⟨outside, rfl⟩ := moved
  obtain ⟨outsideNext, rfl⟩ := movedNext
  rw [Span.start_exchange, Span.start_exchange]
  unfold bound at *
  split <;> split <;> omega

theorem fill_eq (frame : Frame) (inside : List Text) :
    frame.fill inside = (frame.before ++ [frame.opening])
      ++ (inside ++ frame.closing :: frame.behind) := by
  simp [fill]

theorem take_fill (frame : Frame) (inside : List Text) :
    (frame.fill inside).take (frame.before.length + 1) =
      frame.before ++ [frame.opening] := by
  rw [fill_eq, List.take_left' (by simp)]

theorem drop_fill_inside (frame : Frame) (inside : List Text) :
    (frame.fill inside).drop (frame.before.length + 1) =
      inside ++ frame.closing :: frame.behind := by
  rw [fill_eq, List.drop_left' (by simp)]

/-- The lines up to the one that opens the block do not depend on its inside. -/
theorem split_of_fill {text : Text}
    (wholes : SourceLine.wholeLines text = frame.fill inside) :
    SourceLine.split text =
      SourceLine.placeFrom 0 (frame.before ++ [frame.opening])
        ++ SourceLine.placeFrom frame.low
          (inside ++ frame.closing :: frame.behind) := by
  rw [SourceLine.split_eq_placeFrom, wholes, fill_eq,
    SourceLine.placeFrom_append]
  simp [low]

theorem eq_of_agreeOutside {first last : Nat} {text other : Text}
    (agree : Document.AgreeOutside first last text other)
    (wholes : SourceLine.wholeLines text = frame.fill inside)
    (begins : frame.before.length + 1 = first)
    (ends : frame.before.length + inside.length + 2 = last)
    {otherFrame : Frame}
    (otherWholes : SourceLine.wholeLines other = otherFrame.fill otherInside)
    (otherBegins : otherFrame.before.length + 1 = first)
    (otherEnds : otherFrame.before.length + otherInside.length + 2 = last) :
    otherFrame = frame ∧ otherInside.length = inside.length := by
  have upTo := agree.upTo
  have onward := agree.onward
  rw [wholes, otherWholes] at upTo onward
  have length : otherInside.length = inside.length := by omega
  have opening : otherFrame.before ++ [otherFrame.opening] =
      frame.before ++ [frame.opening] := by
    rw [← take_fill, ← take_fill, otherBegins, begins, upTo]
  have closing : otherFrame.closing :: otherFrame.behind =
      frame.closing :: frame.behind := by
    have cut (frame : Frame) (inside : List Text) :
        (frame.fill inside).drop (frame.before.length + 1 + inside.length) =
          frame.closing :: frame.behind := by
      rw [← List.drop_drop, drop_fill_inside, List.drop_left]
    have here : last - 1 = frame.before.length + 1 + inside.length := by omega
    have there : last - 1 =
        otherFrame.before.length + 1 + otherInside.length := by
      omega
    rw [← cut otherFrame otherInside, ← cut frame inside, ← here, ← there,
      onward]
  obtain ⟨beforeEq, openingEq⟩ := List.append_inj' opening rfl
  cases frame
  cases otherFrame
  simp_all

end Frame

namespace Document

variable {frame : Frame} {inside : List Text} {text : Text}

theorem length_upTo_of_fill
    (wholes : SourceLine.wholeLines text = frame.fill inside) :
    (upTo (frame.before.length + inside.length + 2) text).length =
      frame.bound inside := by
  have cut : frame.fill inside = (frame.before ++ frame.opening ::
      (inside ++ [frame.closing])) ++ frame.behind := by
    simp [Frame.fill]
  have length : (frame.before ++ frame.opening ::
      (inside ++ [frame.closing])).length =
        frame.before.length + inside.length + 2 := by
    simp [Nat.add_assoc]
  rw [upTo, wholes, cut, ← length, List.take_left]
  simp [Frame.bound, Frame.low, Nat.add_assoc]

theorem interior_of_fill
    (wholes : SourceLine.wholeLines text = frame.fill inside) :
    interior (frame.before.length + 1) (frame.before.length + inside.length + 2)
      text = inside.flatten := by
  have count : frame.before.length + inside.length + 2 - 1 =
      frame.before.length + 1 + inside.length := by
    omega
  rw [interior, wholes, count, List.drop_take, Frame.drop_fill_inside,
    Nat.add_sub_cancel_left, List.take_left]

theorem frontMatterBlock?_of_fill {otherInside : List Text} {other : Text}
    (wholes : SourceLine.wholeLines text = frame.fill inside)
    (otherWholes : SourceLine.wholeLines other = frame.fill otherInside)
    (header : headerOf (SourceLine.split text) < frame.before.length + 1)
    (otherHeader : headerOf (SourceLine.split other) <
      frame.before.length + 1) :
    frontMatterBlock? (SourceLine.split other) =
        frontMatterBlock? (SourceLine.split text) ∧
      headerSpan? (SourceLine.split other) =
        headerSpan? (SourceLine.split text) := by
  rw [Frame.split_of_fill wholes] at header ⊢
  rw [Frame.split_of_fill otherWholes] at otherHeader ⊢
  have length : (SourceLine.placeFrom 0
      (frame.before ++ [frame.opening])).length = frame.before.length + 1 := by
    simp
  rw [← length] at header otherHeader
  have same := frontMatterBlock?_congr (Nat.le_of_lt header)
    (Nat.le_of_lt otherHeader)
  refine ⟨same, ?_⟩
  have headerEq : headerOf _ = headerOf _ :=
    congrArg (fun block => (block.map fun found => found.2.2).getD 0) same
  unfold headerSpan?
  rw [headerEq, List.getElem?_append_left, List.getElem?_append_left]
  · omega
  · omega

/-- Code does not leak: texts that agree outside a fenced block of both have the
same index, except that the spans behind the block move by the difference of the
lengths of its insides. -/
theorem isMoved_of_agreeOutside {dialect : Dialect} {other : Text}
    {document counterpart : Document} {first last : Nat}
    (indexed : index dialect text = .ok document)
    (otherIndexed : index dialect other = .ok counterpart)
    (agree : AgreeOutside first last text other)
    (block : document.HasFencedBlock first last)
    (otherBlock : counterpart.HasFencedBlock first last) :
    document.IsMoved
      (Span.exchange (upTo last text).length (interior first last text).length
        (interior first last other).length) counterpart := by
  obtain ⟨frame, inside, wholes, begins, ends, hasBlock⟩ :=
    exists_frame_of_index indexed block
  obtain ⟨otherFrame, otherInside, otherWholes, otherBegins, otherEnds,
    otherHasBlock⟩ := exists_frame_of_index otherIndexed otherBlock
  obtain ⟨rfl, length⟩ := Frame.eq_of_agreeOutside agree wholes begins ends
    otherWholes otherBegins otherEnds
  obtain ⟨frontMatterEq, headerSpan⟩ := frontMatterBlock?_of_fill wholes
    otherWholes hasBlock.header_lt otherHasBlock.header_lt
  have headerEq : headerOf (SourceLine.split other) =
      headerOf (SourceLine.split text) :=
    congrArg (fun block => (block.map fun found => found.2.2).getD 0)
      frontMatterEq
  have related : (harvestOf text).Relates (otherFrame.moves inside otherInside)
      (harvestOf other) := by
    have closeEq : Text.findLast? Comment.closer text =
        Text.findLast? Comment.closer (otherFrame.fill inside).flatten := by
      rw [← wholes, SourceLine.flatten_wholeLines]
    have otherCloseEq : Text.findLast? Comment.closer other =
        Text.findLast? Comment.closer (otherFrame.fill otherInside).flatten := by
      rw [← otherWholes, SourceLine.flatten_wholeLines]
    rw [closeEq] at hasBlock
    rw [otherCloseEq, headerEq] at otherHasBlock
    rw [harvestOf_eq, harvestOf_eq, headerEq, wholes, otherWholes, closeEq,
      otherCloseEq]
    exact Scan.finish_relates
      (Frame.relates_of_hasBlock length hasBlock otherHasBlock)
  obtain ⟨frontMatter, decoded, -, rfl⟩ := exists_of_index indexed
  obtain ⟨otherFrontMatter, otherDecoded, -, rfl⟩ :=
    exists_of_index otherIndexed
  have same : otherFrontMatter = frontMatter := by
    unfold frontMatterOf at decoded otherDecoded
    rw [frontMatterEq, decoded] at otherDecoded
    exact (Except.ok.inj otherDecoded).symm
  have otherInterior := interior_of_fill otherWholes
  rw [otherBegins, otherEnds] at otherInterior
  rw [← begins, ← ends, length_upTo_of_fill wholes, interior_of_fill wholes,
    begins, ends, otherInterior, same]
  exact isMoved_assemble Frame.isMonotone_moves related dialect frontMatter
    headerSpan

/-- A link, a block of code with one line, and an anchor. -/
def fencedText (inside : String) : Text :=
  ("[a](b.md)\n```\n" ++ inside ++ "\n```\n<a id=x></a>\n").toList

/-- The line in the block looks like the end of a comment in one text, and like a
heading with the start of a comment in the other. -/
theorem isMoved_of_agreeOutside_comment :
    ∃ document counterpart : Document,
      index .github (fencedText "-->") = .ok document ∧
      index .github (fencedText "# No heading <!--") = .ok counterpart ∧
      AgreeOutside 2 4 (fencedText "-->") (fencedText "# No heading <!--") ∧
      document.HasFencedBlock 2 4 ∧ counterpart.HasFencedBlock 2 4 ∧
      document.IsMoved (Span.exchange 22 4 18) counterpart := by
  have hasBlock (inside : String) : (index .github
      (fencedText inside)).toOption.any (fun document =>
        document.codeBlocks.any fun block => !block.fence.isEmpty
          && block.firstLine == 2 && block.lastLine == 4) = true →
      ∃ document, index .github (fencedText inside) = .ok document ∧
        document.HasFencedBlock 2 4 := by
    intro found
    obtain ⟨document, indexed, found⟩ := (Option.any_eq_true _ _).mp found
    obtain ⟨block, member, isBlock⟩ := List.any_eq_true.mp found
    simp only [Bool.and_eq_true, Bool.not_eq_true', List.isEmpty_eq_false_iff,
      beq_iff_eq] at isBlock
    exact ⟨document, Outcome.toOption_eq_some.mp indexed, block, member,
      isBlock.1.1, isBlock.1.2, isBlock.2⟩
  obtain ⟨document, indexed, block⟩ := hasBlock "-->" (by decide +kernel)
  obtain ⟨counterpart, otherIndexed, otherBlock⟩ :=
    hasBlock "# No heading <!--" (by decide +kernel)
  have agree : AgreeOutside 2 4 (fencedText "-->")
      (fencedText "# No heading <!--") :=
    ⟨by decide +kernel, by decide +kernel, by decide +kernel⟩
  exact ⟨document, counterpart, indexed, otherIndexed, agree, block, otherBlock,
    isMoved_of_agreeOutside indexed otherIndexed agree block otherBlock⟩

end Document

end AnchorLint
