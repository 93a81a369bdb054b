import AnchorLint.Proofs.Document.Location
import AnchorLint.Proofs.Document.Passes

/-!
# The order of links

The links of a line are recorded pass by pass, and those of an earlier line before
those of a later one.  A document with references sorts all its links in the end.  In
a document without them, an inline link stands before an address that comes earlier
in the same line.
-/

namespace AnchorLint

/-! ## The links of a scan -/

namespace Scan

/-- The links and the references that have been recorded, last first. -/
def Harvest.linking (harvest : Harvest) :
    List Link × List Inline.PendingReference :=
  (harvest.links, harvest.pending)

/-- Whether a line adds nothing, or what is found in a masked form of it. -/
def Adds (place : Inline.Place) (before after : Harvest) : Prop :=
  after.linking = before.linking ∨ ∃ masked, Inline.Shows place.content masked ∧
    after.linking = (before.addElements (place.elements masked)).linking

section

variable {harvest : Harvest}

@[simp]
theorem linking_foldl_addComment (comments : List (Nat × Text)) :
    (comments.foldl Harvest.addComment harvest).linking = harvest.linking := by
  obtain ⟨replay, same⟩ := foldl_addComment_changes harvest comments
  rw [same]
  rfl

@[simp]
theorem linking_addLine (input : Input) (inCode inFrontMatter : Bool) :
    (harvest.addLine input inCode inFrontMatter).linking = harvest.linking :=
  rfl

theorem linking_addElements (elements : Inline.Elements) :
    (harvest.addElements elements).linking =
      (elements.links.reverse ++ harvest.linking.1,
        elements.pending.reverse ++ harvest.linking.2) :=
  rfl

theorem linking_finish (state : State) :
    (finish state).linking = state.harvest.linking := by
  obtain ⟨codeBlocks, replay, same⟩ := finish_changes state
  rw [same]
  rfl

end

section

variable {state after : State} {input : Input}

theorem linking_fenced? (fenced : fenced? state input = some after) :
    after.harvest.linking = state.harvest.linking := by
  obtain ⟨fence, indented, codeBlocks, rfl⟩ := fenced?_changes fenced
  rfl

theorem linking_leaveIndented :
    (leaveIndented state input).harvest.linking = state.harvest.linking := by
  obtain ⟨indented, codeBlocks, same⟩ := leaveIndented_changes state input
  rw [same]
  rfl

theorem adds_record {before harvest : Harvest} (same : harvest.linking = before.linking)
    {masked : Text} (shows_ : Inline.Shows input.source.content masked)
    (takesAttributes : Bool) {kind : Kind}
    (footnote : ∀ id length, kind = .footnote id length →
      Block.footnoteDefinition? masked = some (id, length)) :
    Adds input.place before (record harvest input masked takesAttributes kind) := by
  have added {shown : Text} (shows_ : Inline.Shows input.source.content shown)
      {recorded : Harvest} (unchanged : recorded.linking = harvest.linking) :
      Adds input.place before (recorded.addElements (input.place.elements shown)) := by
    refine Or.inr ⟨shown, shows_, ?_⟩
    rw [linking_addElements, linking_addElements, unchanged, same]
  cases kind with
  | attributes custom =>
      left
      unfold record Harvest.nameHeading
      dsimp only
      repeat' split
      all_goals exact same
  | atx draft => exact added shows_ rfl
  | setext draft => exact Or.inl same
  | definition definition => exact Or.inl same
  | footnote id length =>
      refine added (shows_.blank ?_) rfl
      exact List.forall_mem_singleton.mpr ⟨Nat.zero_le _,
        (Block.bounds_of_footnoteDefinition? (footnote id length rfl)).2⟩
  | prose continues => exact added shows_ rfl

theorem adds_plain {before : Harvest} (same : state.harvest.linking = before.linking)
    (lastClose : Option Nat) :
    Adds input.place before (plain state input lastClose).harvest := by
  have shows_ := Comment.shows_mask input.place lastClose state.context.comment
  have unchanged : ((Comment.mask input.place lastClose state.context.comment).closed.foldl
      Harvest.addComment state.harvest).linking = before.linking :=
    (linking_foldl_addComment _).trans same
  unfold plain
  dsimp only
  split
  · exact Or.inl unchanged
  split
  · refine Or.inr ⟨_, shows_, ?_⟩
    rw [linking_addElements, linking_addElements, unchanged]
  · exact adds_record unchanged shows_ _
      fun id length isFootnote => footnoteDefinition?_of_kindOf isFootnote

theorem adds_step (header : Nat) (lastClose : Option Nat) (state : State)
    (input : Input) :
    Adds input.place state.harvest (step header lastClose state input).harvest := by
  unfold step
  dsimp only
  split
  · exact Or.inl rfl
  split
  · rename_i fenced
    exact Or.inl ((linking_addLine _ _ _).trans (linking_fenced? fenced))
  split
  · rename_i after indented
    have same : after.harvest = state.harvest :=
      @Keeps.indented? (· = state.harvest) _ _ rfl _ indented
    exact Or.inl ((linking_addLine _ _ _).trans (congrArg Harvest.linking same))
  · exact adds_plain linking_leaveIndented lastClose

end

/-- Whether the links and references that have been recorded, last first, start at
different places, but for addresses that were read twice, and are listed in the order
in which they were found. -/
structure Harvest.IsOrdered (harvest : Harvest) : Prop where
  links : harvest.links.Pairwise fun later earlier =>
    earlier.Apart later ∧ earlier.FoundBefore later
  pending : harvest.pending.Pairwise fun later earlier =>
    later.span.start ≠ earlier.span.start
  apart : ∀ link ∈ harvest.links, ∀ reference ∈ harvest.pending,
    link.span.start ≠ reference.span.start

theorem Harvest.isOrdered_congr {first second : Harvest}
    (same : first.linking = second.linking) (ordered : second.IsOrdered) :
    first.IsOrdered := by
  obtain ⟨links, pending⟩ := Prod.mk.inj same
  constructor
  · exact links ▸ ordered.links
  · exact pending ▸ ordered.pending
  · rw [links, pending]
    exact ordered.apart

/-- What a line adds is in order if all that was recorded before stands on earlier
lines. -/
theorem Harvest.IsOrdered.addElements {harvest : Harvest} (ordered : harvest.IsOrdered)
    {place : Inline.Place} {masked : Text}
    (shows_ : Inline.Shows place.content masked)
    (linksBefore : ∀ link ∈ harvest.links,
      link.line < place.line ∧ link.span.start < place.offset)
    (pendingBefore : ∀ reference ∈ harvest.pending,
      reference.span.start < place.offset) :
    (harvest.addElements (place.elements masked)).IsOrdered := by
  have linkHere (link : Link) (member : link ∈ (place.elements masked).links) :
      link.line = place.line ∧ place.offset ≤ link.span.start :=
    have located := Inline.Place.locates_of_elements shows_
      (show (place.elements masked).Holds (.link link) from member)
    ⟨located.1.sameLine, located.1.starts⟩
  have referenceHere (reference : Inline.PendingReference)
      (member : reference ∈ (place.elements masked).pending) :
      place.offset ≤ reference.span.start :=
    (Inline.Place.locates_of_elements shows_
      (show (place.elements masked).Holds (.pending reference) from member)).1.starts
  constructor
  · refine List.pairwise_append.mpr ⟨?_, ordered.links, ?_⟩
    · exact List.pairwise_reverse.mpr (Inline.Place.pairwise_links place masked)
    · intro later inLine earlier recorded
      obtain ⟨line, starts⟩ := linkHere later (List.mem_reverse.mp inLine)
      obtain ⟨lineBefore, startsBefore⟩ := linksBefore earlier recorded
      have before := Nat.lt_of_lt_of_le startsBefore starts
      exact ⟨Or.inl (Nat.ne_of_lt before), Or.inl ⟨line ▸ lineBefore, before⟩⟩
  · refine List.pairwise_append.mpr ⟨?_, ordered.pending, ?_⟩
    · exact List.pairwise_reverse.mpr
        ((Inline.Place.pairwise_pending place masked).imp Ne.symm)
    · intro later inLine earlier recorded
      have starts := referenceHere later (List.mem_reverse.mp inLine)
      have before := pendingBefore earlier recorded
      omega
  · intro link member reference inPending
    rcases List.mem_append.mp member with new | old
    all_goals rcases List.mem_append.mp inPending with newReference | oldReference
    · exact Inline.Place.start_ne_of_mem_pending (List.mem_reverse.mp new)
        (List.mem_reverse.mp newReference)
    · have starts := (linkHere link (List.mem_reverse.mp new)).2
      have before := pendingBefore reference oldReference
      omega
    · have before := (linksBefore link old).2
      have starts := referenceHere reference (List.mem_reverse.mp newReference)
      omega
    · exact ordered.apart link old reference oldReference

/-- Whether a line ends before another one starts. -/
def Input.EndsBefore (first second : Input) : Prop :=
  first.place.line < second.place.line ∧
    first.place.offset + first.place.content.length ≤ second.place.offset

theorem pairwise_inputsFrom (number offset : Nat) (behind : Block.Closers)
    (wholes : List Text) :
    (inputsFrom number offset behind wholes).Pairwise Input.EndsBefore := by
  have later (wholes : List Text) : ∀ number offset : Nat,
      ∀ input ∈ inputsFrom number offset behind wholes,
        number < input.place.line ∧ offset ≤ input.place.offset := by
    induction wholes with
    | nil => simp [inputsFrom]
    | cons whole wholes ih =>
        intro number offset
        refine List.forall_mem_cons.mpr
          ⟨⟨Nat.lt_succ_self number, Nat.le_refl offset⟩, fun input member => ?_⟩
        have bounds := ih _ _ input member
        omega
  induction wholes generalizing number offset with
  | nil => exact List.Pairwise.nil
  | cons whole wholes ih =>
      refine List.pairwise_cons.mpr ⟨fun input member => ?_, ih _ _⟩
      obtain ⟨below, reached⟩ := later wholes _ _ input member
      exact ⟨below, Nat.le_trans
        (Nat.add_le_add_left (length_contentOf_le whole) offset) reached⟩

/-- A scan keeps what it records in order. -/
theorem isOrdered_foldl (header : Nat) (lastClose : Option Nat) {inputs : List Input}
    (apart : inputs.Pairwise Input.EndsBefore) :
    (inputs.foldl (step header lastClose) {}).harvest.IsOrdered := by
  induction inputs using List.reverseRecOn with
  | nil => exact ⟨List.Pairwise.nil, List.Pairwise.nil, by simp⟩
  | append_singleton inputs input ih =>
      obtain ⟨apartBefore, -, behind⟩ := List.pairwise_append.mp apart
      have ordered := ih apartBefore
      rw [List.foldl_append, List.foldl_cons, List.foldl_nil]
      -- What has been recorded stands on one of the lines before.
      have before {element : Inline.Element} {line : Nat} {span : Span}
          (held : (inputs.foldl (step header lastClose) {}).harvest.Holds element)
          (contains : ∀ place : Inline.Place, place.Locates element →
            place.Contains line span) :
          line < input.place.line ∧ span.start < input.place.offset := by
        obtain ⟨first, earlier, rest, cut, -, located⟩ := exists_plain_of_holds held
        obtain ⟨below, ends⟩ := behind earlier (by simp [cut]) input (by simp)
        obtain ⟨sameLine, -, proper, inside⟩ := contains _ located
        omega
      rcases adds_step header lastClose
        (inputs.foldl (step header lastClose) {}) input with same | ⟨masked, shows_, same⟩
      · exact Harvest.isOrdered_congr same ordered
      · refine Harvest.isOrdered_congr same (ordered.addElements shows_ ?_ ?_)
        · exact fun link member => @before (.link link) _ _ member fun _ => And.left
        · exact fun reference member =>
            (@before (.pending reference) _ _ member fun _ => And.left).2

end Scan

namespace Document

/-! ## The links of a document -/

theorem span_of_resolveReference? {definitions : Entries Text ReferenceDefinition}
    {reference : Inline.PendingReference} {link : Link}
    (made : resolveReference? definitions reference = some link) :
    link.span = reference.span := by
  obtain ⟨definition, -, made⟩ := Option.bind_eq_some_iff.mp made
  exact (Inline.of_makeLink? made).2.1

theorem pairwise_apart_allLinks {harvest : Scan.Harvest} (ordered : harvest.IsOrdered) :
    (allLinks harvest.links.reverse harvest.pending.reverse
      harvest.definitions).Pairwise Link.Apart := by
  have own : harvest.links.reverse.Pairwise Link.Apart :=
    List.pairwise_reverse.mpr (ordered.links.imp And.left)
  unfold allLinks
  split
  · exact own
  · refine ((List.mergeSort_perm _ _).pairwise_iff Link.Apart.symm).mpr
      (List.pairwise_append.mpr ⟨own, ?_, ?_⟩)
    · refine List.pairwise_filterMap.mpr (List.pairwise_reverse.mpr
        (ordered.pending.imp ?_))
      intro later earlier different first madeFirst second madeSecond
      left
      rw [span_of_resolveReference? madeFirst, span_of_resolveReference? madeSecond]
      exact different.symm
    · intro link member resolved fromPending
      obtain ⟨reference, inPending, made⟩ := List.mem_filterMap.mp fromPending
      left
      rw [span_of_resolveReference? made]
      exact ordered.apart link (List.mem_reverse.mp member) reference
        (List.mem_reverse.mp inPending)

theorem pairwise_start_allLinks {links : List Link}
    {pending : List Inline.PendingReference} (some_ : pending ≠ [])
    (definitions : Entries Text ReferenceDefinition) :
    (allLinks links pending definitions).Pairwise fun first second =>
      first.span.start ≤ second.span.start := by
  rw [allLinks, if_neg (by simpa using some_)]
  refine (List.pairwise_mergeSort ?_ ?_ _).imp of_decide_eq_true
  · intro first second third one two
    exact decide_eq_true (Nat.le_trans (of_decide_eq_true one) (of_decide_eq_true two))
  · intro first second
    rw [Bool.or_eq_true, decide_eq_true_eq, decide_eq_true_eq]
    exact Nat.le_total _ _

section

variable {dialect : Dialect} {text : Text} {document : Document}
  (indexed : index dialect text = .ok document)

include indexed

/-- Two links of a document start at different places, or are one address in brackets
that was read twice.  A document with references lists its links by their starts, and
one without them in the order in which they are found.  So the starts grow along the
list exactly if no address is read twice and, without references, no link is found on
its line before one that starts earlier. -/
theorem links_in_order :
    document.links.Pairwise Link.Apart ∧
    ((harvestOf text).pending ≠ [] → document.links.Pairwise fun first second =>
      first.span.start ≤ second.span.start) ∧
    ((harvestOf text).pending = [] → document.links.Pairwise Link.FoundBefore) ∧
    (document.links.Pairwise (fun first second =>
        first.span.start < second.span.start) ↔
      document.links.Pairwise (fun first second => ¬ first.ReadTwice second) ∧
      ((harvestOf text).pending = [] → document.links.Pairwise fun first second =>
        first.line = second.line → first.pass < second.pass →
          first.span.start ≤ second.span.start)) := by
  have ordered : (harvestOf text).IsOrdered := by
    rw [harvestOf_eq]
    exact Scan.Harvest.isOrdered_congr (Scan.linking_finish _)
      (Scan.isOrdered_foldl _ _ (Scan.pairwise_inputsFrom 0 0 {} _))
  have isLinks := (isFrom_of_index indexed).links
  have apart : document.links.Pairwise Link.Apart :=
    isLinks ▸ pairwise_apart_allLinks ordered
  have sorted (some_ : (harvestOf text).pending ≠ []) :
      document.links.Pairwise fun first second =>
        first.span.start ≤ second.span.start :=
    isLinks ▸ pairwise_start_allLinks (by simpa using some_) _
  have found (none_ : (harvestOf text).pending = []) :
      document.links.Pairwise Link.FoundBefore := by
    rw [isLinks, allLinks, if_pos (by simp [none_])]
    exact List.pairwise_reverse.mpr (ordered.links.imp And.right)
  refine ⟨apart, sorted, found, ?_, ?_⟩
  · intro strict
    refine ⟨strict.imp fun before twice => ?_, fun _ => strict.imp fun before _ _ =>
      Nat.le_of_lt before⟩
    exact absurd (congrArg Span.start twice.2.2.1) (Nat.ne_of_lt before)
  · rintro ⟨once, inLine⟩
    by_cases none_ : (harvestOf text).pending = []
    · refine (((found none_).and (inLine none_)).and (apart.and once)).imp ?_
      rintro first second ⟨⟨before | ⟨line, pass | ⟨-, before⟩⟩, within⟩, different, notTwice⟩
      · exact before.2
      · exact Nat.lt_of_le_of_ne (within line pass) (different.resolve_right notTwice)
      · exact before
    · refine ((sorted none_).and (apart.and once)).imp ?_
      rintro first second ⟨le, different, notTwice⟩
      exact Nat.lt_of_le_of_ne le (different.resolve_right notTwice)

end

/-- An inline link behind an address. -/
def crossedText : Text :=
  "<http://y.z> [x](a.md)\n".toList

/-- The inline link is listed first, as it is found first. -/
theorem links_in_order_crossed :
    ∃ document, index .github crossedText = .ok document ∧
      document.links.map Link.span = [⟨13, 22⟩, ⟨0, 12⟩] ∧
      document.links.Pairwise Link.Apart ∧ document.links.Pairwise Link.FoundBefore ∧
      ¬ document.links.Pairwise fun first second =>
        first.span.start < second.span.start := by
  have found : (index .github crossedText).toOption.any (fun document =>
      document.links.map Link.span == [⟨13, 22⟩, ⟨0, 12⟩]) = true := by
    decide +kernel
  have none_ : (harvestOf crossedText).pending = [] := by decide +kernel
  obtain ⟨document, indexed, spans⟩ := (Option.any_eq_true _ _).mp found
  have indexed := Outcome.toOption_eq_some.mp indexed
  have spans := beq_iff_eq.mp spans
  obtain ⟨apart, -, inOrder, -⟩ := links_in_order indexed
  refine ⟨document, indexed, spans, apart, inOrder none_, fun increasing => ?_⟩
  have starts : (document.links.map Link.span).Pairwise fun first second =>
      first.start < second.start := List.pairwise_map.mpr increasing
  rw [spans] at starts
  exact absurd starts (by decide)

end Document

end AnchorLint
