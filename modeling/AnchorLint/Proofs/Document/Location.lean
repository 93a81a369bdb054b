import AnchorLint.Proofs.Document.LineTable
import AnchorLint.Proofs.Document.Links
import Mathlib.Data.List.TakeDrop
import Mathlib.Data.List.TakeWhile

/-!
# Where elements are

Elements are looked for in masked lines, in parts of them, and in what is left of
them once other elements have been read.  This file shows that the index still
says where they stand in the text: every element is on a plain line, its span is
not empty and lies in the content of that line, and the marks of footnotes can be
read back from the text.  From a span the line is found again by bisection.
-/

namespace AnchorLint

/-! ## Elements of a line -/

namespace Block

theorem footnoteMark?_eq_some {text id after : Text}
    (marked : footnoteMark? text = some (id, after)) :
    text = "[^".toList ++ id ++ "]".toList ++ after ∧ ' ' ∉ id := by
  unfold footnoteMark? at marked
  split at marked
  · rename_i inside
    rw [List.span_eq_takeWhile_dropWhile] at marked
    split at marked
    · rename_i found rest parts
      obtain ⟨rfl, rest⟩ := Prod.mk.inj parts
      split at marked
      · cases marked
      · obtain ⟨rfl, rfl⟩ := Prod.mk.inj (Option.some.inj marked)
        refine ⟨?_, fun space => ?_⟩
        · have parts := @List.takeWhile_append_dropWhile _
            (fun c => c != ']' && !Unicode.isBlank c) inside
          rw [rest] at parts
          conv_lhs => rw [← parts]
          simp
        · have solid := List.mem_takeWhile_imp space
          exact absurd solid (by decide)
    · cases marked
  · cases marked

theorem footnoteDefinition?_eq_some {line id : Text} {length : Nat}
    (defined : footnoteDefinition? line = some (id, length)) :
    ∃ indent after,
      line = indent ++ (("[^".toList ++ id ++ "]:".toList) ++ after) ∧
      length = indent.length + ("[^".toList ++ id ++ "]:".toList).length ∧
      ' ' ∉ id := by
  unfold footnoteDefinition? at defined
  split at defined
  · rename_i found after marked
    obtain ⟨rfl, rfl⟩ := Prod.mk.inj (Option.some.inj defined)
    obtain ⟨equal, solid⟩ := footnoteMark?_eq_some marked
    have parts : line = line.takeWhile isIndent
        ++ (("[^".toList ++ found ++ "]:".toList) ++ after) := by
      conv_lhs => rw [← @List.takeWhile_append_dropWhile _ isIndent line, equal]
      simp
    refine ⟨line.takeWhile isIndent, after, parts, ?_, solid⟩
    have lengths := congrArg List.length parts
    rw [List.length_append, List.length_append] at lengths
    omega
  · cases defined

end Block

namespace Inline

/-- What is recorded with its place in the text. -/
inductive Element where
  | anchor (anchor : HtmlAnchor)
  | reference (note : Footnote)
  | definition (note : Footnote)
  | link (link : Link)
  | pending (reference : PendingReference)

/-- Whether an element is among those of a line. -/
def Elements.Holds (elements : Elements) : Element → Prop
  | .anchor anchor => anchor ∈ elements.htmlAnchors
  | .reference note => note ∈ elements.footnotes
  | .definition _ => False
  | .link link => link ∈ elements.links
  | .pending reference => reference ∈ elements.pending

namespace Place

/-- Whether a span on a line is not empty and lies in the content at a place. -/
structure Contains (place : Place) (line : Nat) (span : Span) : Prop where
  sameLine : line = place.line
  starts : place.offset ≤ span.start
  proper : span.start < span.stop
  ends : span.stop ≤ place.offset + place.content.length

/-- What a span covers at a place. -/
def covered (place : Place) (span : Span) : Text :=
  place.content.slice (span.start - place.offset) (span.stop - place.offset)

/-- Whether an element is where it says, at a place. -/
def Locates (place : Place) : Element → Prop
  | .anchor anchor => place.Contains anchor.line anchor.span
  | .reference note => place.Contains note.line note.span ∧
      place.covered note.span = "[^".toList ++ note.id ++ "]".toList
  | .definition note => place.Contains note.line note.span ∧
      "[^".toList ++ note.id ++ "]:".toList <:+ place.covered note.span
  | .link link => place.Contains link.line link.span ∧
      link.column + place.offset = link.span.start + 1
  | .pending reference => place.Contains reference.line reference.span ∧
      reference.column + place.offset = reference.span.start + 1

variable {place : Place} {masked : Text}

theorem contains_span {α : Type} {pattern : Pattern α} {found : Found α}
    (shows_ : Shows place.content masked)
    (isMatch : Pattern.IsMatch pattern masked found) :
    place.Contains place.line (place.span found) := by
  have proper := isMatch.lt_stop
  have ends := isMatch.stop_le
  rw [shows_.length] at ends
  exact ⟨rfl, Nat.le_add_right _ _, Nat.add_lt_add_left proper _,
    Nat.add_le_add_left ends _⟩

theorem locates_of_makeLink? {target : Text} {line column : Nat} {span : Span}
    {text : Text} {style : LinkStyle} {reference : Option Text}
    {isImage : Bool} {link : Link}
    (made : makeLink? target line column span text style reference isImage =
      some link)
    (contains : place.Contains line span)
    (columns : column + place.offset = span.start + 1) :
    place.Locates (.link link) := by
  unfold makeLink? at made
  split at made
  · cases made
  · obtain rfl := Option.some.inj made
    exact ⟨contains, columns⟩

theorem locates_addressLink? {pattern : Pattern Text} {found : Found Text}
    (shows_ : Shows place.content masked)
    (isMatch : Pattern.IsMatch pattern masked found) {target : Text}
    {link : Link} (made : place.addressLink? found target = some link) :
    place.Locates (.link link) := by
  refine locates_of_makeLink? made (contains_span shows_ isMatch) ?_
  simp only [span]
  omega

theorem locates_inlineLinks {found : Found Written}
    (shows_ : Shows place.content masked)
    (isMatch : Pattern.IsMatch Inline.inlineLink masked found) {link : Link}
    (member : link ∈ place.inlineLinks found) : place.Locates (.link link) := by
  rcases List.mem_append.mp member with own | inner
  · have made := Option.mem_toList.mp own
    refine locates_of_makeLink? made ?_ ?_
    · rw [Nat.add_zero]
      exact contains_span shows_ isMatch
    · simp only
      omega
  · obtain ⟨part, inText, made⟩ := List.mem_filterMap.mp inner
    obtain ⟨before, after, read, -⟩ := isMatch.reads
    -- The text of the outer link ends before the outer match does.
    have fits := textOffset_add_length_lt read
    have innerMatch := Pattern.isMatch_of_mem_findAll inText
    have proper := innerMatch.lt_stop
    have ends := innerMatch.stop_le
    have length := shows_.length
    rw [List.length_drop] at fits
    refine locates_of_makeLink? made ⟨rfl, ?_, ?_, ?_⟩ ?_
    · dsimp only
      omega
    · dsimp only
      omega
    · dsimp only
      omega
    · dsimp only
      omega

theorem locates_reference {pattern : Pattern Written} {found : Found Written}
    (shows_ : Shows place.content masked)
    (isMatch : Pattern.IsMatch pattern masked found) :
    place.Locates (.pending (place.reference found)) := by
  refine ⟨contains_span shows_ isMatch, ?_⟩
  simp only [reference, span]
  omega

/-- What a word at a place covers. -/
theorem slice_of_prefix {content word : Text} {start : Nat}
    (here : word <+: content.drop start) :
    content.slice start (start + word.length) = word := by
  rw [Text.slice, Nat.add_sub_cancel_left]
  exact (List.prefix_iff_eq_take.mp here).symm

theorem locates_footnote {found : Found Text}
    (shows_ : Shows place.content masked)
    (isMatch : Pattern.IsMatch footnoteReference masked found) :
    place.Locates
      (.reference ⟨found.value, place.line, place.span found⟩) := by
  refine ⟨contains_span shows_ isMatch, ?_⟩
  obtain ⟨before, after, read, stop⟩ := isMatch.reads
  obtain ⟨equal, solid⟩ := Block.footnoteMark?_eq_some read
  have solidMark : ' ' ∉ "[^".toList ++ found.value ++ "]".toList := by
    simpa using solid
  have length := congrArg List.length equal
  have stopEq : found.stop = found.start
      + ("[^".toList ++ found.value ++ "]".toList).length := by
    have := isMatch.lt_stop
    have := isMatch.stop_le
    simp only [List.length_drop, List.length_append] at length ⊢
    have two : "[^".toList.length = 2 := rfl
    have one : "]".toList.length = 1 := rfl
    omega
  have shown : "[^".toList ++ found.value ++ "]".toList <+:
      masked.drop found.start := equal ▸ List.prefix_append _ _
  have covered := slice_of_prefix (shows_.prefix_drop solidMark shown)
  rw [← stopEq] at covered
  simpa [Place.covered, span] using covered

theorem locates_definition {id : Text} {length : Nat}
    (shows_ : Shows place.content masked)
    (defined : Block.footnoteDefinition? masked = some (id, length)) :
    place.Locates (.definition
      ⟨id, place.line, ⟨place.offset, place.offset + length⟩⟩) := by
  obtain ⟨indent, after, equal, rfl, solid⟩ :=
    Block.footnoteDefinition?_eq_some defined
  have solidMark : ' ' ∉ "[^".toList ++ id ++ "]:".toList := by
    simpa using solid
  have lengths := congrArg List.length equal
  have sameLength := shows_.length
  rw [List.length_append, List.length_append] at lengths
  have shown : "[^".toList ++ id ++ "]:".toList <+:
      masked.drop indent.length := by
    rw [equal, List.drop_left]
    exact List.prefix_append _ _
  refine ⟨⟨rfl, Nat.le_refl _, ?_, ?_⟩, ?_⟩
  · have marked : 0 < ("[^".toList ++ id ++ "]:".toList).length := by simp
    dsimp only
    omega
  · dsimp only
    omega
  · have here := shows_.prefix_drop solidMark shown
    rw [covered, Nat.sub_self, Nat.add_sub_cancel_left, Text.slice, List.drop_zero,
      Nat.sub_zero, List.take_add, ← List.prefix_iff_eq_take.mp here]
    exact List.suffix_append _ _

theorem locates_of_elements (shows_ : Shows place.content masked)
    {element : Element} (held : (place.elements masked).Holds element) :
    place.Locates element := by
  cases element with
  | anchor anchor =>
      obtain ⟨found, member, inTag⟩ := List.mem_flatMap.mp held
      obtain ⟨id, -, rfl⟩ := List.mem_map.mp inTag
      exact contains_span shows_ (Pattern.isMatch_of_mem_findAll member)
  | reference note =>
      obtain ⟨found, member, rfl⟩ := List.mem_map.mp held
      exact locates_footnote shows_ (Pattern.isMatch_of_mem_findAll member)
  | definition note => cases held
  | link link =>
      rcases List.mem_append.mp held with others | bare
      · rcases List.mem_append.mp others with others | mail
        · rcases List.mem_append.mp others with inline | address
          · obtain ⟨found, member, inFound⟩ := List.mem_flatMap.mp inline
            exact locates_inlineLinks shows_
              (Pattern.isMatch_of_mem_findAll member) inFound
          · obtain ⟨found, member, made⟩ := List.mem_filterMap.mp address
            exact locates_addressLink? shows_.unreferenced
              (Pattern.isMatch_of_mem_findAll member) made
        · obtain ⟨found, member, made⟩ := List.mem_filterMap.mp mail
          exact locates_addressLink? shows_.unreferenced
            (Pattern.isMatch_of_mem_findAll member) made
      · obtain ⟨found, member, made⟩ := List.mem_filterMap.mp bare
        exact locates_addressLink? shows_.unaddressed
          (Pattern.isMatch_of_mem_findAll member) made
  | pending reference =>
      obtain ⟨found, member, rfl⟩ := List.mem_map.mp held
      rcases List.mem_append.mp member with full | shortcut
      · exact locates_reference shows_.unlinked
          (Pattern.isMatch_of_mem_findAll full)
      · exact locates_reference shows_.unlabelled
          (Pattern.isMatch_of_mem_findAll (List.mem_filter.mp shortcut).1)

end Place

end Inline

/-! ## Elements of a scan -/

namespace Scan

/-- Whether an element has been recorded. -/
def Harvest.Holds (harvest : Harvest) : Inline.Element → Prop
  | .anchor anchor => anchor ∈ harvest.htmlAnchors
  | .reference note => note ∈ harvest.footnoteRefs
  | .definition note => note ∈ harvest.footnoteDefs
  | .link link => link ∈ harvest.links
  | .pending reference => reference ∈ harvest.pending

section

variable {harvest : Harvest} {element : Inline.Element}

@[simp]
theorem holds_foldl_addComment (comments : List (Nat × Text)) :
    (comments.foldl Harvest.addComment harvest).Holds element ↔
      harvest.Holds element := by
  obtain ⟨replay, same⟩ := foldl_addComment_changes harvest comments
  rw [same]
  cases element <;> rfl

@[simp]
theorem holds_addLine (input : Input) (inCode inFrontMatter : Bool) :
    (harvest.addLine input inCode inFrontMatter).Holds element ↔
      harvest.Holds element := by
  cases element <;> rfl

theorem holds_fenced? {state after : State} {input : Input}
    (fenced : fenced? state input = some after) :
    after.harvest.Holds element ↔ state.harvest.Holds element := by
  obtain ⟨fence, indented, codeBlocks, rfl⟩ := fenced?_changes fenced
  cases element <;> rfl

theorem holds_leaveIndented {state : State} {input : Input} :
    (leaveIndented state input).harvest.Holds element ↔
      state.harvest.Holds element := by
  obtain ⟨indented, codeBlocks, same⟩ := leaveIndented_changes state input
  rw [same]
  cases element <;> rfl

theorem holds_addElements (elements : Inline.Elements) :
    (harvest.addElements elements).Holds element ↔
      elements.Holds element ∨ harvest.Holds element := by
  cases element <;>
    simp [Harvest.addElements, Harvest.Holds, Inline.Elements.Holds]

theorem holds_record {input : Input} {masked : Text} {takesAttributes : Bool}
    {kind : Kind} (shows_ : Inline.Shows input.source.content masked)
    (footnote : ∀ id length, kind = .footnote id length →
      Block.footnoteDefinition? masked = some (id, length))
    (held : (record harvest input masked takesAttributes kind).Holds element) :
    harvest.Holds element ∨ input.place.Locates element := by
  have locates {shown : Text} (shows_ : Inline.Shows input.source.content shown)
      (held : (input.place.elements shown).Holds element) :
      input.place.Locates element :=
    Inline.Place.locates_of_elements shows_ held
  cases kind with
  | attributes custom =>
      left
      unfold record Harvest.nameHeading at held
      dsimp only at held
      repeat' split at held
      all_goals cases element <;> exact held
  | atx draft =>
      rcases (holds_addElements _).mp held with new | old
      · exact Or.inr (locates shows_ new)
      · left
        cases element <;> exact old
  | setext draft =>
      left
      cases element <;> exact held
  | definition definition =>
      left
      cases element <;> exact held
  | footnote id length =>
      have defined := footnote id length rfl
      rcases (holds_addElements _).mp held with new | old
      · right
        refine locates (shows_.blank ?_) new
        exact List.forall_mem_singleton.mpr ⟨Nat.zero_le _,
          (Block.bounds_of_footnoteDefinition? defined).2⟩
      · cases element with
        | definition note =>
            rcases List.mem_cons.mp old with rfl | earlier
            · exact Or.inr (Inline.Place.locates_definition shows_ defined)
            · exact Or.inl earlier
        | anchor anchor => exact Or.inl old
        | reference note => exact Or.inl old
        | link link => exact Or.inl old
        | pending reference => exact Or.inl old
  | prose continues =>
      rcases (holds_addElements _).mp held with new | old
      · exact Or.inr (locates shows_ new)
      · exact Or.inl old

theorem holds_plain {state : State} {input : Input} {lastClose : Option Nat}
    (held : (plain state input lastClose).harvest.Holds element) :
    state.harvest.Holds element ∨ input.place.Locates element := by
  have shows_ := Comment.shows_mask input.place lastClose state.context.comment
  unfold plain at held
  dsimp only at held
  split at held
  · exact Or.inl ((holds_foldl_addComment _).mp held)
  split at held
  · rcases (holds_addElements _).mp held with new | old
    · exact Or.inr (Inline.Place.locates_of_elements shows_ new)
    · exact Or.inl ((holds_foldl_addComment _).mp old)
  · refine (holds_record shows_ ?_ held).imp_left
      (holds_foldl_addComment _).mp
    exact fun id length isFootnote => footnoteDefinition?_of_kindOf isFootnote

/-- Only plain lines add elements, and these are where they say. -/
theorem holds_step {header : Nat} {lastClose : Option Nat} {state : State}
    {input : Input}
    (held : (step header lastClose state input).harvest.Holds element) :
    state.harvest.Holds element ∨
      isPlain header state input = true ∧ input.place.Locates element := by
  by_cases isPlainLine : isPlain header state input = true
  · rw [step_of_isPlain isPlainLine] at held
    rcases holds_plain ((holds_addLine _ _ _).mp held) with old | new
    · exact Or.inl (holds_leaveIndented.mp old)
    · exact Or.inr ⟨isPlainLine, new⟩
  · left
    unfold step at held
    dsimp only at held
    split at held
    · exact (holds_addLine _ _ _).mp held
    · rename_i behind
      split at held
      · rename_i after fenced
        exact (holds_fenced? fenced).mp ((holds_addLine _ _ _).mp held)
      · rename_i unfenced
        split at held
        · rename_i after indented
          have same : after.harvest = state.harvest :=
            @Keeps.indented? (· = state.harvest) _ _ rfl _ indented
          exact same ▸ (holds_addLine _ _ _).mp held
        · rename_i unindented
          refine absurd ?_ isPlainLine
          simp [isPlain, isCode, unfenced, unindented, Nat.lt_of_not_le behind]

/-- What a scan has recorded stands on one of its plain lines. -/
theorem exists_plain_of_holds {header : Nat} {lastClose : Option Nat}
    {inputs : List Input}
    (held : (inputs.foldl (step header lastClose) {}).harvest.Holds element) :
    ∃ before input after, inputs = before ++ input :: after ∧
      isPlain header (before.foldl (step header lastClose) {}) input = true ∧
      input.place.Locates element := by
  induction inputs using List.reverseRecOn with
  | nil => cases element <;> cases held
  | append_singleton inputs input ih =>
      rw [List.foldl_append, List.foldl_cons, List.foldl_nil] at held
      rcases holds_step held with old | ⟨isPlainLine, located⟩
      · obtain ⟨before, found, after, rfl, here⟩ := ih old
        exact ⟨before, found, after ++ [input], by simp, here⟩
      · exact ⟨inputs, input, [], rfl, isPlainLine, located⟩

theorem holds_finish {state : State} :
    (finish state).Holds element ↔ state.harvest.Holds element := by
  obtain ⟨codeBlocks, replay, same⟩ := finish_changes state
  rw [same]
  cases element <;> rfl

end

end Scan

/-! ## Elements of a document -/

namespace Document

/-- Whether a span on a line of a document is not empty and lies in the content of
the line, and the line is neither code nor front matter. -/
structure Places (document : Document) (number : Nat) (line : Line)
    (span : Span) : Prop where
  positive : 1 ≤ number
  found : document.lines[number - 1]? = some line
  notCode : line.inCode = false
  notFrontMatter : line.inFrontMatter = false
  starts : line.span.start ≤ span.start
  proper : span.start < span.stop
  ends : span.stop ≤ line.span.start + (SourceLine.contentOf
    (document.text.slice line.span.start line.span.stop)).length

theorem exists_of_holds {text : Text} {element : Inline.Element}
    (held : (harvestOf text).Holds element) :
    ∃ before input after, scanned text = before ++ input :: after ∧
      Scan.isPlain (headerOf (SourceLine.split text)) (stateBehind text before)
        input = true ∧
      input.place.Locates element := by
  rw [harvestOf_eq, Scan.holds_finish] at held
  exact Scan.exists_plain_of_holds held

section

variable {dialect : Dialect} {text : Text} {document : Document}
  (indexed : index dialect text = .ok document)

include indexed

theorem text_of_index : document.text = text := by
  obtain ⟨frontMatter, -, -, rfl⟩ := exists_of_index indexed
  rfl

/-- What a plain line contains is placed in the document. -/
theorem exists_places_of_contains {before after : List Scan.Input}
    {input : Scan.Input} (cut : scanned text = before ++ input :: after)
    (isPlainLine : Scan.isPlain (headerOf (SourceLine.split text))
      (stateBehind text before) input = true)
    {number : Nat} {span : Span} (contains : input.place.Contains number span) :
    ∃ line, document.Places number line span ∧
      line.span.start = input.place.offset ∧
      document.text.slice span.start span.stop = input.place.covered span := by
  have recorded := @Scan.getElem?_linesFrom (headerOf (SourceLine.split text))
    (Text.findLast? Comment.closer text) _ _ _ _ cut {}
  rw [← lines_of_index indexed] at recorded
  obtain ⟨first, whole, rest, wholes, same, rfl, -⟩ := exists_cut_of_scanned cut
  rw [Scan.isPlain, Bool.and_eq_true, Bool.not_eq_true', decide_eq_true_eq]
    at isPlainLine
  obtain ⟨behind, notCode⟩ := isPlainLine
  obtain ⟨rfl, starts, proper, ends⟩ := contains
  obtain ⟨start, stop⟩ := span
  obtain ⟨start, rfl⟩ := Nat.exists_eq_add_of_le starts
  obtain ⟨stop, rfl⟩ := Nat.exists_eq_add_of_le
    (Nat.le_trans starts (Nat.le_of_lt proper))
  have inside := Nat.le_of_add_le_add_left ends
  have ordered := Nat.le_of_lt (Nat.lt_of_add_lt_add_left proper)
  rw [same] at recorded
  refine ⟨_, ⟨?_, recorded, notCode, ?_, starts, proper, ?_⟩, rfl, ?_⟩
  · exact Nat.le_add_left _ _
  · exact decide_eq_false (Nat.not_le_of_lt behind)
  · rw [text_of_index indexed]
    change _ ≤ first.flatten.length + (SourceLine.contentOf (text.slice
      first.flatten.length (first.flatten.length + whole.length))).length
    rw [slice_of_wholeLines wholes]
    exact ends
  · rw [text_of_index indexed, Inline.Place.covered]
    dsimp only
    rw [Nat.add_sub_cancel_left, Nat.add_sub_cancel_left]
    exact slice_of_content wholes ordered inside

/-- Bisection ends on the line on which a span is placed. -/
theorem lineAt_of_places {number : Nat} {line : Line} {span : Span}
    (places : document.Places number line span) :
    document.lineAt span.start = number := by
  obtain ⟨positive, found, -, -, starts, proper, ends⟩ := places
  have content := Scan.length_contentOf_le
    (document.text.slice line.span.start line.span.stop)
  have whole := List.length_take_le (line.span.stop - line.span.start)
    (document.text.drop line.span.start)
  rw [← Text.slice] at whole
  have holds : line.span.Holds span.start := by
    constructor <;> omega
  rw [lineAt, Line.numberAt_of_holds (tile_of_index indexed) found holds]
  omega

theorem exists_places_of_anchor {anchor : HtmlAnchor}
    (member : anchor ∈ document.htmlAnchors) :
    ∃ line, document.Places anchor.line line anchor.span := by
  obtain ⟨frontMatter, -, -, rfl⟩ := exists_of_index indexed
  have held : (harvestOf text).Holds (.anchor anchor) := List.mem_reverse.mp member
  obtain ⟨before, input, after, cut, isPlainLine, contains⟩ := exists_of_holds held
  obtain ⟨line, places, -, -⟩ :=
    exists_places_of_contains indexed cut isPlainLine contains
  exact ⟨line, places⟩

theorem exists_places_of_reference {note : Footnote}
    (member : note ∈ document.footnoteRefs) :
    ∃ line, document.Places note.line line note.span ∧
      document.text.slice note.span.start note.span.stop =
        "[^".toList ++ note.id ++ "]".toList := by
  obtain ⟨frontMatter, -, -, rfl⟩ := exists_of_index indexed
  have held : (harvestOf text).Holds (.reference note) := List.mem_reverse.mp member
  obtain ⟨before, input, after, cut, isPlainLine, contains, mark⟩ :=
    exists_of_holds held
  obtain ⟨line, places, -, covered⟩ :=
    exists_places_of_contains indexed cut isPlainLine contains
  exact ⟨line, places, covered.trans mark⟩

theorem exists_places_of_definition {note : Footnote}
    (member : note ∈ document.footnoteDefs) :
    ∃ line, document.Places note.line line note.span ∧
      "[^".toList ++ note.id ++ "]:".toList <:+
        document.text.slice note.span.start note.span.stop := by
  obtain ⟨frontMatter, -, -, rfl⟩ := exists_of_index indexed
  have held : (harvestOf text).Holds (.definition note) :=
    List.mem_reverse.mp member
  obtain ⟨before, input, after, cut, isPlainLine, contains, mark⟩ :=
    exists_of_holds held
  obtain ⟨line, places, -, covered⟩ :=
    exists_places_of_contains indexed cut isPlainLine contains
  exact ⟨line, places, covered ▸ mark⟩

theorem exists_places_of_link {link : Link} (member : link ∈ document.links) :
    ∃ line, document.Places link.line line link.span ∧
      link.column = link.span.start - line.span.start + 1 := by
  obtain ⟨before, input, after, cut, isPlainLine, contains, column⟩ :
      ∃ before input after, scanned text = before ++ input :: after ∧
        Scan.isPlain (headerOf (SourceLine.split text))
          (stateBehind text before) input = true ∧
        input.place.Locates (.link link) := by
    rw [(isFrom_of_index indexed).links] at member
    rcases mem_allLinks member with own | ⟨reference, inPending, made⟩
    · have held : (harvestOf text).Holds (.link link) := List.mem_reverse.mp own
      exact exists_of_holds held
    · -- A reference becomes a link with the place of the reference.
      have held : (harvestOf text).Holds (.pending reference) :=
        List.mem_reverse.mp inPending
      obtain ⟨before, input, after, cut, isPlainLine, contains, column⟩ :=
        exists_of_holds held
      obtain ⟨definition, -, made⟩ := Option.bind_eq_some_iff.mp made
      exact ⟨before, input, after, cut, isPlainLine,
        Inline.Place.locates_of_makeLink? made contains column⟩
  obtain ⟨line, places, start, -⟩ :=
    exists_places_of_contains indexed cut isPlainLine contains
  refine ⟨line, places, ?_⟩
  have starts := places.starts
  omega

end

end Document

end AnchorLint
