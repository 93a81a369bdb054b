import AnchorLint.Proofs.Data.Entries
import AnchorLint.Proofs.Document.Exchange

/-!
# Scans that agree around a comment

Two texts that differ in what a comment holds are scanned alike: they have the same
footnotes, tags and links, except that the text of a link around the comment repeats
the comment.  Headings, lines and the titles of definitions are left out of the
comparison.
-/

namespace AnchorLint

namespace Text

/-- A text at an offset of a document, with spaces in place of a comment. -/
def without (comment : Span) (offset : Nat) (text : Text) : Text :=
  text.mapIdx fun index character =>
    if comment.start ≤ offset + index && offset + index < comment.stop then ' '
    else character

theorem getElem?_without (comment : Span) (offset : Nat) (text : Text)
    (index : Nat) :
    (text.without comment offset)[index]? = text[index]?.map fun character =>
      if comment.start ≤ offset + index && offset + index < comment.stop then ' '
      else character :=
  List.getElem?_mapIdx

theorem without_slice (comment : Span) (offset : Nat) (text : Text)
    (start stop : Nat) :
    (text.slice start stop).without comment (offset + start) =
      (text.without comment offset).slice start stop := by
  refine List.ext_getElem? fun index => ?_
  rw [getElem?_without, slice, slice]
  by_cases inside : index < stop - start
  · rw [List.getElem?_take_of_lt inside, List.getElem?_take_of_lt inside,
      List.getElem?_drop, List.getElem?_drop, getElem?_without, Nat.add_assoc]
  · rw [List.getElem?_take_eq_none (Nat.le_of_not_lt inside),
      List.getElem?_take_eq_none (Nat.le_of_not_lt inside)]
    rfl

end Text

/-- A link with spaces in its text in place of a comment. -/
def Link.without (comment : Span) (link : Link) : Link :=
  { link with
    text := link.text.without comment
      (link.span.start + if link.isImage then 2 else 1) }

namespace Inline

/-- A reference with spaces in its text in place of a comment. -/
def PendingReference.without (comment : Span) (reference : PendingReference) :
    PendingReference :=
  { reference with
    text := reference.text.without comment
      (reference.span.start + if reference.isImage then 2 else 1) }

variable {comment : Span}

theorem map_without_makeLink? (target : Text) (line column : Nat) (span : Span)
    (text : Text) (style : LinkStyle) (reference : Option Text)
    (isImage : Bool) :
    (makeLink? target line column span text style reference isImage).map
        (Link.without comment) =
      makeLink? target line column span
        (text.without comment (span.start + if isImage then 2 else 1)) style
        reference isImage := by
  unfold makeLink?
  split
  · rfl
  · rfl

/-- Whether two places are the same except for what a comment holds. -/
structure Place.Agrees (comment : Span) (one other : Place) : Prop where
  line : other.line = one.line
  offset : other.offset = one.offset
  content : other.content.without comment one.offset =
    one.content.without comment one.offset

/-- Whether two lines have the same elements, except that texts repeat what a
comment holds. -/
structure Elements.Alike (comment : Span) (one other : Elements) : Prop where
  htmlAnchors : other.htmlAnchors = one.htmlAnchors
  footnotes : other.footnotes = one.footnotes
  links : other.links.map (Link.without comment) =
    one.links.map (Link.without comment)
  pending : other.pending.map (PendingReference.without comment) =
    one.pending.map (PendingReference.without comment)

namespace Place.Agrees

theorem refl (comment : Span) (place : Place) : Agrees comment place place :=
  ⟨rfl, rfl, rfl⟩

variable {one other : Place} (agrees : Agrees comment one other)

include agrees

theorem span {α : Type} (found : Found α) : other.span found = one.span found := by
  rw [Place.span, agrees.offset, Place.span]

theorem slice {offset start : Nat} (starts : offset = one.offset + start)
    (stop : Nat) :
    (other.content.slice start stop).without comment offset =
      (one.content.slice start stop).without comment offset := by
  rw [starts, Text.without_slice, agrees.content, Text.without_slice]

theorem inlineLink? (base : Nat) (found : Found Written) :
    (other.inlineLink? base found).map (Link.without comment) =
      (one.inlineLink? base found).map (Link.without comment) := by
  unfold Place.inlineLink?
  dsimp only
  rw [map_without_makeLink?, map_without_makeLink?, agrees.line, agrees.offset,
    agrees.slice]
  simp only [Written.textOffset, Nat.add_assoc]

theorem inlineLinks (found : Found Written) :
    (other.inlineLinks found).map (Link.without comment) =
      (one.inlineLinks found).map (Link.without comment) := by
  unfold Place.inlineLinks
  dsimp only
  simp only [List.map_append, List.map_filterMap, ← Option.toList_map,
    agrees.inlineLink?]

theorem reference (found : Found Written) :
    (other.reference found).without comment =
      (one.reference found).without comment := by
  unfold Place.reference PendingReference.without
  dsimp only
  rw [agrees.line, agrees.span, agrees.slice]
  simp only [Place.span, Written.textOffset, Nat.add_assoc]

/-- Lines that differ in what a comment holds have the same elements, except that the
texts of links repeat it. -/
theorem elements (masked : Text) :
    (one.elements masked).Alike comment (other.elements masked) := by
  have addressLink? : other.addressLink? = one.addressLink? := by
    funext found target
    rw [Place.addressLink?, agrees.line, agrees.span, Place.addressLink?]
  have tagAnchors : other.tagAnchors = one.tagAnchors := by
    funext found
    rw [Place.tagAnchors, agrees.line, agrees.span, Place.tagAnchors]
  unfold Place.elements
  dsimp only
  rw [addressLink?, tagAnchors]
  refine ⟨rfl, ?_, ?_, ?_⟩
  · simp only [agrees.line, agrees.span]
  · simp only [List.map_append, List.map_flatMap, agrees.inlineLinks]
  · rw [List.map_map, List.map_map]
    exact List.map_congr_left fun found _ => agrees.reference found

end Place.Agrees

end Inline

namespace Scan

variable {comment : Span}

/-! ## Harvests -/

/-- Whether two scans have found the same around a comment: what they have found is
the same, except for headings, for the titles of definitions, and for what texts
repeat of the comment. -/
structure Harvest.Alike (comment : Span) (one other : Harvest) : Prop where
  htmlAnchors : other.htmlAnchors = one.htmlAnchors
  footnoteRefs : other.footnoteRefs = one.footnoteRefs
  footnoteDefs : other.footnoteDefs = one.footnoteDefs
  links : other.links.map (Link.without comment) =
    one.links.map (Link.without comment)
  pending : other.pending.map (Inline.PendingReference.without comment) =
    one.pending.map (Inline.PendingReference.without comment)
  definitions : ∀ label : Text,
    (other.definitions.lookup label).map ReferenceDefinition.target =
      (one.definitions.lookup label).map ReferenceDefinition.target
  replay : other.replay = one.replay

/-- The comments that are fed change nothing but the replay. -/
theorem foldl_addComment_eq (harvest : Harvest) (comments : List (Nat × Text)) :
    comments.foldl Harvest.addComment harvest =
      { harvest with replay := replayFrom harvest.replay comments } := by
  obtain ⟨replay, same⟩ := foldl_addComment_changes harvest comments
  have fed := replay_foldl_addComment harvest comments
  rw [same] at fed ⊢
  rw [← fed]

namespace Harvest.Alike

theorem refl (comment : Span) (harvest : Harvest) : Alike comment harvest harvest :=
  ⟨rfl, rfl, rfl, rfl, rfl, fun _ => rfl, rfl⟩

variable {one other : Harvest} (alike : one.Alike comment other)

include alike

theorem addLine (input otherInput : Input) (inCode inFrontMatter : Bool) :
    (one.addLine input inCode inFrontMatter).Alike comment
      (other.addLine otherInput inCode inFrontMatter) :=
  { alike with }

theorem addCodeBlock (block : CodeBlock) :
    (one.addCodeBlock block).Alike comment (other.addCodeBlock block) :=
  { alike with }

theorem closeIndented (indented : Option (Nat × Nat)) :
    (one.closeIndented indented).Alike comment
      (other.closeIndented indented) := by
  cases indented with
  | none => exact alike
  | some range => exact alike.addCodeBlock _

theorem addHeading (draft otherDraft : Draft) :
    (one.addHeading draft).Alike comment (other.addHeading otherDraft) :=
  { alike with }

theorem nameHeading_left (custom : Option Text) :
    (one.nameHeading custom).Alike comment other := by
  unfold Harvest.nameHeading
  repeat' split
  all_goals exact { alike with }

theorem nameHeading_right (custom : Option Text) :
    one.Alike comment (other.nameHeading custom) := by
  unfold Harvest.nameHeading
  repeat' split
  all_goals exact { alike with }

theorem addDefinition {definition otherDefinition : Block.Definition}
    (label : Block.normalizeLabel otherDefinition.label =
      Block.normalizeLabel definition.label)
    (target : otherDefinition.target = definition.target) (line : Nat) :
    (one.addDefinition line definition).Alike comment
      (other.addDefinition line otherDefinition) := by
  refine { alike with definitions := fun asked => ?_ }
  dsimp only [Harvest.addDefinition]
  have known := alike.definitions asked
  rw [Entries.lookup_putNew, Entries.lookup_putNew, label, Option.map_or,
    Option.map_or, known]
  split
  · simp only [Option.map_some, target]
  · rfl

theorem addElements {elements otherElements : Inline.Elements}
    (same : elements.Alike comment otherElements) :
    (one.addElements elements).Alike comment
      (other.addElements otherElements) where
  htmlAnchors := by
    simp only [Harvest.addElements, same.htmlAnchors, alike.htmlAnchors]
  footnoteRefs := by
    simp only [Harvest.addElements, same.footnotes, alike.footnoteRefs]
  footnoteDefs := alike.footnoteDefs
  links := by
    simp only [Harvest.addElements, List.map_append, List.map_reverse, same.links,
      alike.links]
  pending := by
    simp only [Harvest.addElements, List.map_append, List.map_reverse,
      same.pending, alike.pending]
  definitions := alike.definitions
  replay := alike.replay

theorem foldl_addComment {comments others : List (Nat × Text)}
    (same : directivesOf others = directivesOf comments) :
    (comments.foldl Harvest.addComment one).Alike comment
      (others.foldl Harvest.addComment other) := by
  rw [foldl_addComment_eq, foldl_addComment_eq]
  refine { alike with replay := ?_ }
  rw [replayFrom, replayFrom, same, alike.replay]

end Harvest.Alike

/-! ## Kinds of lines -/

/-- Whether two lines are of the same kind around a comment. -/
inductive Kind.Alike : Kind → Kind → Prop
  | attributes (custom otherCustom : Option Text) :
    Alike (.attributes custom) (.attributes otherCustom)
  | atx (draft otherDraft : Draft) : Alike (.atx draft) (.atx otherDraft)
  | setext (draft otherDraft : Draft) :
    Alike (.setext draft) (.setext otherDraft)
  | definition {definition otherDefinition : Block.Definition}
    (label : Block.normalizeLabel otherDefinition.label =
      Block.normalizeLabel definition.label)
    (target : otherDefinition.target = definition.target) :
    Alike (.definition definition) (.definition otherDefinition)
  | footnote (id : Text) (length : Nat) :
    Alike (.footnote id length) (.footnote id length)
  | prose (continues : Bool) : Alike (.prose continues) (.prose continues)

/-- What a line defines, as far as links depend on it. -/
def Input.defined? (input : Input) : Option (Text × Text) :=
  ((Block.definition? input.body).filter fun definition =>
    !Text.startsWith definition.label ['^']).map fun definition =>
      (Block.normalizeLabel definition.label, definition.target)

/-- Whether two lines declare the same: both of them are attribute lists or none
is, and they define the same target for the same label. -/
structure Input.DeclareAlike (one other : Input) : Prop where
  attributes : (Attribute.line? other.body).isSome =
    (Attribute.line? one.body).isSome
  defined : other.defined? = one.defined?

/-- Whether two lines look the same around a comment, apart from what they
declare. -/
structure Input.Alike (comment : Span) (one other : Input) : Prop where
  number : other.number = one.number
  place : one.place.Agrees comment other.place
  blank : Text.isBlank other.source.content = Text.isBlank one.source.content
  indent : Block.indentWidth other.source.content =
    Block.indentWidth one.source.content
  quoted : other.quoted = one.quoted
  atx : (Block.atx? other.body).isSome = (Block.atx? one.body).isSome
  underline : (Block.underline? other.body).isSome =
    (Block.underline? one.body).isSome
  listItem : Block.isListItem other.body = Block.isListItem one.body
  thematicBreak : Block.isThematicBreak other.body =
    Block.isThematicBreak one.body
  htmlBlock : Block.isHtmlBlock other.body = Block.isHtmlBlock one.body

theorem Input.DeclareAlike.refl (input : Input) : DeclareAlike input input :=
  ⟨rfl, rfl⟩

theorem Input.Alike.refl (comment : Span) (input : Input) :
    Alike comment input input :=
  ⟨rfl, .refl _ _, rfl, rfl, rfl, rfl, rfl, rfl, rfl, rfl⟩

/-- Paragraphs are alike if both of them stand in a block quote or none does. -/
def ParagraphsAlike (one other : Option Paragraph) : Prop :=
  other.map Paragraph.quoted = one.map Paragraph.quoted

theorem isSome_filter_quoted {one other : Option Paragraph}
    (same : ParagraphsAlike one other) (quoted : Bool) :
    (other.filter fun paragraph => paragraph.quoted == quoted).isSome =
      (one.filter fun paragraph => paragraph.quoted == quoted).isSome := by
  unfold ParagraphsAlike at same
  cases one with
  | none => rw [Option.map_eq_none_iff.mp same]
  | some paragraph =>
      obtain ⟨otherParagraph, rfl, sameQuote⟩ := Option.map_eq_some_iff.mp same
      simp only [Option.filter_some, sameQuote]
      split <;> rfl

theorem cases_of_isSome_eq {α β : Type} {one : Option α} {other : Option β}
    (same : other.isSome = one.isSome) :
    one = none ∧ other = none ∨
      ∃ first second, one = some first ∧ other = some second := by
  cases one with
  | none => exact Or.inl ⟨rfl, Option.not_isSome_iff_eq_none.mp (by simp [same])⟩
  | some first =>
      obtain ⟨second, rfl⟩ := Option.isSome_iff_exists.mp same
      exact Or.inr ⟨first, second, rfl, rfl⟩

/-- What a line is that is neither an attribute list nor a heading. -/
def plainKind (definition : Option Block.Definition)
    (footnote : Option (Text × Nat)) (continues : Bool) : Kind :=
  match definition, footnote with
  | some definition, _ => .definition definition
  | none, some (id, length) => .footnote id length
  | none, none => .prose continues

theorem plainKind_alike {one other : Option Block.Definition}
    (defined : other.map (fun definition =>
        (Block.normalizeLabel definition.label, definition.target)) =
      one.map fun definition =>
        (Block.normalizeLabel definition.label, definition.target))
    (footnote : Option (Text × Nat)) (continues : Bool) :
    Kind.Alike (plainKind one footnote continues)
      (plainKind other footnote continues) := by
  cases one with
  | some definition =>
      obtain ⟨otherDefinition, rfl, same⟩ := Option.map_eq_some_iff.mp defined
      obtain ⟨label, target⟩ := Prod.mk.inj same
      exact .definition label target
  | none =>
      obtain rfl := Option.map_eq_none_iff.mp defined
      cases footnote with
      | none => exact .prose continues
      | some note => exact .footnote note.1 note.2

theorem kindOf_alike {one other : Input} (alike : one.Alike comment other)
    (declare : one.DeclareAlike other) (masked : Text)
    {paragraph otherParagraph : Option Paragraph}
    (paragraphs : ParagraphsAlike paragraph otherParagraph) :
    Kind.Alike (kindOf one masked paragraph)
      (kindOf other masked otherParagraph) := by
  have underlined := isSome_filter_quoted paragraphs one.quoted
  have defined := declare.defined
  unfold Input.defined? at defined
  unfold kindOf
  dsimp only
  rw [alike.quoted, alike.listItem, alike.thematicBreak, alike.htmlBlock]
  rcases cases_of_isSome_eq declare.attributes with
    ⟨noList, otherNoList⟩ | ⟨list, otherList, isList, otherIsList⟩
  · rcases cases_of_isSome_eq alike.atx with
      ⟨noAtx, otherNoAtx⟩ | ⟨atx, otherAtx, isAtx, otherIsAtx⟩
    · rw [noList, otherNoList, noAtx, otherNoAtx]
      dsimp only
      rcases cases_of_isSome_eq alike.underline with
        ⟨noLine, otherNoLine⟩ | ⟨level, otherLevel, isLine, otherIsLine⟩
      · rw [noLine, otherNoLine]
        exact plainKind_alike defined _ _
      · rw [isLine, otherIsLine]
        rcases cases_of_isSome_eq underlined with
          ⟨alone, otherAlone⟩ | ⟨above, otherAbove, isAbove, otherIsAbove⟩
        · rw [alone, otherAlone]
          exact plainKind_alike defined _ _
        · rw [isAbove, otherIsAbove]
          exact .setext _ _
    · rw [noList, otherNoList, isAtx, otherIsAtx]
      exact .atx _ _
  · rw [isList, otherIsList]
    exact .attributes _ _

/-! ## States -/

theorem record_alike {one other : Harvest} (alike : one.Alike comment other)
    {input otherInput : Input} (number : otherInput.number = input.number)
    (place : input.place.Agrees comment otherInput.place) (masked : Text)
    (takesAttributes otherTakes : Bool) {kind otherKind : Kind}
    (kinds : Kind.Alike kind otherKind) :
    (record one input masked takesAttributes kind).Alike comment
      (record other otherInput masked otherTakes otherKind) := by
  cases kinds with
  | attributes custom otherCustom =>
      unfold record
      dsimp only
      split <;> split
      · exact (alike.nameHeading_left _).nameHeading_right _
      · exact alike.nameHeading_left _
      · exact alike.nameHeading_right _
      · exact alike
  | atx draft otherDraft =>
      exact (alike.addHeading draft otherDraft).addElements (place.elements masked)
  | setext draft otherDraft => exact alike.addHeading draft otherDraft
  | definition label target =>
      unfold record
      rw [number]
      exact alike.addDefinition label target _
  | footnote id length =>
      unfold record
      dsimp only
      rw [number, place.offset]
      refine Harvest.Alike.addElements ?_ (place.elements _)
      exact { alike with footnoteDefs := congrArg (_ :: ·) alike.footnoteDefs }
  | prose continues => exact alike.addElements (place.elements masked)

/-- Whether two scans are in the same context, except for the texts of paragraphs
and for headings. -/
structure Context.Alike (one other : Context) : Prop where
  fence : other.fence = one.fence
  indented : other.indented = one.indented
  comment : other.comment = one.comment
  afterBlank : other.afterBlank = one.afterBlank
  inList : other.inList = one.inList
  paragraph : ParagraphsAlike one.paragraph other.paragraph

/-- Whether two scans are in the same context and have found the same around a
comment. -/
structure State.Alike (comment : Span) (one other : State) : Prop where
  context : one.context.Alike other.context
  harvest : one.harvest.Alike comment other.harvest

/-- Whether two masked lines show the same and feed the same directives. -/
structure MaskedAlike (one other : Comment.Masked) : Prop where
  text : other.text = one.text
  pending : other.pending = one.pending
  directives : directivesOf other.closed = directivesOf one.closed

theorem listAfter_alike {one other : Context} (contexts : one.Alike other)
    {input otherInput : Input} (lines : input.Alike comment otherInput)
    {kind otherKind : Kind} (kinds : Kind.Alike kind otherKind) :
    listAfter other otherInput otherKind = listAfter one input kind := by
  cases kinds <;>
    simp only [listAfter, lines.listItem, lines.indent, contexts.inList,
      contexts.afterBlank]

theorem extendParagraph_alike {one other : Option Paragraph}
    (paragraphs : ParagraphsAlike one other) {input otherInput : Input}
    (quoted : otherInput.quoted = input.quoted) :
    ParagraphsAlike (some (extendParagraph one input))
      (some (extendParagraph other otherInput)) := by
  unfold ParagraphsAlike at paragraphs ⊢
  cases one with
  | none =>
      obtain rfl := Option.map_eq_none_iff.mp paragraphs
      exact congrArg some quoted
  | some paragraph =>
      obtain ⟨otherParagraph, rfl, same⟩ := Option.map_eq_some_iff.mp paragraphs
      exact congrArg some same

namespace State.Alike

theorem refl (comment : Span) (state : State) : Alike comment state state :=
  ⟨⟨rfl, rfl, rfl, rfl, rfl, rfl⟩, .refl _ _⟩

variable {one other : State} (alike : one.Alike comment other)

include alike

theorem addLine (input otherInput : Input) (inCode inFrontMatter : Bool) :
    (one.addLine input inCode inFrontMatter).Alike comment
      (other.addLine otherInput inCode inFrontMatter) :=
  ⟨alike.context, alike.harvest.addLine _ _ _ _⟩

theorem plain {input otherInput : Input} {lastClose : Option Nat}
    (lines : input.Alike comment otherInput)
    (declare : one.context.comment = none → input.DeclareAlike otherInput)
    (masked : MaskedAlike
      (Comment.mask input.place lastClose one.context.comment)
      (Comment.mask otherInput.place lastClose one.context.comment)) :
    (Scan.plain one input lastClose).Alike comment
      (Scan.plain other otherInput lastClose) := by
  obtain ⟨contexts, harvests⟩ := alike
  have fed := harvests.foldl_addComment masked.directives
  unfold Scan.plain
  dsimp only
  rw [contexts.comment, lines.blank, masked.text, masked.pending]
  split
  · exact ⟨{ contexts with comment := rfl, paragraph := rfl, afterBlank := rfl },
      fed⟩
  split
  · exact ⟨{ contexts with comment := rfl, paragraph := rfl, afterBlank := rfl },
      fed.addElements (lines.place.elements _)⟩
  · rename_i notBlank outside
    have kinds := kindOf_alike lines
      (declare (Option.not_isSome_iff_eq_none.mp outside))
      (Comment.mask input.place lastClose one.context.comment).text
      contexts.paragraph
    refine ⟨{ contexts with
      comment := rfl, afterBlank := rfl
      inList := listAfter_alike contexts lines kinds
      paragraph := ?_ }, record_alike fed lines.number lines.place _ _ _ kinds⟩
    dsimp only
    generalize kindOf input _ _ = kind at kinds
    generalize kindOf otherInput _ _ = otherKind at kinds
    cases kinds with
    | prose continues =>
        cases continues with
        | false => rfl
        | true => exact extendParagraph_alike contexts.paragraph lines.quoted
    | _ => rfl

theorem leaveIndented {input otherInput : Input}
    (blank : Text.isBlank otherInput.source.content =
      Text.isBlank input.source.content) :
    (Scan.leaveIndented one input).Alike comment
      (Scan.leaveIndented other otherInput) := by
  obtain ⟨contexts, harvests⟩ := alike
  unfold Scan.leaveIndented
  rw [contexts.comment, blank, contexts.indented]
  split
  · exact ⟨contexts, harvests⟩
  · exact ⟨{ contexts with indented := rfl }, harvests.closeIndented _⟩

theorem afterFenced : (Scan.afterFenced one).Alike comment
    (Scan.afterFenced other) :=
  ⟨{ alike.context with paragraph := rfl, afterBlank := rfl }, alike.harvest⟩

theorem openFence (input : Input) (opener : Block.Fence) :
    (Scan.openFence one input opener).Alike comment
      (Scan.openFence other input opener) := by
  unfold Scan.openFence
  rw [alike.context.indented]
  exact afterFenced ⟨{ alike.context with fence := rfl, indented := rfl },
    alike.harvest.closeIndented _⟩

theorem closeFence (input : Input) (first : Nat) (opener : Block.Fence) :
    (Scan.closeFence one input first opener).Alike comment
      (Scan.closeFence other input first opener) :=
  afterFenced ⟨{ alike.context with fence := rfl },
    alike.harvest.addCodeBlock _⟩

theorem opened? (input : Input) :
    Scan.opened? other.context input = Scan.opened? one.context input := by
  unfold Scan.opened? Scan.opening?
  rw [alike.context.comment, alike.context.indented]

theorem indented? (input : Input) :
    Option.Rel (State.Alike comment) (Scan.indented? one input)
      (Scan.indented? other input) := by
  obtain ⟨contexts, harvests⟩ := alike
  have isNone : other.context.paragraph.isNone = one.context.paragraph.isNone := by
    have same := congrArg Option.isNone contexts.paragraph
    rwa [Option.isNone_map, Option.isNone_map] at same
  unfold Scan.indented?
  dsimp only
  rw [contexts.comment, contexts.indented, contexts.afterBlank, contexts.inList,
    isNone]
  repeat' split
  all_goals first
    | exact .none
    | exact .some ⟨⟨contexts.fence, rfl, rfl, rfl, rfl, rfl⟩, harvests⟩

theorem unfenced (input : Input) (lastClose : Option Nat) :
    (Scan.unfenced lastClose one input).Alike comment
      (Scan.unfenced lastClose other input) := by
  have same := alike.indented? input
  unfold Scan.unfenced
  generalize Scan.indented? one input = after at same ⊢
  generalize Scan.indented? other input = otherAfter at same ⊢
  cases same with
  | some same => exact same.addLine _ _ true false
  | none =>
      exact addLine (plain (alike.leaveIndented rfl) (.refl _ _)
        (fun _ => .refl _) ⟨rfl, rfl, rfl⟩) _ _ false false

end State.Alike

/-- Scans that agree around a comment do so behind one more line. -/
theorem step_alike {one other : State} (alike : one.Alike comment other)
    (header : Nat) (lastClose : Option Nat) (input : Input) :
    (step header lastClose one input).Alike comment
      (step header lastClose other input) := by
  rcases Nat.lt_or_ge header input.number with behind | front
  · cases fence : one.context.fence with
    | some entry =>
        have otherFence := alike.context.fence.trans fence
        rw [step_of_fence behind fence, step_of_fence behind otherFence]
        split
        · exact (alike.closeFence input _ _).addLine _ _ true false
        · exact alike.afterFenced.addLine _ _ true false
    | none =>
        have otherFence := alike.context.fence.trans fence
        have sameFence := alike.opened? input
        cases opened : opened? one.context input with
        | some opener =>
            rw [step_of_opened behind fence opened,
              step_of_opened behind otherFence (sameFence.trans opened)]
            exact (alike.openFence input opener).addLine _ _ true false
        | none =>
            rw [step_of_unfenced behind fence opened,
              step_of_unfenced behind otherFence (sameFence.trans opened)]
            exact alike.unfenced input lastClose
  · rw [step_of_le front, step_of_le front]
    exact alike.addLine _ _ false true

theorem foldl_step_alike {one other : State} (alike : one.Alike comment other)
    (header : Nat) (lastClose : Option Nat) (inputs : List Input) :
    (inputs.foldl (step header lastClose) one).Alike comment
      (inputs.foldl (step header lastClose) other) := by
  induction inputs generalizing one other with
  | nil => exact alike
  | cons input inputs ih => exact ih (step_alike alike header lastClose input)

theorem finish_alike {one other : State} (alike : one.Alike comment other) :
    (finish one).Alike comment (finish other) := by
  obtain ⟨contexts, harvests⟩ := alike
  unfold finish
  rw [contexts.comment, contexts.indented]
  split
  · exact @Harvest.Alike.foldl_addComment _ _ _ (harvests.closeIndented _) [_] [_]
      rfl
  · exact harvests.closeIndented _

end Scan

namespace Document

variable {comment : Span}

/-! ## Indexes -/

/-- What a document has around a comment: its links, with spaces in their texts in
place of the comment, its footnote references, its footnote definitions and its
tagged anchors. -/
def around (comment : Span) (document : Document) :
    List Link × List Footnote × List Footnote × List HtmlAnchor :=
  (document.links.map (Link.without comment), document.footnoteRefs,
    document.footnoteDefs, document.htmlAnchors)

theorem resolveReference?_eq (definitions : Entries Text ReferenceDefinition)
    (reference : Inline.PendingReference) :
    resolveReference? definitions reference =
      ((definitions.lookup reference.label).map
        ReferenceDefinition.target).bind fun target =>
          Inline.makeLink? target reference.line reference.column reference.span
            reference.text .reference (some reference.label)
            reference.isImage := by
  rw [Option.bind_map]
  rfl

theorem map_without_resolveReference?
    (definitions : Entries Text ReferenceDefinition)
    (reference : Inline.PendingReference) :
    (resolveReference? definitions reference).map (Link.without comment) =
      resolveReference? definitions (reference.without comment) := by
  rw [resolveReference?_eq, resolveReference?_eq, Option.map_bind]
  refine Option.bind_congr fun target _ => ?_
  exact Inline.map_without_makeLink? _ _ _ _ _ _ _ _

theorem allLinks_alike {one other : Scan.Harvest}
    (alike : one.Alike comment other) :
    (allLinks other.links.reverse other.pending.reverse other.definitions).map
        (Link.without comment) =
      (allLinks one.links.reverse one.pending.reverse one.definitions).map
        (Link.without comment) := by
  have empty : other.pending.reverse.isEmpty = one.pending.reverse.isEmpty := by
    have same := congrArg List.isEmpty alike.pending
    rw [List.isEmpty_map, List.isEmpty_map] at same
    rw [List.isEmpty_reverse, List.isEmpty_reverse, same]
  have sorted (links : List Link) :
      (links.mergeSort fun first second =>
        first.span.start ≤ second.span.start).map (Link.without comment) =
        (links.map (Link.without comment)).mergeSort fun first second =>
          first.span.start ≤ second.span.start :=
    List.map_mergeSort fun _ _ _ _ => rfl
  have listed (harvest : Scan.Harvest) : (harvest.links.reverse
      ++ harvest.pending.reverse.filterMap
        (resolveReference? harvest.definitions)).map (Link.without comment) =
      (harvest.links.map (Link.without comment)).reverse
        ++ (harvest.pending.map
          (Inline.PendingReference.without comment)).reverse.filterMap
            (resolveReference? harvest.definitions) := by
    rw [List.map_append, List.map_filterMap, ← List.map_reverse,
      ← List.map_reverse, List.filterMap_map]
    simp only [map_without_resolveReference?]
    rfl
  have resolve : resolveReference? other.definitions =
      resolveReference? one.definitions := by
    funext reference
    rw [resolveReference?_eq, alike.definitions, resolveReference?_eq]
  unfold allLinks
  rw [empty]
  split
  · rw [List.map_reverse, List.map_reverse, alike.links]
  · rw [sorted, sorted, listed, listed, alike.links, alike.pending,
      resolve]

/-- Texts with the same front matter whose scans agree around a comment have the same
index around the comment. -/
theorem index_alike (dialect : Dialect) {text other : Text}
    (frontMatter : frontMatterBlock? (SourceLine.split other) =
      frontMatterBlock? (SourceLine.split text))
    (alike : (harvestOf text).Alike comment (harvestOf other)) :
    (index dialect other).map (around comment) =
      (index dialect text).map (around comment) := by
  rw [index_eq, index_eq]
  have decoded : frontMatterOf (SourceLine.split other) =
      frontMatterOf (SourceLine.split text) := by
    rw [frontMatterOf, frontMatter, frontMatterOf]
  rw [decoded, alike.replay]
  split
  · rfl
  split
  · rfl
  · refine congrArg Except.ok ?_
    unfold around assemble
    dsimp only
    rw [allLinks_alike alike, alike.footnoteRefs, alike.footnoteDefs,
      alike.htmlAnchors]

end Document

end AnchorLint
