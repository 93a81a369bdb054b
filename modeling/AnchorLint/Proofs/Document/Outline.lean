import AnchorLint.Proofs.Document.Blocks
import AnchorLint.Proofs.Document.Lookup

/-!
# The outline of a document

A heading is recorded on its own line or, if it is underlined, below a paragraph, on
whose first line it counts as standing.  That line may lie far behind, but only
ordinary text comes between, so headings are recorded in the order of their lines and
stand on ordinary text.  The anchors of headings keep that order in the list of all
anchors, which is sorted by line.
-/

namespace AnchorLint

namespace Block

theorem level_of_atx? {body rest : Text} {level : Nat}
    (heading : atx? body = some (level, rest)) : 1 ≤ level ∧ level ≤ 6 := by
  obtain ⟨text, -, found⟩ := Option.bind_eq_some_iff.mp heading
  dsimp only at found
  split at found
  · rename_i proper
    obtain ⟨rfl, -⟩ := Prod.mk.inj (Option.some.inj found)
    exact ⟨proper.1, proper.2.1⟩
  · cases found

theorem level_of_underline? {body : Text} {level : Nat}
    (underlined : underline? body = some level) : 1 ≤ level ∧ level ≤ 6 := by
  obtain ⟨text, -, found⟩ := Option.bind_eq_some_iff.mp underlined
  dsimp only at found
  split at found
  · split at found
    · obtain rfl := Option.some.inj found
      decide
    · cases found
  · split at found
    · obtain rfl := Option.some.inj found
      decide
    · cases found
  · cases found

end Block

namespace Scan

/-! ## Headings that are recorded -/

/-- The lines and levels of headings. -/
def outline (drafts : List Draft) : List (Nat × Nat) :=
  drafts.map fun draft => (draft.line, draft.level)

/-- The heading that a line turns out to be or to underline. -/
def Kind.draft? : Kind → Option Draft
  | .atx draft => some draft
  | .setext draft => some draft
  | _ => none

/-- The paragraph that goes on behind a line of a known kind. -/
def Kind.paragraph? (kind : Kind) (before : Option Paragraph) (input : Input) :
    Option Paragraph :=
  match kind with
  | .prose true => some (extendParagraph before input)
  | _ => none

@[simp]
theorem headings_foldl_addComment (comments : List (Nat × Text)) (harvest : Harvest) :
    (comments.foldl Harvest.addComment harvest).headings = harvest.headings := by
  obtain ⟨replay, same⟩ := foldl_addComment_changes harvest comments
  rw [same]

/-- An attribute line changes neither the line nor the level of a heading. -/
theorem outline_nameHeading (harvest : Harvest) (custom : Option Text) :
    outline (harvest.nameHeading custom).headings = outline harvest.headings := by
  unfold Harvest.nameHeading
  split
  · rename_i draft drafts headings
    rw [headings]
    split
    · rfl
    · rw [headings]
  · rfl

theorem outline_record (harvest : Harvest) (input : Input) (masked : Text)
    (takesAttributes : Bool) (kind : Kind) :
    outline (record harvest input masked takesAttributes kind).headings =
      outline kind.draft?.toList ++ outline harvest.headings := by
  cases kind with
  | attributes custom =>
      cases takesAttributes with
      | true => exact outline_nameHeading harvest custom
      | false => rfl
  | atx draft => rfl
  | setext draft => rfl
  | definition definition => rfl
  | footnote id length => rfl
  | prose continues => rfl

/-- A heading stands on its own line or on the first one of the paragraph before it,
and has one of six levels. -/
theorem draft_of_kindOf {input : Input} {masked : Text} {before : Option Paragraph}
    {draft : Draft} (isHeading : (kindOf input masked before).draft? = some draft) :
    (draft.line = input.number ∨
      ∃ paragraph, before = some paragraph ∧ draft.line = paragraph.line) ∧
    1 ≤ draft.level ∧ draft.level ≤ 6 := by
  unfold kindOf at isHeading
  dsimp only at isHeading
  split at isHeading
  · cases isHeading
  split at isHeading
  · rename_i level rest heading
    obtain rfl := Option.some.inj isHeading
    exact ⟨Or.inl rfl, Block.level_of_atx? heading⟩
  split at isHeading
  · rename_i level paragraph underlined found
    obtain rfl := Option.some.inj isHeading
    exact ⟨Or.inr ⟨paragraph, (Option.filter_eq_some_iff.mp found).1, rfl⟩,
      Block.level_of_underline? underlined⟩
  split at isHeading <;> cases isHeading

/-! ## One line -/

section

variable {state after : State} {input : Input}

theorem outline_fenced? (fenced : fenced? state input = some after) :
    after.harvest.headings = state.harvest.headings ∧
      after.context.paragraph = none := by
  obtain ⟨fence, indented, codeBlocks, rfl⟩ := fenced?_changes fenced
  exact ⟨rfl, rfl⟩

theorem outline_indented? (indented : indented? state input = some after) :
    after.harvest.headings = state.harvest.headings ∧
      after.context.paragraph = none := by
  obtain ⟨range, rfl⟩ := indented?_changes indented
  exact ⟨rfl, rfl⟩

theorem outline_leaveIndented (state : State) (input : Input) :
    (leaveIndented state input).harvest.headings = state.harvest.headings ∧
      (leaveIndented state input).context.paragraph = state.context.paragraph := by
  obtain ⟨indented, codeBlocks, same⟩ := leaveIndented_changes state input
  rw [same]
  exact ⟨rfl, rfl⟩

/-- A plain line adds nothing to the outline and ends the paragraph, or it is not blank
and does what its kind says. -/
theorem outline_plain (state : State) (input : Input) (lastClose : Option Nat) :
    ((plain state input lastClose).harvest.headings = state.harvest.headings ∧
      (plain state input lastClose).context.paragraph = none) ∨
    Text.isBlank input.source.content = false ∧ ∃ masked,
      outline (plain state input lastClose).harvest.headings =
        outline (kindOf input masked state.context.paragraph).draft?.toList
          ++ outline state.harvest.headings ∧
      (plain state input lastClose).context.paragraph =
        (kindOf input masked state.context.paragraph).paragraph?
          state.context.paragraph input := by
  unfold plain
  dsimp only
  split
  · exact Or.inl ⟨headings_foldl_addComment _ _, rfl⟩
  · rename_i visible
    split
    · exact Or.inl ⟨headings_foldl_addComment _ _, rfl⟩
    · refine Or.inr ⟨by simpa using visible,
        (Comment.mask input.place lastClose state.context.comment).text, ?_, ?_⟩
      · rw [outline_record, headings_foldl_addComment]
      · cases kindOf input _ state.context.paragraph <;> rfl

end

/-! ## What is known behind some lines -/

/-- Whether a line is ordinary text: neither front matter nor code, and not blank. -/
def IsText (header : Nat) (contents : List Text) (flags : List Bool) (line : Nat) :
    Prop :=
  ∃ index content, line = index + 1 ∧ header < line ∧ contents[index]? = some content ∧
    flags[index]? = some false ∧ Text.isBlank content = false

namespace IsText

variable {header : Nat} {contents : List Text} {flags : List Bool} {line : Nat}

theorem le (isText : IsText header contents flags line) : line ≤ contents.length := by
  obtain ⟨index, content, rfl, -, found, -, -⟩ := isText
  exact (List.getElem?_eq_some_iff.mp found).1

theorem concat (isText : IsText header contents flags line) (content : Text)
    (flag : Bool) : IsText header (contents ++ [content]) (flags ++ [flag]) line := by
  obtain ⟨index, old, equal, behind, found, flagged, visible⟩ := isText
  have short := (List.getElem?_eq_some_iff.mp found).1
  have shortFlags := (List.getElem?_eq_some_iff.mp flagged).1
  refine ⟨index, old, equal, behind, ?_, ?_, visible⟩
  · rw [List.getElem?_append_left short, found]
  · rw [List.getElem?_append_left shortFlags, flagged]

theorem last {content : Text} (behind : header < contents.length + 1)
    (length : flags.length = contents.length)
    (visible : Text.isBlank content = false) :
    IsText header (contents ++ [content]) (flags ++ [false]) (contents.length + 1) := by
  refine ⟨contents.length, content, rfl, behind, List.getElem?_concat_length, ?_,
    visible⟩
  rw [← length]
  exact List.getElem?_concat_length

end IsText

/-- What is known about headings and paragraphs behind lines: the headings are in order,
they stand on ordinary text, and so does the open paragraph, behind them all. -/
structure Outlined (header : Nat) (contents : List Text) (flags : List Bool)
    (state : State) : Prop where
  length : flags.length = contents.length
  ordered : (outline state.harvest.headings).Pairwise fun later earlier =>
    earlier.1 < later.1
  placed : ∀ entry ∈ outline state.harvest.headings,
    IsText header contents flags entry.1 ∧ 1 ≤ entry.2 ∧ entry.2 ≤ 6
  paragraph : ∀ paragraph, state.context.paragraph = some paragraph →
    IsText header contents flags paragraph.line ∧
      ∀ entry ∈ outline state.harvest.headings, entry.1 < paragraph.line

namespace Outlined

variable {header : Nat} {lastClose : Option Nat} {contents : List Text}
  {flags : List Bool} {state after : State} {input : Input}

theorem addLine (outlined : Outlined header contents flags state) (input : Input)
    (inCode inFrontMatter : Bool) :
    Outlined header contents flags (state.addLine input inCode inFrontMatter) :=
  ⟨outlined.length, outlined.ordered, outlined.placed, outlined.paragraph⟩

/-- A line that is no heading keeps the outline. -/
theorem keep (outlined : Outlined header contents flags state) (content : Text)
    (flag : Bool) (headings : outline after.harvest.headings =
      outline state.harvest.headings)
    (paragraph : ∀ paragraph, after.context.paragraph = some paragraph →
      (∃ old, state.context.paragraph = some old ∧ old.line = paragraph.line) ∨
        IsText header (contents ++ [content]) (flags ++ [flag]) paragraph.line ∧
          contents.length < paragraph.line) :
    Outlined header (contents ++ [content]) (flags ++ [flag]) after where
  length := by simp [outlined.length]
  ordered := headings ▸ outlined.ordered
  placed := by
    intro entry member
    obtain ⟨isText, level⟩ := outlined.placed entry (headings ▸ member)
    exact ⟨isText.concat content flag, level⟩
  paragraph := by
    intro open_ isOpen
    rw [headings]
    rcases paragraph open_ isOpen with ⟨old, wasOpen, same⟩ | ⟨isText, late⟩
    · obtain ⟨isText, before⟩ := outlined.paragraph old wasOpen
      exact same ▸ ⟨isText.concat content flag, before⟩
    · refine ⟨isText, fun entry member => ?_⟩
      exact Nat.lt_of_le_of_lt (outlined.placed entry member).1.le late

/-- Whatever else a line does, it may end the paragraph. -/
theorem endParagraph (outlined : Outlined header contents flags state) (content : Text)
    (flag : Bool) (headings : after.harvest.headings = state.harvest.headings)
    (ended : after.context.paragraph = none) :
    Outlined header (contents ++ [content]) (flags ++ [flag]) after := by
  refine outlined.keep _ _ (congrArg outline headings) fun open_ isOpen => ?_
  rw [ended] at isOpen
  cases isOpen

/-- A heading behind all others goes on with the outline. -/
theorem addHeading (outlined : Outlined header contents flags state) (content : Text)
    (flag : Bool) {line level : Nat}
    (headings : outline after.harvest.headings =
      (line, level) :: outline state.harvest.headings)
    (paragraph : after.context.paragraph = none)
    (isText : IsText header (contents ++ [content]) (flags ++ [flag]) line)
    (proper : 1 ≤ level ∧ level ≤ 6)
    (late : ∀ entry ∈ outline state.harvest.headings, entry.1 < line) :
    Outlined header (contents ++ [content]) (flags ++ [flag]) after where
  length := by simp [outlined.length]
  ordered := by
    rw [headings]
    exact List.pairwise_cons.mpr ⟨late, outlined.ordered⟩
  placed := by
    rw [headings]
    refine List.forall_mem_cons.mpr ⟨⟨isText, proper⟩, fun entry member => ?_⟩
    obtain ⟨isOld, oldProper⟩ := outlined.placed entry member
    exact ⟨isOld.concat content flag, oldProper⟩
  paragraph := by
    intro open_ isOpen
    rw [paragraph] at isOpen
    cases isOpen

theorem plain (outlined : Outlined header contents flags state)
    (number : input.number = contents.length + 1) (behind : header < input.number) :
    Outlined header (contents ++ [input.source.content]) (flags ++ [false])
      (plain state input lastClose) := by
  rcases outline_plain state input lastClose with ⟨headings, ended⟩ |
    ⟨visible, masked, headings, paragraph⟩
  · exact outlined.endParagraph _ _ headings ended
  have isText : IsText header (contents ++ [input.source.content]) (flags ++ [false])
      input.number := by
    rw [number] at behind ⊢
    exact .last behind outlined.length visible
  cases isHeading : (kindOf input masked state.context.paragraph).draft? with
  | none =>
      rw [isHeading] at headings
      refine outlined.keep _ _ headings fun open_ isOpen => ?_
      rw [paragraph] at isOpen
      unfold Kind.paragraph? at isOpen
      split at isOpen
      · obtain rfl := Option.some.inj isOpen
        unfold extendParagraph
        split
        · rename_i before old
          exact Or.inl ⟨before, old, rfl⟩
        · exact Or.inr ⟨isText, by rw [number]; exact Nat.lt_succ_self _⟩
      · cases isOpen
  | some draft =>
      obtain ⟨place, proper⟩ := draft_of_kindOf isHeading
      rw [isHeading] at headings
      have ended : (Scan.plain state input lastClose).context.paragraph = none := by
        rw [paragraph]
        unfold Kind.paragraph?
        split
        · rename_i equal
          rw [equal] at isHeading
          cases isHeading
        · rfl
      -- An underlined heading counts as standing where its paragraph began, which is
      -- behind all other headings too.
      rcases place with here | ⟨before, isOpen, there⟩
      · refine outlined.addHeading _ _ headings ended (here ▸ isText) proper ?_
        intro entry member
        have early := (outlined.placed entry member).1.le
        omega
      · obtain ⟨isOld, late⟩ := outlined.paragraph before isOpen
        rw [← there] at isOld late
        exact outlined.addHeading _ _ headings ended (isOld.concat _ _) proper late

theorem step (outlined : Outlined header contents flags state)
    (number : input.number = contents.length + 1) :
    Outlined header (contents ++ [input.source.content])
      (flags ++ [isCode header state input]) (step header lastClose state input) := by
  unfold Scan.step isCode
  dsimp only
  split
  · exact (outlined.keep _ _ rfl fun old isOpen =>
      Or.inl ⟨old, isOpen, rfl⟩).addLine _ _ _
  rename_i front
  have behind : header < input.number := Nat.lt_of_not_le front
  split
  · rename_i next fenced
    obtain ⟨headings, ended⟩ := outline_fenced? fenced
    exact Outlined.addLine (outlined.endParagraph _ _ headings ended) _ _ _
  rename_i unfenced
  split
  · rename_i next indented
    obtain ⟨headings, ended⟩ := outline_indented? indented
    exact Outlined.addLine (outlined.endParagraph _ _ headings ended) _ _ _
  · rename_i unindented
    obtain ⟨headings, paragraph⟩ := outline_leaveIndented state input
    have left : Outlined header contents flags (leaveIndented state input) := by
      refine ⟨outlined.length, ?_, ?_, ?_⟩
      · exact headings ▸ outlined.ordered
      · exact headings ▸ outlined.placed
      · rw [headings, paragraph]
        exact outlined.paragraph
    rw [unfenced, unindented, Option.isSome_none, Bool.or_false, Bool.and_false]
    exact (left.plain number behind).addLine _ _ _

end Outlined

/-! ## A whole document -/

theorem outlined_foldl {header : Nat} {lastClose : Option Nat} {inputs : List Input}
    (numbered : ∀ index input, inputs[index]? = some input →
      input.number = index + 1) :
    Outlined header (inputs.map fun input => input.source.content)
      ((linesFrom header lastClose {} inputs).map Line.inCode)
      (inputs.foldl (step header lastClose) {}) := by
  induction inputs using List.reverseRecOn with
  | nil => exact ⟨rfl, .nil, by simp [outline], by simp⟩
  | append_singleton inputs input ih =>
      have before := ih fun index other found => by
        have short := (List.getElem?_eq_some_iff.mp found).1
        exact numbered index other
          ((List.getElem?_append_left short).trans found)
      have number : input.number = inputs.length + 1 :=
        numbered inputs.length input List.getElem?_concat_length
      rw [List.map_append, linesFrom_append, List.map_append, List.foldl_append]
      exact before.step (by rw [number, List.length_map])

theorem headings_finish (state : State) :
    (finish state).headings = state.harvest.headings := by
  obtain ⟨codeBlocks, replay, same⟩ := finish_changes state
  rw [same]

end Scan

namespace Document

theorem outline_nameHeadings (dialect : Dialect) (naming : Naming)
    (drafts : List Scan.Draft) :
    ((nameHeadings dialect naming drafts).map fun heading =>
      (heading.line, heading.level)) = Scan.outline drafts := by
  induction drafts generalizing naming with
  | nil => rfl
  | cons draft drafts ih =>
      rw [nameHeadings, List.map_cons, ih]
      rfl

section

variable {dialect : Dialect} {text : Text} {document : Document}

theorem outlined_of_index (indexed : index dialect text = .ok document) :
    Scan.Outlined (headerOf (SourceLine.split text))
        ((scanned text).map fun input => input.source.content)
        (document.lines.map Line.inCode) (stateBehind text (scanned text)) ∧
      (document.headings.map fun heading => (heading.line, heading.level)) =
        (Scan.outline (stateBehind text (scanned text)).harvest.headings).reverse := by
  have recorded : (harvestOf text).headings =
      (stateBehind text (scanned text)).harvest.headings := by
    rw [harvestOf_eq, Scan.headings_finish]
    rfl
  refine ⟨?_, ?_⟩
  · rw [lines_of_index indexed]
    exact Scan.outlined_foldl fun _ _ => number_of_scanned
  · obtain ⟨frontMatter, -, -, rfl⟩ := exists_of_index indexed
    rw [← recorded, Scan.outline, ← List.map_reverse]
    exact outline_nameHeadings dialect {} _

theorem pairwise_line_headings (indexed : index dialect text = .ok document) :
    document.headings.Pairwise fun first second => first.line < second.line := by
  obtain ⟨outlined, outline⟩ := outlined_of_index indexed
  have ordered := List.pairwise_reverse.mpr outlined.ordered
  rw [← outline, List.pairwise_map] at ordered
  exact ordered

theorem placed_of_mem_headings (indexed : index dialect text = .ok document)
    {heading : Heading} (member : heading ∈ document.headings) :
    Scan.IsText (headerOf (SourceLine.split text))
        ((scanned text).map fun input => input.source.content)
        (document.lines.map Line.inCode) heading.line ∧
      1 ≤ heading.level ∧ heading.level ≤ 6 := by
  obtain ⟨outlined, outline⟩ := outlined_of_index indexed
  have inOutline := List.mem_map_of_mem
    (f := fun heading => (heading.line, heading.level)) member
  rw [outline, List.mem_reverse] at inOutline
  exact outlined.placed _ inOutline

/-- A line of ordinary text is recorded as neither code nor front matter, and no block
of code goes around it. -/
theorem line_of_isText (indexed : index dialect text = .ok document) {number : Nat}
    (isText : Scan.IsText (headerOf (SourceLine.split text))
      ((scanned text).map fun input => input.source.content)
      (document.lines.map Line.inCode) number) :
    ∃ index line, number = index + 1 ∧ document.lines[index]? = some line ∧
      line.inCode = false ∧ line.inFrontMatter = false ∧
      ∀ block ∈ document.codeBlocks,
        ¬ (block.firstLine ≤ number ∧ number ≤ block.lastLine) := by
  obtain ⟨index, content, rfl, behind, found, flagged, visible⟩ := isText
  rw [List.getElem?_map, Option.map_eq_some_iff] at flagged
  obtain ⟨line, recorded, noCode⟩ := flagged
  refine ⟨index, line, rfl, recorded, noCode, ?_, ?_⟩
  · obtain ⟨before, input, after, cut, rfl, rfl⟩ := exists_cut_of_line indexed recorded
    have number := @number_of_scanned text before.length input (by simp [cut])
    exact decide_eq_false (by omega)
  · rintro block inBlocks ⟨starts, ends⟩
    have isCode := ((agree_of_index indexed).flagged index content found).mpr
      ⟨block, inBlocks, starts, ends, Or.inr visible⟩
    rw [List.getElem?_map, recorded, Option.map_some, noCode] at isCode
    cases isCode

end

/-! ## The list of all anchors by line -/

section

variable {headings : List Heading} {tags : List HtmlAnchor}

theorem line_trans (one two three : Anchor) (before : decide (one.line ≤ two.line) = true)
    (after : decide (two.line ≤ three.line) = true) :
    decide (one.line ≤ three.line) = true :=
  decide_eq_true (Nat.le_trans (of_decide_eq_true before) (of_decide_eq_true after))

theorem line_total (one two : Anchor) :
    (decide (one.line ≤ two.line) || decide (two.line ≤ one.line)) = true := by
  simpa using Nat.le_total one.line two.line

theorem perm_allAnchors (headings : List Heading) (tags : List HtmlAnchor) :
    (allAnchors headings tags).Perm (headings.flatMap headingAnchors ++
      tags.map fun tag => ⟨tag.id, true, .html, tag.line⟩) :=
  List.mergeSort_perm _ _

theorem pairwise_line_allAnchors (headings : List Heading) (tags : List HtmlAnchor) :
    (allAnchors headings tags).Pairwise fun first second =>
      first.line ≤ second.line :=
  (List.pairwise_mergeSort line_trans line_total _).imp of_decide_eq_true

theorem of_mem_headingAnchors {heading : Heading} {anchor : Anchor}
    (member : anchor ∈ headingAnchors heading) :
    anchor.line = heading.line ∧ anchor.origin ≠ .html := by
  simp only [headingAnchors, List.mem_append, List.mem_map] at member
  rcases member with ⟨id, -, rfl⟩ | computed
  · exact ⟨rfl, by simp⟩
  · split at computed
    · cases computed
    · rw [List.mem_singleton.mp computed]
      exact ⟨rfl, by simp⟩

/-- Sorting keeps the order of the anchors of headings. -/
theorem sublist_allAnchors (ordered : headings.Pairwise fun first second =>
    first.line < second.line) :
    (headings.flatMap headingAnchors).Sublist (allAnchors headings tags) := by
  refine List.sublist_mergeSort line_trans line_total ?_ (List.sublist_append_left _ _)
  refine List.pairwise_flatMap.mpr ⟨fun heading _ => ?_, ordered.imp ?_⟩
  · refine List.pairwise_of_forall_mem_list fun one isOne other isOther => ?_
    rw [(of_mem_headingAnchors isOne).1, (of_mem_headingAnchors isOther).1]
    exact decide_eq_true (Nat.le_refl _)
  · intro first second before one isOne other isOther
    rw [(of_mem_headingAnchors isOne).1, (of_mem_headingAnchors isOther).1]
    exact decide_eq_true (Nat.le_of_lt before)

/-- Apart from those of tags, the anchors are those of the headings, in order. -/
theorem filter_allAnchors (ordered : headings.Pairwise fun first second =>
    first.line < second.line) :
    (allAnchors headings tags).filter (·.origin ≠ .html) =
      headings.flatMap headingAnchors := by
  have own : (headings.flatMap headingAnchors).filter (·.origin ≠ .html) =
      headings.flatMap headingAnchors := by
    refine List.filter_eq_self.mpr fun anchor member => ?_
    obtain ⟨heading, -, isOwn⟩ := List.mem_flatMap.mp member
    exact decide_eq_true (of_mem_headingAnchors isOwn).2
  have part : ((headings.flatMap headingAnchors).filter (·.origin ≠ .html)).Sublist
      ((allAnchors headings tags).filter (·.origin ≠ .html)) :=
    (sublist_allAnchors ordered).filter _
  have counts := ((perm_allAnchors headings tags).filter (·.origin ≠ .html)).length_eq
  rw [own] at part
  refine (part.eq_of_length ?_).symm
  rw [counts, List.filter_append, own]
  simp

/-- The anchors of headings from one origin, in order. -/
theorem filter_origin_allAnchors (ordered : headings.Pairwise fun first second =>
    first.line < second.line) {origin : AnchorOrigin} (own : origin ≠ .html) :
    (allAnchors headings tags).filter (·.origin = origin) =
      headings.flatMap fun heading =>
        (headingAnchors heading).filter (·.origin = origin) := by
  rw [← List.filter_flatMap, ← filter_allAnchors ordered, List.filter_filter]
  refine List.filter_congr fun anchor _ => ?_
  by_cases same : anchor.origin = origin
  · simp [same, own]
  · simp [same]

theorem filter_tag_allAnchors (headings : List Heading) (tags : List HtmlAnchor) :
    ((allAnchors headings tags).filter (·.origin = .html)).Perm
      (tags.map fun tag => ⟨tag.id, true, .html, tag.line⟩) := by
  have none_ : (headings.flatMap headingAnchors).filter (·.origin = .html) = [] := by
    refine List.filter_eq_nil_iff.mpr fun anchor member => ?_
    obtain ⟨heading, -, isOwn⟩ := List.mem_flatMap.mp member
    simpa using (of_mem_headingAnchors isOwn).2
  have all : (tags.map fun tag => (⟨tag.id, true, .html, tag.line⟩ : Anchor)).filter
      (·.origin = .html) = tags.map fun tag => ⟨tag.id, true, .html, tag.line⟩ := by
    simp [List.filter_eq_self]
  have perm := (perm_allAnchors headings tags).filter (·.origin = .html)
  rwa [List.filter_append, none_, all, List.nil_append] at perm

end

variable {dialect : Dialect} {text : Text} {document : Document}

/-- Headings are in the strict order of their lines, they have one of six levels, and
they stand neither in front matter nor in a block of code.  The anchors are sorted by
line.  They are one for each heading whose text yields an anchor, one for each heading
with an anchor of its own, which comes before the other one, and one for each tag with
an identifier, always with the line of the element. -/
theorem headings_and_anchors_in_order (indexed : index dialect text = .ok document) :
    document.headings.Pairwise (fun first second => first.line < second.line) ∧
    (∀ heading ∈ document.headings, 1 ≤ heading.level ∧ heading.level ≤ 6 ∧
      ∃ index line, heading.line = index + 1 ∧ document.lines[index]? = some line ∧
        line.inCode = false ∧ line.inFrontMatter = false ∧
        ∀ block ∈ document.codeBlocks,
          ¬ (block.firstLine ≤ heading.line ∧ heading.line ≤ block.lastLine)) ∧
    document.anchors.Pairwise (fun first second => first.line ≤ second.line) ∧
    document.anchors.filter (·.origin = .heading) =
      document.headings.filterMap (fun heading =>
        if heading.autoAnchor = [] then none
        else some ⟨heading.autoAnchor, false, .heading, heading.line⟩) ∧
    document.anchors.filter (·.origin = .custom) =
      document.headings.filterMap (fun heading => heading.customAnchor.map fun id =>
        ⟨id, true, .custom, heading.line⟩) ∧
    (document.anchors.filter (·.origin = .html)).Perm
      (document.htmlAnchors.map fun tag => ⟨tag.id, true, .html, tag.line⟩) ∧
    ∀ heading ∈ document.headings, ∀ id, heading.customAnchor = some id →
      heading.autoAnchor ≠ [] →
        [⟨id, true, .custom, heading.line⟩,
          ⟨heading.autoAnchor, false, .heading, heading.line⟩].Sublist
            document.anchors := by
  have ordered := pairwise_line_headings indexed
  rw [anchors_of_index indexed]
  refine ⟨ordered, ?_, pairwise_line_allAnchors _ _, ?_, ?_,
    filter_tag_allAnchors _ _, ?_⟩
  · intro heading member
    obtain ⟨isText, atLeast, atMost⟩ := placed_of_mem_headings indexed member
    exact ⟨atLeast, atMost, line_of_isText indexed isText⟩
  · rw [filter_origin_allAnchors ordered (by decide), List.filterMap_eq_flatMap_toList]
    refine congrArg (List.flatMap · document.headings) (funext fun heading => ?_)
    rw [headingAnchors, List.filter_append]
    cases heading.customAnchor <;> cases heading.autoAnchor <;> simp
  · rw [filter_origin_allAnchors ordered (by decide), List.filterMap_eq_flatMap_toList]
    refine congrArg (List.flatMap · document.headings) (funext fun heading => ?_)
    rw [headingAnchors, List.filter_append]
    cases heading.customAnchor <;> cases heading.autoAnchor <;> simp
  · intro heading member id own visible
    have both : headingAnchors heading = [⟨id, true, .custom, heading.line⟩,
        ⟨heading.autoAnchor, false, .heading, heading.line⟩] := by
      simp [headingAnchors, own, visible]
    rw [← both]
    have among : (headingAnchors heading).Sublist
        (document.headings.flatMap headingAnchors) :=
      List.sublist_flatten_of_mem (List.mem_map_of_mem member)
    exact among.trans (sublist_allAnchors ordered)

/-- A heading that is underlined below its paragraph, one without an anchor behind
indented code, one in a block quote whose paragraph goes on behind it, and one with an
attribute line. -/
def headedText : Text :=
  ("<a id=t></a>\nOne\nmore {#c}\n===\n\n    code\n## &\n> a\nb\n===\n> ===\n"
    ++ "### <a id=y></a> Z\n{#q}\n").toList

theorem headings_and_anchors_in_order_headed :
    ∃ document, index .github headedText = .ok document ∧
      document.headings.map (fun heading => (heading.line, heading.level)) =
        [(2, 1), (7, 2), (8, 1), (12, 3)] ∧
      (∀ heading ∈ document.headings, ∀ block ∈ document.codeBlocks,
        ¬ (block.firstLine ≤ heading.line ∧ heading.line ≤ block.lastLine)) ∧
      document.anchors.Pairwise (fun first second => first.line ≤ second.line) ∧
      document.anchors.filter (·.origin = .heading) =
        [⟨"one-more".toList, false, .heading, 2⟩, ⟨"a-b-".toList, false, .heading, 8⟩,
          ⟨['z'], false, .heading, 12⟩] ∧
      document.anchors.filter (·.origin = .custom) =
        [⟨['c'], true, .custom, 2⟩, ⟨['q'], true, .custom, 12⟩] := by
  have found : (index .github headedText).toOption.any (fun document =>
      document.headings ==
        [ ⟨1, "One more".toList, 2, "one-more".toList, some ['c'], .setext⟩,
          ⟨2, ['&'], 7, [], none, .atx⟩,
          ⟨1, "a b ===".toList, 8, "a-b-".toList, none, .setext⟩,
          ⟨3, "<a id=y></a> Z".toList, 12, ['z'], some ['q'], .atx⟩ ]) = true := by
    decide +kernel
  obtain ⟨document, indexed, evaluated⟩ := (Option.any_eq_true _ _).mp found
  have indexed := Outcome.toOption_eq_some.mp indexed
  have headings := beq_iff_eq.mp evaluated
  obtain ⟨ordered, placed, sorted, computed, own, -⟩ :=
    headings_and_anchors_in_order indexed
  refine ⟨document, indexed, ?_, ?_, sorted, ?_, ?_⟩
  · rw [headings]
    rfl
  · intro heading member
    obtain ⟨-, -, index, line, -, -, -, -, outside⟩ := placed heading member
    exact outside
  · rw [computed, headings]
    rfl
  · rw [own, headings]
    rfl

end Document

end AnchorLint
