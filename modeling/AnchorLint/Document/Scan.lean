import AnchorLint.Document.Comment
import AnchorLint.Rule.Replay

/-!
# The scan over the lines

A document is read in one pass over its lines.  The context says what the next
line continues: a fenced or indented block of code, a comment, a paragraph, a
list.  The harvest collects what has been found, last first, except for the
definitions, which stay in order.
-/

namespace AnchorLint

namespace Scan

/-- The lines of a paragraph so far, last first, with the number of its first
line and whether it stands in a block quote. -/
structure Paragraph where
  line : Nat
  quoted : Bool
  bodies : List Text
deriving DecidableEq

/-- What the next line continues. -/
structure Context where
  /-- The open fence and the number of its line. -/
  fence : Option (Nat × Block.Fence) := none
  /-- The first line of the open block of indented code and its last line that
  is not blank. -/
  indented : Option (Nat × Nat) := none
  comment : Option Comment.Pending := none
  paragraph : Option Paragraph := none
  /-- Whether an attribute line belongs to the last heading. -/
  takesAttributes : Bool := false
  afterBlank : Bool := true
  inList : Bool := false

/-- A heading before its anchor is computed from `source`. -/
structure Draft where
  level : Nat
  text : Text
  source : Text
  line : Nat
  style : HeadingStyle
  custom : Option Text
deriving DecidableEq

/-- What has been found so far. -/
structure Harvest where
  lines : List Line := []
  codeBlocks : List CodeBlock := []
  headings : List Draft := []
  htmlAnchors : List HtmlAnchor := []
  footnoteRefs : List Footnote := []
  footnoteDefs : List Footnote := []
  links : List Link := []
  pending : List Inline.PendingReference := []
  definitions : Entries Text ReferenceDefinition := []
  replay : Replay := {}

/-- The state between two lines. -/
structure State where
  context : Context := {}
  harvest : Harvest := {}

/-- A line together with what is known about it in advance: its number, its
body without block quote marks, and the closing fences behind it. -/
structure Input where
  number : Nat
  source : SourceLine
  body : Text
  closers : Block.Closers

namespace Input

def place (input : Input) : Inline.Place :=
  ⟨input.number, input.source.span.start, input.source.content⟩

def quoted (input : Input) : Bool :=
  input.body.length != input.source.content.length

end Input

namespace Harvest

def addLine (harvest : Harvest) (input : Input) (inCode inFrontMatter : Bool) :
    Harvest :=
  { harvest with
    lines := ⟨input.source.span, inCode, inFrontMatter⟩ :: harvest.lines }

def addCodeBlock (harvest : Harvest) (block : CodeBlock) : Harvest :=
  { harvest with codeBlocks := block :: harvest.codeBlocks }

/-- Records the block of indented code that a context leaves open. -/
def closeIndented (harvest : Harvest) (indented : Option (Nat × Nat)) :
    Harvest :=
  match indented with
  | some (first, last) => harvest.addCodeBlock ⟨first, last, [], []⟩
  | none => harvest

def addHeading (harvest : Harvest) (draft : Draft) : Harvest :=
  { harvest with headings := draft :: harvest.headings }

/-- Gives the last heading an anchor unless it has one. -/
def nameHeading (harvest : Harvest) (custom : Option Text) : Harvest :=
  match harvest.headings with
  | draft :: drafts =>
    if draft.custom = none then
      { harvest with headings := { draft with custom := custom } :: drafts }
    else harvest
  | [] => harvest

/-- Records a link definition; the first one with a label counts. -/
def addDefinition (harvest : Harvest) (line : Nat)
    (definition : Block.Definition) : Harvest :=
  let label := Block.normalizeLabel definition.label
  { harvest with
    definitions := harvest.definitions.putNew label
      ⟨label, definition.target, definition.title, line⟩ }

def addElements (harvest : Harvest) (elements : Inline.Elements) : Harvest :=
  { harvest with
    htmlAnchors := elements.htmlAnchors.reverse ++ harvest.htmlAnchors
    footnoteRefs := elements.footnotes.reverse ++ harvest.footnoteRefs
    links := elements.links.reverse ++ harvest.links
    pending := elements.pending.reverse ++ harvest.pending }

/-- Feeds the inside of a comment that opened on a line. -/
def addComment (harvest : Harvest) (comment : Nat × Text) : Harvest :=
  match Directive.parse? comment.2 with
  | some directive =>
    { harvest with replay := harvest.replay.feed comment.1 directive }
  | none => harvest

end Harvest

/-- The state behind a line of fenced code. -/
def afterFenced (state : State) : State :=
  { state with
    context := { state.context with
      paragraph := none, takesAttributes := false, afterBlank := false } }

/-- The state behind a line that opens, continues or closes a fenced block, if
the line does.  A fence that nothing closes is ordinary text. -/
def fenced? (state : State) (input : Input) : Option State :=
  let context := state.context
  let fence := Block.Fence.parse? input.body
  match context.fence, fence with
  | some (first, opener), fence =>
    if fence.any fun fence => fence.closes opener then
      some (afterFenced
        { context := { context with fence := none }
          harvest := state.harvest.addCodeBlock
            ⟨first, input.number, opener.marker, opener.info⟩ })
    else some (afterFenced state)
  | none, none => none
  | none, some fence =>
    let info := Text.trim fence.info
    if context.comment.isSome then none
    else if context.indented.isSome ∧ 4 ≤ Block.indentWidth input.body then
      none
    else if fence.character = Markup.backtick
        ∧ info.elem Markup.backtick then none
    else if input.closers.longest fence.character < fence.size then none
    else
      some (afterFenced
        { context := { context with
            fence := some (input.number, { fence with info := info })
            indented := none }
          harvest := state.harvest.closeIndented context.indented })

/-- The state behind a line of indented code, if the line is one.  A block
begins behind a blank line, outside paragraphs and lists. -/
def indented? (state : State) (input : Input) : Option State :=
  let context := state.context
  let content := input.source.content
  let codeFrom (first : Nat) : State :=
    { state with
      context := { context with
        indented := some (first, input.number)
        paragraph := none, takesAttributes := false, afterBlank := false } }
  if context.comment.isSome ∨ Text.isBlank content
      ∨ Block.indentWidth content < 4 then none
  else
    match context.indented with
    | some (first, _) => some (codeFrom first)
    | none =>
      if context.afterBlank ∧ context.paragraph.isNone ∧ !context.inList then
        some (codeFrom input.number)
      else none

/-- A line that is no code ends a block of indented code, unless it is blank
or inside a comment. -/
def leaveIndented (state : State) (input : Input) : State :=
  if state.context.comment.isSome ∨ Text.isBlank input.source.content then
    state
  else
    { context := { state.context with indented := none }
      harvest := state.harvest.closeIndented state.context.indented }

/-- The heading on a line with hash signs. -/
def atxDraft (line level : Nat) (rest : Text) : Draft :=
  let (content, custom) := Attribute.splitSuffix rest
  let content := Block.stripClosingHashes content
  { level := level, text := Text.trim content, source := content, line := line
    style := .atx, custom := custom }

/-- The heading that an underline makes of a paragraph. -/
def setextDraft (level : Nat) (paragraph : Paragraph) : Draft :=
  let raw := Text.join ['\n'] (paragraph.bodies.reverse.map Text.trim)
  let (raw, custom) := Attribute.splitSuffix raw
  let text := Text.join [' '] (Text.words raw)
  { level := level, text := text, source := text, line := paragraph.line
    style := .setext, custom := custom }

/-- What a line outside of code and comments turns out to be. -/
inductive Kind where
  | attributes (custom : Option Text)
  | atx (draft : Draft)
  | setext (draft : Draft)
  | definition (definition : Block.Definition)
  | footnote (id : Text) (length : Nat)
  | prose (continues : Bool)

/-- Decides what a line is, given the paragraph before it. -/
def kindOf (input : Input) (masked : Text) (paragraph : Option Paragraph) :
    Kind :=
  let body := input.body
  match Attribute.line? body with
  | some attributes => .attributes (Attribute.customId? attributes)
  | none =>
    match Block.atx? body with
    | some (level, rest) => .atx (atxDraft input.number level rest)
    | none =>
      let underlined := paragraph.filter fun paragraph =>
        paragraph.quoted == input.quoted
      match Block.underline? body, underlined with
      | some level, some paragraph => .setext (setextDraft level paragraph)
      | _, _ =>
        let definition := (Block.definition? body).filter fun definition =>
          !Text.startsWith definition.label ['^']
        match definition, Block.footnoteDefinition? masked with
        | some definition, _ => .definition definition
        | none, some (id, length) => .footnote id length
        | none, none =>
          .prose !(Block.isListItem body || Block.isThematicBreak body
            || Block.isHtmlBlock body)

def extendParagraph (paragraph : Option Paragraph) (input : Input) :
    Paragraph :=
  match paragraph with
  | some paragraph =>
    { paragraph with bodies := input.body :: paragraph.bodies }
  | none => ⟨input.number, input.quoted, [input.body]⟩

/-- Records a line of a known kind; `takesAttributes` says whether an
attribute line belongs to the last heading. -/
def record (harvest : Harvest) (input : Input) (masked : Text)
    (takesAttributes : Bool) (kind : Kind) : Harvest :=
  let place := input.place
  match kind with
  | .attributes custom =>
    if takesAttributes then harvest.nameHeading custom else harvest
  | .atx draft =>
    (harvest.addHeading draft).addElements (place.elements masked)
  | .setext draft => harvest.addHeading draft
  | .definition definition => harvest.addDefinition input.number definition
  | .footnote id length =>
    let note : Footnote :=
      ⟨id, input.number, ⟨place.offset, place.offset + length⟩⟩
    { harvest with footnoteDefs := note :: harvest.footnoteDefs }.addElements
      (place.elements (Inline.blank masked [⟨0, length⟩]))
  | .prose _ => harvest.addElements (place.elements masked)

/-- Whether the next line continues a list. -/
def listAfter (context : Context) (input : Input) (kind : Kind) : Bool :=
  match kind with
  | .atx _ => false
  | _ =>
    Block.isListItem input.body ||
      (context.inList && !(context.afterBlank
        && Block.indentWidth input.source.content == 0))

/-- The state behind a line that is no code. -/
def plain (state : State) (input : Input) (lastClose : Option Nat) : State :=
  let before := state.context
  let masked := Comment.mask input.place lastClose before.comment
  let harvest := masked.closed.foldl Harvest.addComment state.harvest
  let context := { before with
    comment := masked.pending, takesAttributes := false }
  if Text.isBlank input.source.content then
    { context := { context with paragraph := none, afterBlank := true }
      harvest := harvest }
  else if before.comment.isSome then
    { context := { context with paragraph := none, afterBlank := false }
      harvest := harvest.addElements (input.place.elements masked.text) }
  else
    let kind := kindOf input masked.text before.paragraph
    { context := { context with
        afterBlank := false
        inList := listAfter before input kind
        takesAttributes :=
          match kind with
          | .atx _ | .setext _ => true
          | _ => false
        paragraph :=
          match kind with
          | .prose true => some (extendParagraph before.paragraph input)
          | _ => none }
      harvest := record harvest input masked.text before.takesAttributes
        kind }

/-- The state behind one more line; the first `header` lines are front
matter. -/
def step (header : Nat) (lastClose : Option Nat) (state : State)
    (input : Input) : State :=
  let finish (state : State) (inCode inFrontMatter : Bool) : State :=
    { state with
      harvest := state.harvest.addLine input inCode inFrontMatter }
  if input.number ≤ header then finish state false true
  else
    match fenced? state input with
    | some state => finish state true false
    | none =>
      match indented? state input with
      | some state => finish state true false
      | none =>
        finish (plain (leaveIndented state input) input lastClose) false false

/-- The lines with what is known about them in advance. -/
def inputs (lines : List SourceLine) : List Input :=
  let bodies := lines.map fun line => Block.body line.content
  let closers := (Block.Closers.sweep bodies).1
  (lines.zip (bodies.zip closers)).zipIdx.map fun entry =>
    ⟨entry.2 + 1, entry.1.1, entry.1.2.1, entry.1.2.2⟩

/-- The harvest of a whole document: at its end an open block of indented code
ends, and so does a comment. -/
def run (header : Nat) (lastClose : Option Nat) (lines : List SourceLine) :
    Harvest :=
  let state := (inputs lines).foldl (step header lastClose) {}
  let harvest := state.harvest.closeIndented state.context.indented
  match state.context.comment with
  | some pending => harvest.addComment (pending.line, pending.body)
  | none => harvest

end Scan

end AnchorLint
