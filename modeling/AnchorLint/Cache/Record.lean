import AnchorLint.Document.Basic

/-!
# Cached documents

What a cache file says about a document: every field of its index but the
text.  The shape of a record is fixed, but its atoms are whatever the file
holds; a record stands for a document if all of them are of the right kind.
-/

namespace AnchorLint

namespace Cache

structure LineRecord where
  start : Value
  stop : Value
  inCode : Bool
  inFrontMatter : Bool

structure CodeBlockRecord where
  firstLine : Value
  lastLine : Value
  fence : Value
  info : Value

structure HeadingRecord where
  level : Value
  text : Value
  line : Value
  autoAnchor : Value
  customAnchor : Value
  style : Value

structure HtmlAnchorRecord where
  id : Value
  line : Value
  start : Value
  stop : Value
  tag : Value

structure AnchorRecord where
  value : Value
  caseSensitive : Value
  origin : AnchorOrigin
  line : Value

structure FootnoteRecord where
  id : Value
  line : Value
  start : Value
  stop : Value

structure LinkRecord where
  target : Value
  fragment : Value
  line : Value
  column : Value
  start : Value
  stop : Value
  kind : LinkKind
  path : Value
  text : Value
  style : Value
  reference : Value
  isImage : Bool

structure DefinitionRecord where
  label : Value
  target : Value
  title : Value
  line : Value

structure RegionRecord where
  rule : Value
  firstLine : Value
  lastLine : Value
  source : RegionSource

/-- A cached document. -/
structure Record where
  digest : Value
  lines : List LineRecord
  codeBlocks : List CodeBlockRecord
  headings : List HeadingRecord
  htmlAnchors : List HtmlAnchorRecord
  anchors : List AnchorRecord
  footnoteRefs : List FootnoteRecord
  footnoteDefs : List FootnoteRecord
  links : List LinkRecord
  definitions : Entries Text DefinitionRecord
  regions : List RegionRecord
  frontMatter : List (Value × Value)
  frontMatterSpan : Option (Value × Value)
  frontMatterError : Value
  configuration : List (Value × Value)

/-! ## The record of a document -/

def ofNat (number : Nat) : Value :=
  .int number

def ofNat? : Option Nat → Value
  | some number => ofNat number
  | none => .null

def ofText? : Option Text → Value
  | some text => .str text
  | none => .null

def LineRecord.ofLine (line : Line) : LineRecord :=
  ⟨ofNat line.span.start, ofNat line.span.stop, line.inCode,
    line.inFrontMatter⟩

def CodeBlockRecord.ofBlock (block : CodeBlock) : CodeBlockRecord :=
  ⟨ofNat block.firstLine, ofNat block.lastLine, .str block.fence,
    .str block.info⟩

def HeadingRecord.ofHeading (heading : Heading) : HeadingRecord :=
  ⟨ofNat heading.level, .str heading.text, ofNat heading.line,
    .str heading.autoAnchor, ofText? heading.customAnchor,
    .str heading.style.name⟩

def HtmlAnchorRecord.ofAnchor (anchor : HtmlAnchor) : HtmlAnchorRecord :=
  ⟨.str anchor.id, ofNat anchor.line, ofNat anchor.span.start,
    ofNat anchor.span.stop, .str anchor.tag⟩

def AnchorRecord.ofAnchor (anchor : Anchor) : AnchorRecord :=
  ⟨.str anchor.value, .bool anchor.caseSensitive, anchor.origin,
    ofNat anchor.line⟩

def FootnoteRecord.ofFootnote (footnote : Footnote) : FootnoteRecord :=
  ⟨.str footnote.id, ofNat footnote.line, ofNat footnote.span.start,
    ofNat footnote.span.stop⟩

def LinkRecord.ofLink (link : Link) : LinkRecord :=
  { target := .str link.target
    fragment := ofText? link.fragment
    line := ofNat link.line
    column := ofNat link.column
    start := ofNat link.span.start
    stop := ofNat link.span.stop
    kind := link.kind
    path := ofText? link.path
    text := .str link.text
    style := .str link.style.name
    reference := ofText? link.reference
    isImage := link.isImage }

def DefinitionRecord.ofDefinition (definition : ReferenceDefinition) :
    DefinitionRecord :=
  ⟨.str definition.label, .str definition.target, ofText? definition.title,
    ofNat definition.line⟩

def RegionRecord.ofRegion (region : Region) : RegionRecord :=
  ⟨.str region.rule, ofNat region.firstLine, ofNat? region.lastLine,
    region.source⟩

def Record.ofDocument (document : Document) : Record :=
  { digest := .str document.digest
    lines := document.lines.map .ofLine
    codeBlocks := document.codeBlocks.map .ofBlock
    headings := document.headings.map .ofHeading
    htmlAnchors := document.htmlAnchors.map .ofAnchor
    anchors := document.anchors.map .ofAnchor
    footnoteRefs := document.footnoteRefs.map .ofFootnote
    footnoteDefs := document.footnoteDefs.map .ofFootnote
    links := document.links.map .ofLink
    definitions := document.definitions.map fun entry =>
      (entry.1, .ofDefinition entry.2)
    regions := document.regions.map .ofRegion
    frontMatter := document.frontMatter
    frontMatterSpan := document.frontMatterSpan.map fun span =>
      (ofNat span.start, ofNat span.stop)
    frontMatterError :=
      ofText? (document.frontMatterError.map FrontMatterError.text)
    configuration := document.configuration.map fun entry =>
      (.str entry.1, entry.2) }

/-! ## The document of a record -/

def nat? : Value → Option Nat
  | .int number => if 0 ≤ number then some number.toNat else none
  | _ => none

def text? : Value → Option Text
  | .str text => some text
  | _ => none

def bool? : Value → Option Bool
  | .bool value => some value
  | _ => none

/-- What an atom is if it may also be missing. -/
def orNull? {α : Type} (read : Value → Option α) : Value → Option (Option α)
  | .null => some none
  | value => (read value).map some

def span? (start stop : Value) : Option Span := do
  return ⟨← nat? start, ← nat? stop⟩

/-- The span between two atoms, unless there are none. -/
def spanBetween? : Option (Value × Value) → Option (Option Span)
  | some (start, stop) => (span? start stop).map some
  | none => some none

def LineRecord.toLine? (record : LineRecord) : Option Line := do
  return ⟨← span? record.start record.stop, record.inCode,
    record.inFrontMatter⟩

def CodeBlockRecord.toBlock? (record : CodeBlockRecord) :
    Option CodeBlock := do
  return ⟨← nat? record.firstLine, ← nat? record.lastLine,
    ← text? record.fence, ← text? record.info⟩

def headingStyle? (value : Value) : Option HeadingStyle := do
  let name ← text? value
  [HeadingStyle.atx, .setext].find? fun style => style.name == name

def HeadingRecord.toHeading? (record : HeadingRecord) : Option Heading := do
  return ⟨← nat? record.level, ← text? record.text, ← nat? record.line,
    ← text? record.autoAnchor, ← orNull? text? record.customAnchor,
    ← headingStyle? record.style⟩

def HtmlAnchorRecord.toAnchor? (record : HtmlAnchorRecord) :
    Option HtmlAnchor := do
  return ⟨← text? record.id, ← nat? record.line,
    ← span? record.start record.stop, ← text? record.tag⟩

def AnchorRecord.toAnchor? (record : AnchorRecord) : Option Anchor := do
  return ⟨← text? record.value, ← bool? record.caseSensitive, record.origin,
    ← nat? record.line⟩

def FootnoteRecord.toFootnote? (record : FootnoteRecord) :
    Option Footnote := do
  return ⟨← text? record.id, ← nat? record.line,
    ← span? record.start record.stop⟩

def linkStyle? (value : Value) : Option LinkStyle := do
  let name ← text? value
  [LinkStyle.inline, .reference, .autolink].find? fun style =>
    style.name == name

def LinkRecord.toLink? (record : LinkRecord) : Option Link := do
  return ⟨← text? record.target, ← orNull? text? record.fragment,
    ← nat? record.line, ← nat? record.column,
    ← span? record.start record.stop, record.kind,
    ← orNull? text? record.path, ← text? record.text,
    ← linkStyle? record.style, ← orNull? text? record.reference,
    record.isImage⟩

def DefinitionRecord.toDefinition? (record : DefinitionRecord) :
    Option ReferenceDefinition := do
  return ⟨← text? record.label, ← text? record.target,
    ← orNull? text? record.title, ← nat? record.line⟩

def RegionRecord.toRegion? (record : RegionRecord) : Option Region := do
  return ⟨← text? record.rule, ← nat? record.firstLine,
    ← orNull? nat? record.lastLine, record.source⟩

/-- The document of a record, if all atoms are of the right kind.  Its text is
not known. -/
def Record.toDocument? (record : Record) : Option Document := do
  let frontMatterSpan ← spanBetween? record.frontMatterSpan
  let error ← orNull? text? record.frontMatterError
  return {
    text := []
    lines := ← record.lines.mapM (·.toLine?)
    codeBlocks := ← record.codeBlocks.mapM (·.toBlock?)
    headings := ← record.headings.mapM (·.toHeading?)
    htmlAnchors := ← record.htmlAnchors.mapM (·.toAnchor?)
    anchors := ← record.anchors.mapM (·.toAnchor?)
    footnoteRefs := ← record.footnoteRefs.mapM (·.toFootnote?)
    footnoteDefs := ← record.footnoteDefs.mapM (·.toFootnote?)
    links := ← record.links.mapM (·.toLink?)
    definitions := ← record.definitions.mapM fun entry =>
      entry.2.toDefinition?.map fun definition => (entry.1, definition)
    regions := ← record.regions.mapM (·.toRegion?)
    frontMatter := record.frontMatter
    frontMatterSpan := frontMatterSpan
    frontMatterError := error.map FrontMatterError.ofText
    configuration := ← record.configuration.mapM fun entry =>
      (text? entry.1).map fun name => (name, entry.2)
    digest := ← text? record.digest }

end Cache

end AnchorLint
