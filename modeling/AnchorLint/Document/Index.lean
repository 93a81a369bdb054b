import AnchorLint.Anchor.Generate
import AnchorLint.Document.Basic
import AnchorLint.Document.Scan
import AnchorLint.FrontMatter
import AnchorLint.Text.Digest

/-!
# Indexing documents

The index of a document is built from the harvest of the scan over its lines:
references are looked up, the anchors of headings are computed and made unique,
and all anchors are listed by line.  Indexing fails only where the data in
front matter or comments cannot exist.
-/

namespace AnchorLint

inductive IndexError where
  | frontMatter (fault : FrontMatter.Fault)
  | oversizedInteger (digits : Nat)
deriving DecidableEq

def IndexError.message : IndexError → Text
  | frontMatter fault => fault.message
  | oversizedInteger digits => ReadError.tooLongMessage digits

namespace Document

/-- The mark that some editors put before the first character of a file. -/
def byteOrderMark : Char :=
  Char.ofNat 0xFEFF

/-- The block of front matter at the start of a document: its delimiter, the
lines inside, and the number of lines it takes up. -/
def frontMatterBlock? (lines : List SourceLine) :
    Option (Text × List Text × Nat) :=
  match lines with
  | [] => none
  | first :: rest =>
    let delimiter := Text.trimRight
      (first.content.dropWhile (· == byteOrderMark))
    if delimiter = FrontMatter.yamlDelimiter
        ∨ delimiter = FrontMatter.tomlDelimiter then
      let closers := FrontMatter.closersOf delimiter
      let inside := (rest.map SourceLine.content).takeWhile fun content =>
        !closers.contains (Text.trimRight content)
      if inside.length < rest.length then
        some (delimiter, inside, inside.length + 2)
      else none
    else none

/-- The link that a reference makes once its definition is known. -/
def resolveReference? (definitions : Entries Text ReferenceDefinition)
    (reference : Inline.PendingReference) : Option Link := do
  let definition ← definitions.lookup reference.label
  Inline.makeLink? definition.target reference.line reference.column
    reference.span reference.text .reference (some reference.label)
    reference.isImage

/-- All links of a document.  If it has references, the links are put in the
order of their starts. -/
def allLinks (links : List Link) (pending : List Inline.PendingReference)
    (definitions : Entries Text ReferenceDefinition) : List Link :=
  if pending.isEmpty then links
  else
    (links ++ pending.filterMap (resolveReference? definitions)).mergeSort
      fun first second => first.span.start ≤ second.span.start

/-- The anchor with a number that tells it from others with the same text. -/
def numbered (anchor : Text) (number : Nat) : Text :=
  anchor ++ '-' :: Text.ofNat number

/-- The first number from `number` on with which an anchor is still free.
`steps` bounds the search; as many steps as there are used anchors suffice. -/
def freeNumber (used : List Text) (anchor : Text) :
    (steps number : Nat) → Nat
  | 0, number => number
  | steps + 1, number =>
    if used.contains (numbered anchor number) then
      freeNumber used anchor steps (number + 1)
    else number

/-- The anchors given so far, and the last number given to each text. -/
structure Naming where
  used : List Text := []
  numbers : List (Text × Nat) := []

/-- The anchor of a heading whose text yields `anchor`, and the naming behind
it. -/
def Naming.give (naming : Naming) (anchor : Text) : Text × Naming :=
  if anchor.isEmpty then (anchor, naming)
  else if naming.used.contains anchor then
    let number := freeNumber naming.used anchor naming.used.length
      ((naming.numbers.lookup anchor).getD 0 + 1)
    let name := numbered anchor number
    (name, { used := name :: naming.used
             numbers := (anchor, number) :: naming.numbers })
  else (anchor, { naming with used := anchor :: naming.used })

def nameHeadings (dialect : Dialect) (naming : Naming) :
    List Scan.Draft → List Heading
  | [] => []
  | draft :: drafts =>
    let (anchor, naming) := naming.give
      (Anchor.generate dialect draft.source)
    ⟨draft.level, draft.text, draft.line, anchor, draft.custom, draft.style⟩
      :: nameHeadings dialect naming drafts

/-- The anchors of a heading: its own one, and the computed one, which stays
linkable beside it. -/
def headingAnchors (heading : Heading) : List Anchor :=
  let custom : List Anchor := heading.customAnchor.toList.map fun id =>
    ⟨id, true, .custom, heading.line⟩
  let computed : List Anchor :=
    if heading.autoAnchor.isEmpty then []
    else [⟨heading.autoAnchor, false, .heading, heading.line⟩]
  custom ++ computed

def allAnchors (headings : List Heading) (htmlAnchors : List HtmlAnchor) :
    List Anchor :=
  let tagged : List Anchor := htmlAnchors.map fun anchor =>
    ⟨anchor.id, true, .html, anchor.line⟩
  (headings.flatMap headingAnchors ++ tagged).mergeSort
    fun first second => first.line ≤ second.line

def index (dialect : Dialect) (text : Text) : Except IndexError Document :=
  let lines := SourceLine.split text
  let block := frontMatterBlock? lines
  let decoded : Except FrontMatter.Fault FrontMatter :=
    match block with
    | some (delimiter, inside, _) =>
      FrontMatter.decode delimiter (Text.join ['\n'] inside)
    | none => .ok {}
  match decoded with
  | .error fault => .error (.frontMatter fault)
  | .ok frontMatter =>
    let header := (block.map fun found => found.2.2).getD 0
    let harvest := Scan.run header (Text.findLast? Comment.closer text) lines
    match harvest.replay.oversized with
    | some digits => .error (.oversizedInteger digits)
    | none =>
      let headings := nameHeadings dialect {} harvest.headings.reverse
      let htmlAnchors := harvest.htmlAnchors.reverse
      .ok
        { text := text
          lines := harvest.lines.reverse
          codeBlocks := harvest.codeBlocks.reverse.mergeSort
            fun first second => first.firstLine ≤ second.firstLine
          headings := headings
          htmlAnchors := htmlAnchors
          anchors := allAnchors headings htmlAnchors
          footnoteRefs := harvest.footnoteRefs.reverse
          footnoteDefs := harvest.footnoteDefs.reverse
          links := allLinks harvest.links.reverse harvest.pending.reverse
            harvest.definitions
          definitions := harvest.definitions
          regions := harvest.replay.regions
          frontMatter := frontMatter.data
          frontMatterSpan := (lines[header - 1]?.filter fun _ =>
            0 < header).map fun line => ⟨0, line.span.stop⟩
          frontMatterError := frontMatter.error
          configuration := harvest.replay.configuration
          digest := Digest.ofText text }

end Document

end AnchorLint
