import AnchorLint.Data.Value
import AnchorLint.Document.Types
import AnchorLint.Rule.Region
import AnchorLint.Text.Percent

/-!
# Indexed documents

The structural index of a document and the questions it answers: which
fragments resolve, where rules are switched off, and on which line an offset
lies.
-/

namespace AnchorLint

/-- What is wrong with a front matter block. -/
inductive FrontMatterError where
  | notMapping
  | unparseable (description : Text)
deriving DecidableEq

def FrontMatterError.text : FrontMatterError → Text
  | notMapping => "front matter is not a mapping".toList
  | unparseable description => description

def FrontMatterError.ofText (text : Text) : FrontMatterError :=
  if text = notMapping.text then notMapping else unparseable text

/-- The structural index of a document. -/
structure Document where
  text : Text
  lines : List Line
  codeBlocks : List CodeBlock
  headings : List Heading
  htmlAnchors : List HtmlAnchor
  anchors : List Anchor
  footnoteRefs : List Footnote
  footnoteDefs : List Footnote
  links : List Link
  definitions : Entries Text ReferenceDefinition
  regions : List Region
  frontMatter : List (Value × Value)
  frontMatterSpan : Option Span
  frontMatterError : Option FrontMatterError
  configuration : Entries Text Value
  digest : Text

namespace Document

/-- Whether a fragment resolves in a document.  Anchors of headings match
whatever their case, all others exactly; percent-encoded fragments are decoded
first. -/
def hasAnchor (document : Document) (fragment : Text) : Bool :=
  let fragment := Percent.decodeFragment fragment
  document.anchors.any (fun anchor =>
      anchor.caseSensitive && anchor.value == fragment)
    || document.anchors.any fun anchor =>
      !anchor.caseSensitive
        && Text.lower anchor.value == Text.lower fragment

def answersTo (fragment : Text) (heading : Heading) : Bool :=
  heading.customAnchor == some fragment ||
    (!heading.autoAnchor.isEmpty
      && Text.lower heading.autoAnchor == Text.lower fragment)

def headingByAnchor? (document : Document) (fragment : Text) :
    Option Heading :=
  document.headings.find? (answersTo (Percent.decodeFragment fragment))

def isDisabledAt (document : Document) (rule : Text) (line : Nat) : Bool :=
  Region.isDisabledAt document.regions rule line

/-- The links to other files or absolute paths that carry a fragment. -/
def crossFileLinks (document : Document) : List Link :=
  document.links.filter fun link =>
    link.leavesPage && link.fragment.any fun fragment => !fragment.isEmpty

def lineAt (document : Document) (offset : Int) : Nat :=
  Line.numberAt document.lines offset

/-- The number of bytes before an offset.  A negative offset counts from the
end of the text. -/
def byteOffset (document : Document) (offset : Int) : Nat :=
  let length : Int := document.text.length
  let count := if offset < 0 then (length + offset).toNat else offset.toNat
  (Utf8.encode (document.text.take count)).length

/-- The number of a line's character in that line, counted from one. -/
def columnAt (document : Document) (line offset : Nat) : Int :=
  match document.lines[line - 1]? with
  | some found => if line = 0 then 1 else (offset : Int) - found.span.start + 1
  | none => 1

end Document

end AnchorLint
