import AnchorLint.Document.Line
import AnchorLint.Link.Target

/-!
# What documents are made of

The elements that an index records: headings, anchors, footnote marks, links
and the definitions that links refer to.  Lines are counted from one, and spans
count characters from the start of the document.
-/

namespace AnchorLint

/-- A block of code from its first to its last line.  Indented code has an
empty fence. -/
structure CodeBlock where
  firstLine : Nat
  lastLine : Nat
  fence : Text
  info : Text := []
deriving DecidableEq

/-- Headings start with hash signs or are underlined. -/
inductive HeadingStyle where
  | atx
  | setext
deriving DecidableEq

def HeadingStyle.name : HeadingStyle → Text
  | atx => "atx".toList
  | setext => "setext".toList

/-- A heading with the anchor computed from its text and, if it has one, the
anchor given by its attribute list. -/
structure Heading where
  level : Nat
  text : Text
  line : Nat
  autoAnchor : Text
  customAnchor : Option Text
  style : HeadingStyle
deriving DecidableEq

/-- An identifier given by a tag in the text. -/
structure HtmlAnchor where
  id : Text
  line : Nat
  span : Span
  tag : Text
deriving DecidableEq

/-- Where an anchor comes from. -/
inductive AnchorOrigin where
  | heading
  | custom
  | html
deriving DecidableEq

namespace AnchorOrigin

def name : AnchorOrigin → Text
  | heading => "heading".toList
  | custom => "custom".toList
  | html => "html".toList

def parse? (name : Text) : Option AnchorOrigin :=
  [heading, custom, html].find? fun origin => origin.name == name

end AnchorOrigin

/-- A place that fragments can name. -/
structure Anchor where
  value : Text
  caseSensitive : Bool
  origin : AnchorOrigin
  line : Nat
deriving DecidableEq

/-- A footnote mark, either a reference or the start of a definition. -/
structure Footnote where
  id : Text
  line : Nat
  span : Span
deriving DecidableEq

inductive LinkStyle where
  | inline
  | reference
  | autolink
deriving DecidableEq

def LinkStyle.name : LinkStyle → Text
  | inline => "inline".toList
  | reference => "reference".toList
  | autolink => "autolink".toList

/-- A link or image.  The target of a reference is that of its definition; the
fragment is the part of the target behind the first `#`. -/
structure Link where
  target : Text
  fragment : Option Text
  line : Nat
  column : Nat
  span : Span
  kind : LinkKind
  path : Option Text
  text : Text
  style : LinkStyle
  reference : Option Text
  isImage : Bool
deriving DecidableEq

namespace Link

/-- Whether a link may lead to an anchor of its own page. -/
def isLocal (link : Link) : Bool :=
  link.kind == .ambiguousLocal

/-- Whether a link leads to another file or an absolute path. -/
def leavesPage (link : Link) : Bool :=
  link.kind == .crossFile || link.kind == .absolutePath

end Link

/-- The definition that links may refer to by its label. -/
structure ReferenceDefinition where
  label : Text
  target : Text
  title : Option Text
  line : Nat
deriving DecidableEq

end AnchorLint
