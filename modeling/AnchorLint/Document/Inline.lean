import AnchorLint.Document.Block
import AnchorLint.Document.Types

/-!
# Inline elements

What is found inside a line: code spans, tags with identifiers, footnote
references, and links in all their forms.  Elements found first are blanked
out before the next kind is looked for; blanking keeps every column in its
place.
-/

namespace AnchorLint

namespace Inline

/-- For runs counted from `index`, the next run of the same size behind each of
them, and the nearest run of every size. -/
def linkRuns : (index : Nat) → List Run → List (Option Nat) × List (Nat × Nat)
  | _, [] => ([], [])
  | index, run :: runs =>
    let (links, nearest) := linkRuns (index + 1) runs
    (nearest.lookup run.size :: links, (run.size, index) :: nearest)

/-- What the runs at two indexes delimit, themselves included. -/
def delimited? (runs : List Run) (opener closer : Nat) : Option Span := do
  let first ← runs[opener]?
  let last ← runs[closer]?
  some ⟨first.start, last.stop⟩

/-- The code spans chosen from left to right; runs before `resume` are inside
the code span chosen last. -/
def chooseSpans (runs : List Run) :
    (resume index : Nat) → List (Option Nat) → List Span
  | _, _, [] => []
  | resume, index, link :: links =>
    if index < resume then chooseSpans runs resume (index + 1) links
    else
      match link with
      | none => chooseSpans runs resume (index + 1) links
      | some closer =>
        (delimited? runs index closer).toList
          ++ chooseSpans runs (closer + 1) (index + 1) links

/-- The code spans of a text: every run of backticks pairs with the next one of
its size, and runs without a partner are ordinary text. -/
def codeSpans (text : Text) : List Span :=
  let runs := Run.collect Markup.backtick text
  if runs.length < 2 then [] else chooseSpans runs 0 0 (linkRuns 0 runs).1

/-- Spans are ordered by their start and then by their end. -/
def spanLe (first second : Span) : Bool :=
  first.start < second.start ||
    (first.start == second.start && first.stop ≤ second.stop)

/-- Blanks out ordered spans in a text that begins at `position`. -/
def blankFrom (position : Nat) (text : Text) : List Span → Text
  | [] => text
  | span :: spans =>
    if span.stop ≤ position then blankFrom position text spans
    else
      let start := max span.start position
      text.take (start - position)
        ++ List.replicate (span.stop - start) ' '
        ++ blankFrom span.stop (text.drop (span.stop - position)) spans

/-- The text with spaces in place of all spans, in whatever order they come. -/
def blank (text : Text) (spans : List Span) : Text :=
  blankFrom 0 text (spans.mergeSort spanLe)

def spansOf {α : Type} (found : List (Found α)) : List Span :=
  found.map fun one => ⟨one.start, one.stop⟩

/-! ## Tags -/

def isAttributeName (character : Char) : Bool :=
  !Unicode.isBlank character && character != '=' && character != '<'
    && character != '>' && character != '/' && character != '"'
    && character != Quoted.apostrophe

/-- Whether a character may stand in an attribute value without quotes. -/
def isBareAttribute (character : Char) : Bool :=
  !Unicode.isBlank character && character != '"'
    && character != Quoted.apostrophe && character != '=' && character != '<'
    && character != '>' && character != Markup.backtick

/-- The value behind an equals sign, and what follows it. -/
def attributeValue? (text : Text) : Option (Text × Text) :=
  match text with
  | [] => none
  | first :: rest =>
    if first = '"' ∨ first = Quoted.apostrophe then
      match rest.span (· != first) with
      | (value, _ :: after) => some (value, after)
      | _ => none
    else
      let value := text.takeWhile isBareAttribute
      if value.isEmpty then none else some (value, text.drop value.length)

/-- The attributes of a tag and what follows them, or nothing if an equals
sign has no value.  Each attribute has blanks before it; `steps` bounds their
number. -/
def attributes? : (steps : Nat) → Text →
    Option (List (Text × Option Text) × Text)
  | 0, text => some ([], text)
  | steps + 1, text =>
    let next := text.dropWhile Unicode.isBlank
    let name := next.takeWhile isAttributeName
    if next.length = text.length ∨ name.isEmpty then some ([], text)
    else
      let after := next.drop name.length
      match after.dropWhile Unicode.isBlank with
      | '=' :: value => do
        let (value, after) ← attributeValue?
          (value.dropWhile Unicode.isBlank)
        let (more, after) ← attributes? steps after
        return ((name, some value) :: more, after)
      | _ => do
        let (more, after) ← attributes? steps after
        return ((name, none) :: more, after)

def isTagPart (character : Char) : Bool :=
  character.isAlphanum || character == '-'

/-- An opening tag: its name and attributes. -/
def tag : Pattern (Text × List (Text × Option Text)) := fun _ text =>
  match text with
  | '<' :: first :: rest =>
    if Markup.isAsciiLetter first then do
      let more := rest.takeWhile isTagPart
      let (attributes, after) ← attributes? rest.length
        (rest.drop more.length)
      let after := after.dropWhile Unicode.isBlank
      let after := if Text.startsWith after ['/'] then after.drop 1 else after
      match after with
      | '>' :: after => return ((first :: more, attributes), after)
      | _ => none
    else none
  | _ => none

/-- The identifiers that the attributes of a tag give: the first `id`, and for
links the first `name`.  The two flags say which of them have been seen. -/
def tagIds (isLink : Bool) : (seenId seenName : Bool) →
    List (Text × Option Text) → List Text
  | _, _, [] => []
  | seenId, seenName, (name, value) :: rest =>
    let key := Text.lower name
    let id := (value.filter fun id => !id.isEmpty).toList
    if key = "id".toList ∧ !seenId then
      id ++ tagIds isLink true seenName rest
    else if key = "name".toList ∧ isLink ∧ !seenName then
      id ++ tagIds isLink seenId true rest
    else tagIds isLink seenId seenName rest

/-! ## Footnote references -/

/-- A footnote reference, with its identifier. -/
def footnoteReference : Pattern Text := fun _ text =>
  Block.footnoteMark? text

/-! ## Bracketed links -/

/-- Skips plain characters, escapes, and bracketed parts without further
brackets.  `outer` holds the text from a bracket that is still open. -/
def skipNested (opening closing : Char) (plain : Char → Bool) :
    (outer : Option Text) → Text → Text
  | outer, [] => outer.getD []
  | outer, [character] =>
    match outer with
    | none =>
      if character ≠ opening ∧ character ≠ closing ∧ character ≠ '\\'
          ∧ plain character then []
      else [character]
    | some start => if character = closing then [] else start
  | outer, character :: next :: rest =>
    if character = '\\' then
      if next = '\n' then outer.getD (character :: next :: rest)
      else skipNested opening closing plain outer rest
    else
      match outer with
      | none =>
        if character = opening then
          skipNested opening closing plain
            (some (character :: next :: rest)) (next :: rest)
        else if character ≠ closing ∧ plain character then
          skipNested opening closing plain none (next :: rest)
        else character :: next :: rest
      | some start =>
        if character = closing then
          skipNested opening closing plain none (next :: rest)
        else if character ≠ opening ∧ plain character then
          skipNested opening closing plain (some start) (next :: rest)
        else start

/-- The text of a link up to its closing bracket, and what follows that.
Brackets may be nested once. -/
def linkText? (text : Text) : Option (Text × Text) :=
  match text with
  | '[' :: inside =>
    let rest := skipNested '[' ']' (· != '\n') none inside
    match rest with
    | ']' :: after => some (inside.take (inside.length - rest.length), after)
    | _ => none
  | _ => none

/-- A label without brackets up to its closing bracket, and what follows. -/
def label? (text : Text) : Option (Text × Text) :=
  match text with
  | '[' :: inside =>
    let rest := skipEscaped
      (fun c => c != '[' && c != ']' && c != '\\' && c != '\n') inside
    match rest with
    | ']' :: after => some (inside.take (inside.length - rest.length), after)
    | _ => none
  | _ => none

/-- The end of an inline link behind its destination: an optional title and
the closing parenthesis. -/
def linkEnd? (text : Text) : Option Text :=
  let next := text.dropWhile isIndent
  match next with
  | ')' :: after => some after
  | _ =>
    if next.length < text.length then
      match Block.title? next with
      | some (_, rest) =>
        match rest.dropWhile isIndent with
        | ')' :: after => some after
        | _ => none
      | none => none
    else none

/-- The destination of an inline link and what follows the link: in angle
brackets, without them, or missing in front of a title. -/
def destination? (text : Text) : Option (Text × Text) :=
  let start := text.dropWhile isIndent
  let angled : Option (Text × Text) :=
    match start with
    | '<' :: inside =>
      match inside.span fun c => c != '<' && c != '>' && c != '\n' with
      | (target, '>' :: rest) =>
        (linkEnd? rest).map fun after => ('<' :: target ++ ['>'], after)
      | _ => none
    | _ => none
  let bare : Option (Text × Text) :=
    let rest := skipNested '(' ')' (fun c => !Unicode.isBlank c) none start
    (linkEnd? rest).map fun after =>
      (start.take (start.length - rest.length), after)
  let missing : Option (Text × Text) :=
    if start.length < text.length then
      (linkEnd? (' ' :: start)).map fun after => ([], after)
    else none
  angled.orElse fun _ => bare.orElse fun _ => missing

/-- A link as written: whether it is an image, its text, and its destination
or label. -/
structure Written where
  isImage : Bool
  text : Text
  target : Text
deriving DecidableEq

/-- The offset of the text of a link from its start. -/
def Written.textOffset (written : Written) : Nat :=
  if written.isImage then 2 else 1

/-- A link pattern behind an optional exclamation mark. -/
def withImageMark (read : Text → Option (Text × Text × Text))
    (text : Text) : Option (Written × Text) :=
  match text with
  | '!' :: link =>
    (read link).map fun (label, target, after) => (⟨true, label, target⟩, after)
  | _ =>
    (read text).map fun (label, target, after) =>
      (⟨false, label, target⟩, after)

/-- An inline link `[text](destination)`. -/
def inlineLink : Pattern Written := fun before text =>
  if before = some '\\' then none
  else
    withImageMark (fun link => do
      let (label, rest) ← linkText? link
      match rest with
      | '(' :: inside =>
        let (target, after) ← destination? inside
        return (label, target, after)
      | _ => none) text

/-- A full reference `[text][label]`; an empty label stands for the text. -/
def fullReference : Pattern Written := fun before text =>
  if before = some '\\' then none
  else
    withImageMark (fun link => do
      let (label, rest) ← linkText? link
      let (target, after) ← label? rest
      return (label, if target.isEmpty then label else target, after)) text

/-- A shortcut reference `[label]` that no bracket, parenthesis or colon
follows. -/
def shortcutReference : Pattern Written := fun before text =>
  if before = some '\\' ∨ before = some ']' then none
  else
    withImageMark (fun link => do
      let (label, after) ← label? link
      if label.isEmpty then none
      else if after.head?.any fun c => c == '[' || c == '(' || c == ':' then
        none
      else return (label, label, after)) text

/-! ## Addresses -/

/-- An address with a scheme in angle brackets. -/
def autolink : Pattern Text := fun _ text =>
  match text with
  | '<' :: first :: rest =>
    let scheme := rest.takeWhile Target.isSchemeCharacter
    if Markup.isAsciiLetter first ∧ 1 ≤ scheme.length
        ∧ scheme.length ≤ 31 then
      match rest.drop scheme.length with
      | ':' :: address =>
        match address.span fun c =>
            !Unicode.isBlank c && c != '<' && c != '>' with
        | (address, '>' :: after) =>
          some (first :: scheme ++ ':' :: address, after)
        | _ => none
      | _ => none
    else none
  | _ => none

/-- Whether a character may stand in a mail address besides the `@`. -/
def isMailPart (character : Char) : Bool :=
  !Unicode.isBlank character && character != '@' && character != '<'
    && character != '>' && character != '\\'

/-- A mail address in angle brackets; its domain has a dot inside. -/
def mailAutolink : Pattern Text := fun _ text =>
  match text with
  | '<' :: inside =>
    match inside.span isMailPart with
    | (name, '@' :: rest) =>
      match rest.span isMailPart with
      | (domain, '>' :: after) =>
        if !name.isEmpty && domain.tail.dropLast.elem '.' then
          some (name ++ '@' :: domain, after)
        else none
      | _ => none
    | _ => none
  | _ => none

def bareStarts : List Text :=
  ["https://".toList, "http://".toList, "ftp://".toList, "www.".toList]

/-- Whether a character does not end a bare address. -/
def isAddressTail (character : Char) : Bool :=
  (".,:;!?'\")]*_~".toList).elem character

/-- A bare address; punctuation at its end does not belong to it, and it does
not start inside a word or behind an opening bracket. -/
def bareAddress : Pattern Text := fun before text =>
  if before.any fun c => Unicode.isWordCharacter c || c == '/' || c == '<'
      || c == '(' || c == '[' then none
  else
    bareStarts.findSome? fun start =>
      match Text.after? start text with
      | some rest =>
        let run := rest.takeWhile fun c =>
          !Unicode.isBlank c && c != '<' && c != '>'
        let address := Text.dropEndWhile isAddressTail run
        if address.isEmpty then none
        else some (start ++ address, rest.drop address.length)
      | none => none

/-! ## Whole lines -/

/-- A reference whose definition is looked up once the document is read. -/
structure PendingReference where
  label : Text
  text : Text
  line : Nat
  column : Nat
  span : Span
  isImage : Bool
deriving DecidableEq

/-- The link with a given target, unless the target is a template. -/
def makeLink? (target : Text) (line column : Nat) (span : Span) (text : Text)
    (style : LinkStyle) (reference : Option Text) (isImage : Bool) :
    Option Link :=
  if Text.includes target ['{', '{'] || Text.includes target ['{', '%'] then
    none
  else
    let (path, fragment) := Target.splitFragment target
    let verdict := Target.classify path
    some { target := target, fragment := fragment, line := line
           column := column, span := span, kind := verdict.kind
           path := verdict.path, text := text, style := style
           reference := reference, isImage := isImage }

/-- What a line holds, in the order in which it is found. -/
structure Elements where
  htmlAnchors : List HtmlAnchor
  footnotes : List Footnote
  links : List Link
  pending : List PendingReference

/-- Where a line stands in its document, and its content. -/
structure Place where
  line : Nat
  offset : Nat
  content : Text

namespace Place

def span {α : Type} (place : Place) (found : Found α) : Span :=
  ⟨place.offset + found.start, place.offset + found.stop⟩

/-- The link of an inline match in a part of the line that starts at `base`. -/
def inlineLink? (place : Place) (base : Nat) (found : Found Written) :
    Option Link :=
  let textStart := base + found.start + found.value.textOffset
  makeLink? (Block.unwrapAngles found.value.target) place.line
    (base + found.start + 1)
    ⟨place.offset + base + found.start, place.offset + base + found.stop⟩
    (place.content.slice textStart (textStart + found.value.text.length))
    .inline none found.value.isImage

/-- The links of an inline match: the link itself and the ones inside its
text. -/
def inlineLinks (place : Place) (found : Found Written) : List Link :=
  let inner := Pattern.findAll inlineLink found.value.text
  (place.inlineLink? 0 found).toList
    ++ inner.filterMap (place.inlineLink?
      (found.start + found.value.textOffset))

def reference (place : Place) (found : Found Written) : PendingReference :=
  let textStart := found.start + found.value.textOffset
  { label := Block.normalizeLabel found.value.target
    text := place.content.slice textStart
      (textStart + found.value.text.length)
    line := place.line
    column := found.start + 1
    span := place.span found
    isImage := found.value.isImage }

def addressLink? (place : Place) (found : Found Text) (target : Text) :
    Option Link :=
  makeLink? target place.line (found.start + 1) (place.span found) []
    .autolink none false

def tagAnchors (place : Place)
    (found : Found (Text × List (Text × Option Text))) : List HtmlAnchor :=
  let name := Text.lower found.value.1
  (tagIds (name == ['a']) false false found.value.2).map fun id =>
    ⟨id, place.line, place.span found, name⟩

/-- The elements of a line, where `masked` is its content without code spans
and comments. -/
def elements (place : Place) (masked : Text) : Elements :=
  let tags := Pattern.findAll tag masked
  let notes := Pattern.findAll footnoteReference masked
  let inlines := Pattern.findAll Inline.inlineLink masked
  let masked := blank masked (spansOf inlines)
  let full := Pattern.findAll fullReference masked
  let masked := blank masked (spansOf full)
  let shortcuts := (Pattern.findAll shortcutReference masked).filter
    fun found => !Text.startsWith found.value.text ['^']
  let masked := blank masked (spansOf shortcuts)
  let addresses := Pattern.findAll autolink masked
  let mails := Pattern.findAll mailAutolink masked
  let masked := blank masked (spansOf addresses ++ spansOf mails)
  let bare := Pattern.findAll bareAddress masked
  { htmlAnchors := tags.flatMap place.tagAnchors
    footnotes := notes.map fun found =>
      ⟨found.value, place.line, place.span found⟩
    links :=
      inlines.flatMap place.inlineLinks
        ++ addresses.filterMap (fun found =>
          place.addressLink? found found.value)
        ++ mails.filterMap (fun found =>
          place.addressLink? found ("mailto:".toList ++ found.value))
        ++ bare.filterMap (fun found =>
          place.addressLink? found
            (if Text.startsWith found.value "www.".toList then
              "http://".toList ++ found.value
            else found.value))
    pending := (full ++ shortcuts).map place.reference }

end Place

end Inline

end AnchorLint
