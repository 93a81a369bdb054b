import AnchorLint.Document.Attribute
import AnchorLint.Markup.Visible
import AnchorLint.Text.Case

/-!
# Shapes of lines

What a line is, as far as the line alone tells: a fence, a heading, an
underline, a list item, a definition, and so on.  All of them look at the body
of a line, which is its content without block quote marks.
-/

namespace AnchorLint

namespace Block

/-- What follows a block quote mark: up to three spaces or tabs, a `>`, and
one space or tab. -/
def afterQuoteMark? (text : Text) : Option Text :=
  let indent := text.takeWhile isIndent
  if 3 < indent.length then none
  else
    match text.drop indent.length with
    | '>' :: rest =>
      match rest with
      | next :: more => if isIndent next then some more else some rest
      | [] => some []
    | _ => none

/-- Takes off at most `steps` block quote marks. -/
def stripQuoteMarks : (steps : Nat) → Text → Text
  | 0, text => text
  | steps + 1, text =>
    match afterQuoteMark? text with
    | some rest => stripQuoteMarks steps rest
    | none => text

/-- The content of a line without block quote marks. -/
def body (content : Text) : Text :=
  stripQuoteMarks content.length content

/-- The columns that leading spaces and tabs take up, starting at a column;
tabs reach to the next multiple of four. -/
def indentFrom (column : Nat) : Text → Nat
  | ' ' :: rest => indentFrom (column + 1) rest
  | '\t' :: rest => indentFrom (column + (4 - column % 4)) rest
  | _ => column

def indentWidth (text : Text) : Nat :=
  indentFrom 0 text

/-- A run of at least three backticks or tildes and the text behind it. -/
structure Fence where
  marker : Text
  info : Text
deriving DecidableEq

namespace Fence

def size (fence : Fence) : Nat :=
  fence.marker.length

def character (fence : Fence) : Char :=
  fence.marker.headD Markup.backtick

def parse? (body : Text) : Option Fence :=
  let text := body.dropWhile isIndent
  match text with
  | first :: _ =>
    if first = Markup.backtick ∨ first = '~' then
      let marker := text.takeWhile (· == first)
      if marker.length < 3 then none
      else some ⟨marker, text.drop marker.length⟩
    else none
  | [] => none

/-- Whether a fence can close a block: nothing stands behind it. -/
def isBare (fence : Fence) : Bool :=
  Text.isBlank fence.info

/-- Whether a fence closes a block that `opener` has opened. -/
def closes (fence opener : Fence) : Bool :=
  fence.character == opener.character && opener.size ≤ fence.size
    && fence.isBare

end Fence

/-- The longest closing fences still to come: of backticks and of tildes. -/
structure Closers where
  backticks : Nat := 0
  tildes : Nat := 0
deriving DecidableEq

namespace Closers

/-- The longest closing fence with a given character. -/
def longest (closers : Closers) (character : Char) : Nat :=
  if character = '~' then closers.tildes else closers.backticks

/-- The closers once a line is known to come. -/
def withLine (body : Text) (closers : Closers) : Closers :=
  match Fence.parse? body with
  | some fence =>
    if fence.isBare then
      if fence.character = '~' then
        { closers with tildes := max closers.tildes fence.size }
      else { closers with backticks := max closers.backticks fence.size }
    else closers
  | none => closers

/-- For every line the closers strictly behind it, and the closers of all
lines. -/
def sweep : List Text → List Closers × Closers
  | [] => ([], {})
  | body :: bodies =>
    let (after, closers) := sweep bodies
    (closers :: after, closers.withLine body)

end Closers

/-- The text without leading spaces, if there are at most three of them. -/
def unindent? (body : Text) : Option Text :=
  let indent := body.takeWhile (· == ' ')
  if 3 < indent.length then none else some (body.drop indent.length)

/-- Whether a text is at its end or goes on with a space or tab. -/
def endsOrIndents (text : Text) : Bool :=
  text.head?.all isIndent

/-- The level of a heading with hash signs and the text behind them. -/
def atx? (body : Text) : Option (Nat × Text) := do
  let text ← unindent? body
  let hashes := text.takeWhile (· == '#')
  let rest := text.drop hashes.length
  if 1 ≤ hashes.length ∧ hashes.length ≤ 6 ∧ endsOrIndents rest then
    return (hashes.length, rest.dropWhile isIndent)
  else none

/-- The text of a heading without the hash signs that close it.  They stand
alone or behind a space or tab. -/
def stripClosingHashes (text : Text) : Text :=
  let trimmed := Text.dropEndWhile isIndent text
  let title := Text.dropEndWhile (· == '#') trimmed
  if title.length = trimmed.length then text
  else if title.isEmpty then []
  else if title.getLast?.any isIndent then Text.dropEndWhile isIndent title
  else text

/-- The level of the heading that an underline makes of a paragraph. -/
def underline? (body : Text) : Option Nat := do
  let text := Text.dropEndWhile isIndent (← unindent? body)
  match text with
  | '=' :: rest => if rest.all (· == '=') then some 1 else none
  | '-' :: rest => if rest.all (· == '-') then some 2 else none
  | _ => none

def isListItem (body : Text) : Bool :=
  let text := body.dropWhile isIndent
  match text with
  | first :: rest =>
    if first = '-' ∨ first = '+' ∨ first = '*' then endsOrIndents rest
    else
      let digits := text.takeWhile Unicode.isDigit
      1 ≤ digits.length && digits.length ≤ 9 &&
        (match text.drop digits.length with
          | mark :: rest => (mark == '.' || mark == ')') && endsOrIndents rest
          | [] => false)
  | [] => false

/-- Whether a line is a thematic break: at least three of one mark, with
nothing but spaces and tabs between them. -/
def isThematicBreak (body : Text) : Bool :=
  match unindent? body with
  | some (mark :: rest) =>
    (mark == '*' || mark == '_' || mark == '-')
      && rest.all (fun c => c == mark || isIndent c)
      && 2 ≤ rest.count mark
  | _ => false

/-- Whether a line starts a block of raw markup. -/
def isHtmlBlock (body : Text) : Bool :=
  match unindent? body with
  | some ('<' :: next :: _) =>
    Markup.isAsciiLetter next || next == '/' || next == '!' || next == '?'
  | _ => false

/-- A title in double quotes, apostrophes or parentheses, and what follows
it. -/
def title? (text : Text) : Option (Text × Text) :=
  let read (closing : Char) (plain : Char → Bool) (inside : Text) :=
    let rest := skipEscaped plain inside
    match rest with
    | next :: after =>
      if next = closing then
        some (inside.take (inside.length - rest.length), after)
      else none
    | [] => none
  match text with
  | [] => none
  | first :: inside =>
    if first = '"' then read '"' (fun c => c != '"' && c != '\\') inside
    else if first = Quoted.apostrophe then
      read first (fun c => c != Quoted.apostrophe && c != '\\') inside
    else if first = '(' then
      read ')' (fun c => c != '(' && c != ')' && c != '\\') inside
    else none

/-- A link definition as written: label, target and title. -/
structure Definition where
  label : Text
  target : Text
  title : Option Text
deriving DecidableEq

/-- The end of a link definition behind its target: an optional title and
nothing else. -/
def definitionEnd? (text : Text) : Option (Option Text) :=
  let next := text.dropWhile isIndent
  if next.isEmpty then some none
  else if next.length < text.length then
    match title? next with
    | some (title, after) =>
      if after.all isIndent then some (some title) else none
    | none => none
  else none

/-- The target of a link definition, in angle brackets or up to the next
blank, followed by the end of the definition. -/
def definitionTarget? (text : Text) : Option (Text × Option Text) :=
  let bare : Option (Text × Option Text) :=
    let target := text.takeWhile fun c => !Unicode.isBlank c
    if target.isEmpty then none
    else
      (definitionEnd? (text.drop target.length)).map fun title =>
        (target, title)
  match text with
  | '<' :: inside =>
    match inside.span fun c => c != '<' && c != '>' with
    | (target, '>' :: after) =>
      match definitionEnd? after with
      | some title => some ('<' :: target ++ ['>'], title)
      | none => bare
    | _ => bare
  | _ => bare

/-- A target without the angle brackets around it. -/
def unwrapAngles (target : Text) : Text :=
  if Text.startsWith target ['<'] ∧ Text.endsWith target ['>'] then
    target.tail.dropLast
  else target

def definition? (body : Text) : Option Definition := do
  match ← unindent? body with
  | '[' :: inside =>
    let rest := skipEscaped (fun c => c != '[' && c != ']' && c != '\\') inside
    let label := inside.take (inside.length - rest.length)
    if label.isEmpty then none
    else
      match rest with
      | ']' :: ':' :: after =>
        let (target, title) ← definitionTarget? (after.dropWhile isIndent)
        return ⟨label, unwrapAngles target, title⟩
      | _ => none
  | _ => none

/-- A footnote mark `[^id]` at the start of a text: the identifier and what
follows the mark. -/
def footnoteMark? (text : Text) : Option (Text × Text) :=
  match text with
  | '[' :: '^' :: inside =>
    match inside.span fun c => c != ']' && !Unicode.isBlank c with
    | (id, ']' :: after) => if id.isEmpty then none else some (id, after)
    | _ => none
  | _ => none

/-- The identifier of the footnote that a line defines, and the length of the
mark with the spaces before it and the colon behind it. -/
def footnoteDefinition? (line : Text) : Option (Text × Nat) :=
  match footnoteMark? (line.dropWhile isIndent) with
  | some (id, ':' :: after) => some (id, line.length - after.length)
  | _ => none

/-- Labels are compared in lower case, with one space between their words. -/
def normalizeLabel (label : Text) : Text :=
  Text.lower (Text.join [' '] (Text.words label))

end Block

end AnchorLint
