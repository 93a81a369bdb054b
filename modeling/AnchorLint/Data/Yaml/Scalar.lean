import AnchorLint.Data.Yaml.Cursor
import AnchorLint.Data.Yaml.Problem
import AnchorLint.Text.Utf8

/-!
# The spellings of YAML scalars

Texts are written plainly, between quotes, or as indented blocks.  Each
function reads one spelling at a cursor and returns the text it denotes and the
cursor behind it.  Where a text runs over several lines, a single line break
between two lines stands for a space.
-/

namespace AnchorLint

namespace Yaml

/-- What a line break and the empty lines behind it stand for. -/
def foldBreaks (first empty : Text) : Text :=
  if first ≠ ['\n'] then first ++ empty
  else if empty.isEmpty then [' ']
  else empty

/-! ## Plain scalars -/

/-- The number of characters ahead that belong to a plain scalar. -/
def plainLength (inFlow : Bool) : Text → Nat
  | [] => 0
  | character :: rest =>
    let next := rest.headD endMark
    if isGap character
        || (character == ':' &&
          (isGap next || (inFlow && [',', '[', ']', '{', '}'].contains next)))
        || (inFlow && [',', '?', '[', ']', '{', '}'].contains character) then 0
    else plainLength inFlow rest + 1

/-- The empty lines behind a line of a plain scalar; nothing if a document mark
follows one of them.  `steps` bounds the number of characters. -/
def plainBreaks? : (steps : Nat) → Cursor → Option Text × Cursor
  | 0, cursor => (some [], cursor)
  | steps + 1, cursor =>
    let cursor := cursor.skipSpaces
    if isBreak cursor.peek then
      let (mark, cursor) := cursor.lineBreak
      if cursor.atDocumentMark then (none, cursor)
      else
        let (more, cursor) := plainBreaks? steps cursor
        (more.map (mark ++ ·), cursor)
    else (some [], cursor)

/-- What stands between two pieces of a plain scalar, whether a line ended, and
the cursor behind it.  An empty text ends the scalar. -/
def plainSpace (cursor : Cursor) : Text × Bool × Cursor :=
  let (spaces, cursor) := cursor.take (· == ' ')
  if isBreak cursor.peek then
    let (first, cursor) := cursor.lineBreak
    if cursor.atDocumentMark then ([], true, cursor)
    else
      match plainBreaks? cursor.steps cursor with
      | (some empty, cursor) => (foldBreaks first empty, true, cursor)
      | (none, cursor) => ([], true, cursor)
  else (spaces, false, cursor)

/-- The rest of a plain scalar behind some space, whether the last space ended
a line, and the cursor behind it.  `steps` bounds the number of pieces. -/
def plainFrom (inFlow : Bool) (indent : Int) :
    (steps : Nat) → (space : Text) → (lineEnded : Bool) → Cursor →
      Text × Bool × Cursor
  | 0, _, lineEnded, cursor => ([], lineEnded, cursor)
  | steps + 1, space, lineEnded, cursor =>
    let length := plainLength inFlow cursor.rest
    if cursor.peek = '#' ∨ length = 0 then ([], lineEnded, cursor)
    else
      let piece := cursor.rest.take length
      let (behind, lineEnded, cursor) := plainSpace (cursor.advanceBy length)
      if behind.isEmpty || cursor.peek == '#'
          || (!inFlow && decide ((cursor.column : Int) < indent)) then
        (space ++ piece, lineEnded, cursor)
      else
        let (more, lineEnded, cursor) :=
          plainFrom inFlow indent steps behind lineEnded cursor
        (space ++ piece ++ more, lineEnded, cursor)

/-- A plain scalar, whether the space behind it ended a line, and the cursor
behind that. -/
def plain (inFlow : Bool) (indent : Int) (cursor : Cursor) :
    Text × Bool × Cursor :=
  plainFrom inFlow indent cursor.steps [] false cursor

/-! ## Quoted scalars -/

/-- The characters that a backslash and one letter stand for. -/
def escapes : List (Char × Nat) :=
  [ ('0', 0), ('a', 7), ('b', 8), ('t', 9), ('\t', 9), ('n', 10), ('v', 11),
    ('f', 12), ('r', 13), ('e', 27), (' ', 32), ('"', 34), ('\\', 92),
    ('/', 47), ('N', 0x85), ('_', 0xA0), ('L', 0x2028), ('P', 0x2029) ]

/-- The letters that introduce a character by its code, and how many digits
the code has. -/
def codeLengths : List (Char × Nat) :=
  [('x', 2), ('u', 4), ('U', 8)]

/-- The character with a given code.  A code that belongs to half of a pair has no
character of its own: U+0000 takes its place. -/
def characterOf (code : Nat) : Except Problem Char :=
  if code < 0x110000 then .ok (Char.ofNat code)
  else if code < Nat.pow 2 31 then .error (.fault .character)
  else .error (.fault .characterOverflow)

/-- The empty lines inside a quoted scalar; document marks may not stand
there.  `steps` bounds the number of lines. -/
def quotedBreaks : (steps : Nat) → Cursor → Except Problem (Text × Cursor)
  | 0, cursor => .ok ([], cursor)
  | steps + 1, cursor =>
    if cursor.atDocumentMark then .error .malformed
    else
      let cursor := cursor.skip isIndent
      if isBreak cursor.peek then do
        let (mark, cursor) := cursor.lineBreak
        let (more, cursor) ← quotedBreaks steps cursor
        return (mark ++ more, cursor)
      else .ok ([], cursor)

def quotedSpace (cursor : Cursor) : Except Problem (Text × Cursor) :=
  let (spaces, cursor) := cursor.take isIndent
  if cursor.atEnd then .error .malformed
  else if isBreak cursor.peek then do
    let (first, cursor) := cursor.lineBreak
    let (empty, cursor) ← quotedBreaks cursor.steps cursor
    return (foldBreaks first empty, cursor)
  else .ok (spaces, cursor)

/-- What an escape stands for, behind its backslash.  An escaped line break
joins two lines. -/
def escape (cursor : Cursor) : Except Problem (Text × Cursor) :=
  let mark := cursor.peek
  match escapes.lookup mark, codeLengths.lookup mark with
  | some code, _ => .ok ([Char.ofNat code], cursor.advance)
  | none, some length =>
    let digits := (cursor.rest.drop 1).take length
    if digits.length = length
        ∧ digits.all fun digit => (Text.hexValue? digit).isSome then do
      let character ← characterOf (Text.digitsValue 16 digits)
      return ([character], cursor.advanceBy (length + 1))
    else .error .malformed
  | none, none =>
    if isBreak mark then
      quotedBreaks cursor.steps cursor.lineBreak.2
    else .error .malformed

/-- The rest of a quoted scalar behind its opening quote.  Between double
quotes there are escapes; between apostrophes two of them stand for one.
`steps` bounds the number of characters. -/
def quotedFrom (isDouble : Bool) :
    (steps : Nat) → Cursor → Except Problem (Text × Cursor)
  | 0, _ => .error .malformed
  | steps + 1, cursor =>
    let character := cursor.peek
    let quote := if isDouble then '"' else Quoted.apostrophe
    if character = quote then
      if !isDouble && cursor.ahead 1 == quote then do
        let (more, cursor) ← quotedFrom isDouble steps (cursor.advanceBy 2)
        return (quote :: more, cursor)
      else .ok ([], cursor.advance)
    else if isDouble && character == '\\' then do
      let (escaped, cursor) ← escape cursor.advance
      let (more, cursor) ← quotedFrom isDouble steps cursor
      return (escaped ++ more, cursor)
    else if isGap character then do
      let (space, cursor) ← quotedSpace cursor
      let (more, cursor) ← quotedFrom isDouble steps cursor
      return (space ++ more, cursor)
    else do
      let (more, cursor) ← quotedFrom isDouble steps cursor.advance
      return (character :: more, cursor)

def quoted (isDouble : Bool) (cursor : Cursor) :
    Except Problem (Text × Cursor) :=
  quotedFrom isDouble cursor.steps cursor.advance

/-! ## Block scalars -/

/-- What happens to the line breaks at the end of a block. -/
inductive Chomping where
  | strip
  | clip
  | keep
deriving DecidableEq

def chomping? : Char → Option Chomping
  | '+' => some .keep
  | '-' => some .strip
  | _ => none

/-- The indentation that a digit asks for; zero is no indentation. -/
def indentation? (character : Char) : Option Nat :=
  if character.isDigit then some (character.toNat - 48) else none

/-- The signs behind the mark of a block, in either order. -/
def blockSigns (cursor : Cursor) : Chomping × Option Nat × Cursor :=
  match chomping? cursor.peek, indentation? cursor.peek with
  | some chomping, _ =>
    let cursor := cursor.advance
    match indentation? cursor.peek with
    | some indent => (chomping, some indent, cursor.advance)
    | none => (chomping, none, cursor)
  | none, some indent =>
    let cursor := cursor.advance
    match chomping? cursor.peek with
    | some chomping => (chomping, some indent, cursor.advance)
    | none => (.clip, some indent, cursor)
  | none, none => (.clip, none, cursor)

/-- The empty lines at the start of a block and the widest indentation among
them.  `steps` bounds the number of lines. -/
def blockStart : (steps : Nat) → Cursor → Text × Nat × Cursor
  | 0, cursor => ([], 0, cursor)
  | steps + 1, cursor =>
    let spaced := cursor.skipSpaces
    let width := if spaced.index = cursor.index then 0 else spaced.column
    if isBreak spaced.peek then
      let (mark, cursor) := spaced.lineBreak
      let (more, widest, cursor) := blockStart steps cursor
      (mark ++ more, max width widest, cursor)
    else ([], width, spaced)

/-- The empty lines inside a block.  `steps` bounds their number. -/
def blockBreaks (indent : Nat) : (steps : Nat) → Cursor → Text × Cursor
  | 0, cursor => ([], cursor)
  | steps + 1, cursor =>
    let cursor := cursor.indentTo indent
    if isBreak cursor.peek then
      let (mark, cursor) := cursor.lineBreak
      let (more, cursor) := blockBreaks indent steps cursor
      (mark ++ more, cursor)
    else ([], cursor)

/-- The text of a block, the break of its last line, the empty lines at its
end, and the cursor behind it. -/
structure BlockText where
  content : Text
  lastBreak : Text
  empty : Text
  cursor : Cursor

def atBlockLine (indent : Nat) (cursor : Cursor) : Bool :=
  cursor.column == indent && !cursor.atEnd

/-- The lines of a block behind some empty lines.  In a folded block, a break
between two lines that start with visible characters stands for a space.
`steps` bounds the number of lines. -/
def blockLines (isFolded : Bool) (indent : Nat) :
    (steps : Nat) → (empty : Text) → Cursor → BlockText
  | 0, empty, cursor => ⟨[], [], empty, cursor⟩
  | steps + 1, empty, cursor =>
    if !atBlockLine indent cursor then ⟨[], [], empty, cursor⟩
    else
      let startsVisibly := !isIndent cursor.peek
      let (line, cursor) := cursor.take fun character => !isLineEnd character
      let (lastBreak, cursor) := cursor.lineBreak
      let (behind, cursor) := blockBreaks indent cursor.steps cursor
      if atBlockLine indent cursor then
        let glue :=
          if isFolded && lastBreak == ['\n'] && startsVisibly
              && !isIndent cursor.peek then
            if behind.isEmpty then [' '] else []
          else lastBreak
        let rest := blockLines isFolded indent steps behind cursor
        { rest with content := empty ++ line ++ glue ++ rest.content }
      else ⟨empty ++ line, lastBreak, behind, cursor⟩

def block (isFolded : Bool) (outer : Int) (cursor : Cursor) :
    Except Problem (Text × Cursor) :=
  let (chomping, increment, cursor) := blockSigns cursor.advance
  if increment = some 0 ∨ !isSpaceOrEnd cursor.peek then .error .malformed
  else
    match cursor.finishLine? with
    | none => .error .malformed
    | some cursor =>
      let least := (max (outer + 1) 1).toNat
      let steps := cursor.steps
      let (empty, indent, cursor) :=
        match increment with
        | none =>
          let (empty, widest, cursor) := blockStart steps cursor
          (empty, max least widest, cursor)
        | some increment =>
          let indent := least + increment - 1
          let (empty, cursor) := blockBreaks indent steps cursor
          (empty, indent, cursor)
      let found := blockLines isFolded indent steps empty cursor
      .ok (found.content
          ++ (if chomping = .strip then [] else found.lastBreak)
          ++ (if chomping = .keep then found.empty else []),
        found.cursor)

end Yaml

end AnchorLint
