import AnchorLint.Text.Basic

/-!
# Positions in YAML texts

The layout of a YAML text carries meaning, so reading keeps track of the line
and column of what follows.  A text that holds unprintable characters is not
read at all; in particular no text holds the character zero, which stands for
the end.
-/

namespace AnchorLint

namespace Yaml

/-- The character that stands for the end of a text. -/
def endMark : Char := Char.ofNat 0

/-- The mark that may stand before the first character of a text. -/
def orderMark : Char := Char.ofNat 0xFEFF

def isReadable (character : Char) : Bool :=
  let code := character.toNat
  code == 9 || code == 10 || code == 13 || code == 0x85
    || (0x20 ≤ code && code ≤ 0x7E) || (0xA0 ≤ code && code ≤ 0xFFFD)
    || 0x10000 ≤ code

def isBreak (character : Char) : Bool :=
  let code := character.toNat
  code == 10 || code == 13 || code == 0x85 || code == 0x2028 || code == 0x2029

/-- Whether a line or the text ends at a character. -/
def isLineEnd (character : Char) : Bool :=
  isBreak character || character == endMark

def isSpaceOrEnd (character : Char) : Bool :=
  character == ' ' || isLineEnd character

/-- Whether a character separates tokens. -/
def isGap (character : Char) : Bool :=
  isSpaceOrEnd character || character == '\t'

def isIndent (character : Char) : Bool :=
  character == ' ' || character == '\t'

/-- What has not been read yet, where it stands, and the length of the whole
text. -/
structure Cursor where
  rest : Text
  size : Nat
  index : Nat := 0
  line : Nat := 0
  column : Nat := 0

namespace Cursor

def start (text : Text) : Cursor :=
  { rest := text, size := text.length }

/-- More steps than there are characters ahead. -/
def steps (cursor : Cursor) : Nat :=
  cursor.size + 1

def ahead (cursor : Cursor) (count : Nat) : Char :=
  cursor.rest.getD count endMark

def peek (cursor : Cursor) : Char :=
  cursor.ahead 0

def atEnd (cursor : Cursor) : Bool :=
  cursor.rest.isEmpty

def advance (cursor : Cursor) : Cursor :=
  match cursor.rest with
  | [] => cursor
  | character :: rest =>
    if isBreak character && !(character == '\r' && rest.head? == some '\n') then
      ⟨rest, cursor.size, cursor.index + 1, cursor.line + 1, 0⟩
    else if character = orderMark then
      ⟨rest, cursor.size, cursor.index + 1, cursor.line, cursor.column⟩
    else
      ⟨rest, cursor.size, cursor.index + 1, cursor.line, cursor.column + 1⟩

def advanceBy (count : Nat) (cursor : Cursor) : Cursor :=
  count.repeat advance cursor

def skip (skipped : Char → Bool) (cursor : Cursor) : Cursor :=
  cursor.advanceBy (cursor.rest.takeWhile skipped).length

/-- The characters ahead that satisfy `taken`, and the cursor behind them. -/
def take (taken : Char → Bool) (cursor : Cursor) : Text × Cursor :=
  (cursor.rest.takeWhile taken, cursor.skip taken)

def skipSpaces (cursor : Cursor) : Cursor :=
  cursor.skip (· == ' ')

/-- The cursor at a column, or before it if too few spaces lead there. -/
def indentTo (column : Nat) (cursor : Cursor) : Cursor :=
  let spaces := (cursor.rest.takeWhile (· == ' ')).length
  cursor.advanceBy (min spaces (column - cursor.column))

/-- The line break ahead, if there is one, and the cursor behind it.  All
breaks but the two separators are read as line feeds. -/
def lineBreak (cursor : Cursor) : Text × Cursor :=
  let character := cursor.peek
  if character == '\r' && cursor.ahead 1 == '\n' then
    (['\n'], cursor.advanceBy 2)
  else if isBreak character then
    if character.toNat < 0x2028 then (['\n'], cursor.advance)
    else ([character], cursor.advance)
  else ([], cursor)

/-- Whether the mark at the start or end of a document stands ahead. -/
def atDocumentMark (cursor : Cursor) : Bool :=
  [['-', '-', '-'], ['.', '.', '.']].any cursor.rest.startsWith
    && isGap (cursor.ahead 3)

def skipComment (cursor : Cursor) : Cursor :=
  if cursor.peek == '#' then cursor.skip fun character => !isLineEnd character
  else cursor

/-- The cursor behind the rest of a line that holds at most a comment. -/
def finishLine? (cursor : Cursor) : Option Cursor :=
  let cursor := cursor.skipSpaces.skipComment
  if isLineEnd cursor.peek then some cursor.lineBreak.2 else none

end Cursor

end Yaml

end AnchorLint
