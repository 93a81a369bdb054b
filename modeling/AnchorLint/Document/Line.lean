import AnchorLint.Text.Basic

/-!
# Lines

A document is cut into lines at line feeds, carriage returns and pairs of
them.  Every line keeps its terminator in its span, so the spans of all lines
together cover the text.
-/

namespace AnchorLint

/-- The characters from `start` up to, not including, `stop`. -/
structure Span where
  start : Nat
  stop : Nat
deriving DecidableEq

/-- A line of an indexed document. -/
structure Line where
  span : Span
  inCode : Bool := false
  inFrontMatter : Bool := false
deriving DecidableEq

/-- A line of source text: its span and its content without the terminator. -/
structure SourceLine where
  span : Span
  content : Text
deriving DecidableEq

namespace SourceLine

/-- The lines of a text whose first character is at `position`.  The current
line began at `start`, and `taken` holds its characters so far, last first. -/
def splitFrom : (start position : Nat) → (taken : Text) → Text →
    List SourceLine
  | start, position, taken, [] =>
    if taken.isEmpty then [] else [⟨⟨start, position⟩, taken.reverse⟩]
  | start, position, taken, '\r' :: '\n' :: rest =>
    ⟨⟨start, position + 2⟩, taken.reverse⟩
      :: splitFrom (position + 2) (position + 2) [] rest
  | start, position, taken, character :: rest =>
    if character = '\r' ∨ character = '\n' then
      ⟨⟨start, position + 1⟩, taken.reverse⟩
        :: splitFrom (position + 1) (position + 1) [] rest
    else splitFrom start (position + 1) (character :: taken) rest

def split (text : Text) : List SourceLine :=
  splitFrom 0 0 [] text

end SourceLine

namespace Line

/-- Halves the interval of line indexes that may hold an offset until one is
left: the last line that starts at or before the offset. -/
def search (lines : List Line) (offset : Int) (low high : Nat) : Nat :=
  if low < high then
    let middle := (low + high + 1) / 2
    let startsBefore := lines[middle]?.any fun line => line.span.start ≤ offset
    if startsBefore then search lines offset middle high
    else search lines offset low (middle - 1)
  else low
termination_by high - low

/-- The number of the line that holds an offset, counted from one. -/
def numberAt (lines : List Line) (offset : Int) : Nat :=
  search lines offset 0 (lines.length - 1) + 1

end Line

end AnchorLint
