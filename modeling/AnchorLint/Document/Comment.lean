import AnchorLint.Document.Inline

/-!
# Comments in a line

Comments hide what is inside them.  A comment may close on the line on which
it opens or on a later one; an opener inside a code span is ordinary text.
-/

namespace AnchorLint

namespace Comment

def opener : Text :=
  ['<', '!', '-', '-']

def closer : Text :=
  ['-', '-', '>']

/-- The comments found in a line. -/
structure Found where
  /-- The spans of the comments that close on the line. -/
  hidden : List Span := []
  /-- The insides of these comments. -/
  bodies : List Text := []
  /-- The position of an opener that nothing on the line closes. -/
  dangling : Option Nat := none

/-- The comments that open at or after a position, outside the code spans.
`steps` bounds their number. -/
def findFrom (content : Text) (spans : List Span) :
    (steps position : Nat) → Found
  | 0, _ => {}
  | steps + 1, position =>
    match Text.findFrom? opener content position with
    | none => {}
    | some start =>
      if spans.any fun span => span.start ≤ start && start < span.stop then
        findFrom content spans steps (start + 4)
      else
        match Text.findFrom? closer content (start + 4) with
        | some stop =>
          let rest := findFrom content spans steps (stop + 3)
          { rest with
            hidden := ⟨start, stop + 3⟩ :: rest.hidden
            bodies := content.slice (start + 4) stop :: rest.bodies }
        | none => { dangling := some start }

def codeSpansFrom (content : Text) (position : Nat) : List Span :=
  (Inline.codeSpans (content.drop position)).map fun span =>
    ⟨span.start + position, span.stop + position⟩

/-- A comment that is still open: the line of its opener and the lines of its
inside so far, last first. -/
structure Pending where
  line : Nat
  parts : List Text
deriving DecidableEq

/-- The inside of a comment that has been closed. -/
def Pending.body (pending : Pending) : Text :=
  Text.join ['\n'] pending.parts.reverse

/-- A line without its comments and code spans, the insides of the comments
that close on it, each with the line of its opener, and the comment that is
open at its end. -/
structure Masked where
  text : Text
  closed : List (Nat × Text)
  pending : Option Pending

/-- Masks the part of a line behind `position`; `hidden` is what a comment from
an earlier line takes up.  An opener that nothing closes is a comment only if
a closer starts behind it in the document; `lastClose` is the offset of the
last one. -/
def maskFrom (place : Inline.Place) (lastClose : Option Nat) (position : Nat)
    (hidden : List Span) (closed : List (Nat × Text)) : Masked :=
  let content := place.content
  let spans := codeSpansFrom content position
  let found := findFrom content spans (content.length + 1) position
  let dangling := found.dangling.filter fun start =>
    lastClose.any (place.offset + start < ·)
  let tail := dangling.toList.map fun start =>
    (⟨start, content.length⟩ : Span)
  { text := Inline.blank content (hidden ++ found.hidden ++ tail ++ spans)
    closed := closed ++ found.bodies.map fun body => (place.line, body)
    pending := dangling.map fun start =>
      ⟨place.line, [content.drop (start + 4)]⟩ }

/-- Masks a line, where `pending` is the comment open at its start. -/
def mask (place : Inline.Place) (lastClose : Option Nat)
    (pending : Option Pending) : Masked :=
  let content := place.content
  match pending with
  | none => maskFrom place lastClose 0 [] []
  | some open_ =>
    match Text.find? closer content with
    | none =>
      { text := List.replicate content.length ' '
        closed := []
        pending := some { open_ with parts := content :: open_.parts } }
    | some stop =>
      let open_ := { open_ with parts := content.take stop :: open_.parts }
      maskFrom place lastClose (stop + 3) [⟨0, stop + 3⟩]
        [(open_.line, open_.body)]

end Comment

end AnchorLint
