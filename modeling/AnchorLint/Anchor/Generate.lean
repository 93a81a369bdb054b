import AnchorLint.Anchor.Dialect
import AnchorLint.Markup.Visible
import AnchorLint.Unicode.Ranges

/-!
# Heading anchors

The anchor of a heading is formed from its visible text in lower case.  A
space or hyphen becomes a hyphen, the characters that the dialect keeps stay,
and all others vanish.  An ampersand takes the blanks around it and leaves two
hyphens if there were any; at the edge of the heading the blanks that were
trimmed away count as taken, and each gives one hyphen back.
-/

namespace AnchorLint

namespace Anchor

def keeps (dialect : Dialect) (character : Char) : Bool :=
  if character = '_' then dialect != .kramdown
  else if dialect = .kramdown then character.isAlphanum
  else
    Unicode.isLetter character || Unicode.isMark character
      || Unicode.isNumber character

def mapCharacter (dialect : Dialect) (character : Char) : Option Char :=
  if character = ' ' ∨ character = '-' then some '-'
  else if keeps dialect character then some character
  else none

/-- What a piece without ampersands contributes to an anchor. -/
def mapPiece (dialect : Dialect) (piece : Text) : Text :=
  (Text.trim piece).filterMap (mapCharacter dialect)

def startsBlank (text : Text) : Bool :=
  text.head?.any Unicode.isBlank

def endsBlank (text : Text) : Bool :=
  text.getLast?.any Unicode.isBlank

/-- The hyphens that an ampersand leaves, given whether blanks touch it and
whether it takes blanks that were trimmed from either edge. -/
def hyphens (spaced takesLeading takesTrailing : Bool) : Text :=
  if spaced || takesLeading || takesTrailing then
    List.replicate (2 - takesLeading.toNat - takesTrailing.toNat) '-'
  else []

/-- The contribution of everything behind the piece `previous`.  `leading`
says that only trimmed blanks precede that piece, `trailing` that blanks were
trimmed from the end of the heading. -/
def assemble (dialect : Dialect) (trailing : Bool) :
    (leading : Bool) → (previous : Text) → List Text → Text
  | _, _, [] => []
  | leading, previous, piece :: pieces =>
    hyphens (endsBlank (Text.trimLeft previous) || startsBlank piece)
        (leading && previous.isEmpty)
        (trailing && piece.isEmpty && pieces.isEmpty)
      ++ mapPiece dialect piece
      ++ assemble dialect trailing false piece pieces

/-- The anchor of a heading with the given source text. -/
def generate (dialect : Dialect) (heading : Text) : Text :=
  let visible := Text.lower (Markup.visible heading)
  match Text.splitAt (· == '&') (Text.trim visible) with
  | [] => []
  | first :: pieces =>
    mapPiece dialect first
      ++ assemble dialect (endsBlank visible) (startsBlank visible)
        first pieces

end Anchor

end AnchorLint
