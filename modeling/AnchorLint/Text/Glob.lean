import AnchorLint.Text.Basic

/-!
# File name patterns

A pattern describes whole paths: `*` stands for any characters, separators
included, `?` for one character, and `[...]` for one character of a set.  Sets
may hold intervals such as `a-z` and are negated by a leading `!`; an interval
whose ends are out of order is dropped, and a bracket that is never closed
stands for itself.
-/

namespace AnchorLint

namespace Glob

inductive Token where
  | many
  | one
  | literal (character : Char)
  | set (negated : Bool) (chunks : List Text)

/-- The inside of a set, if the text behind a `[` closes it.  A `]` in first
place belongs to the set. -/
def setBody? (text : Text) : Option Text :=
  let skip := if Text.startsWith text ['!'] then 1 else 0
  let skip := if Text.startsWith (text.drop skip) [']'] then skip + 1 else skip
  (Text.findFrom? [']'] text skip).map text.take

/-- The pieces of a set between the hyphens that form intervals: such a hyphen
has a character before it, and the ends of two intervals never coincide. -/
def chunksFrom (guard : Nat) (text : Text) : List Text :=
  if _inside : guard < text.length then
    match Text.findFrom? ['-'] text guard with
    | some position =>
      text.take position :: chunksFrom 2 (text.drop (position + 1))
    | none => [text]
  else [text]
termination_by text.length
decreasing_by
  simp only [List.length_drop]
  omega

/-- The pieces of a set; a hyphen at the end stands for itself. -/
def chunks (body : Text) : List Text :=
  let pieces := chunksFrom (if Text.startsWith body ['!'] then 2 else 1) body
  match pieces.reverse with
  | [] :: last :: rest => ((last ++ ['-']) :: rest).reverse
  | _ => pieces

/-- Joins a piece with the next one if the interval between them is empty,
dropping its two ends. -/
def joinEmptyInterval (piece : Text) : List Text → List Text
  | [] => [piece]
  | next :: rest =>
    match piece.getLast?, next.head? with
    | some low, some high =>
      if high < low then (piece.dropLast ++ next.tail) :: rest
      else piece :: next :: rest
    | _, _ => piece :: next :: rest

/-- The set that a bracket expression denotes. -/
def readSet (body : Text) : Token :=
  match (chunks body).foldr joinEmptyInterval [] with
  | ('!' :: first) :: rest => .set true (first :: rest)
  | pieces => .set false pieces

/-- The elements of a pattern; the first `skip` characters belong to the
element before. -/
def readFrom : (skip : Nat) → Text → List Token
  | _, [] => []
  | skip + 1, _ :: rest => readFrom skip rest
  | 0, character :: rest =>
    if character = '*' then .many :: readFrom 0 rest
    else if character = '?' then .one :: readFrom 0 rest
    else if character = '[' then
      match setBody? rest with
      | some body => readSet body :: readFrom (body.length + 1) rest
      | none => .literal '[' :: readFrom 0 rest
    else .literal character :: readFrom 0 rest

/-- Whether a character lies in one of the intervals between the pieces. -/
def inIntervals (character : Char) : List Text → Bool
  | piece :: next :: rest =>
    (match piece.getLast?, next.head? with
      | some low, some high => low ≤ character && character ≤ high
      | _, _ => false) || inIntervals character (next :: rest)
  | _ => false

/-- Whether an element stands for a single given character. -/
def Token.accepts (character : Char) : Token → Bool
  | many => true
  | one => true
  | literal expected => character == expected
  | set negated pieces =>
    negated != (pieces.any (fun piece => piece.elem character)
      || inIntervals character pieces)

/-- Whether no element at all describes each end of a text, from the whole
text down to the empty one. -/
def emptyRow : Text → List Bool
  | [] => [true]
  | _ :: rest => false :: emptyRow rest

/-- The answers for each end of a text with a `*` put in front of the elements
that have the answers `row`. -/
def manyRow : (row : List Bool) → List Bool
  | [] => []
  | here :: row =>
    let later := manyRow row
    (here || later.headD false) :: later

/-- The answers for each end of a text with an element for a single character
put in front of the elements that have the answers `row`. -/
def singleRow (token : Token) : Text → (row : List Bool) → List Bool
  | character :: rest, _ :: row =>
    (token.accepts character && row.headD false) :: singleRow token rest row
  | _, _ => [false]

/-- The answers with one more element in front. -/
def tokenRow (text : Text) : Token → (row : List Bool) → List Bool
  | .many, row => manyRow row
  | token, row => singleRow token text row

/-- Whether a list of elements describes a whole text.  The answers for all
ends of the text are found together, from the last element to the first, so
that no end is looked at twice for the same element. -/
def describes (tokens : List Token) (text : Text) : Bool :=
  (tokens.foldr (tokenRow text) (emptyRow text)).headD false

def isMatch (text pattern : Text) : Bool :=
  describes (readFrom 0 pattern) text

/-- Whether one of the patterns describes a path.  A pattern that starts with
`**/` also describes paths without any directory. -/
def matchesAny (path : Text) (patterns : List Text) : Bool :=
  patterns.any fun pattern =>
    isMatch path pattern ||
      (match Text.after? ['*', '*', '/'] pattern with
        | some rest => isMatch path rest
        | none => false)

end Glob

end AnchorLint
