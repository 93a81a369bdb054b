import AnchorLint.Text.Basic

/-!
# Finding patterns in a text

A pattern reads the beginning of a text and either fails or yields a value
and the rest of the text.  Scanning tries a pattern at every position from
left to right and, after a match, goes on behind it, so matches never overlap.
-/

namespace AnchorLint

/-- A place where a pattern matched: the characters from `start` up to, not
including, `stop`. -/
structure Found (α : Type) where
  start : Nat
  stop : Nat
  value : α
deriving DecidableEq

/-- A pattern sees the character before the current position, if there is one,
and the text from there on. -/
abbrev Pattern (α : Type) := Option Char → Text → Option (α × Text)

namespace Pattern

variable {α : Type}

/-- All matches in a text that starts at `position` after `before`; the first
`skip` characters belong to the previous match. -/
def findFrom (pattern : Pattern α) :
    (skip position : Nat) → (before : Option Char) → Text → List (Found α)
  | _, _, _, [] => []
  | skip + 1, position, _, character :: rest =>
    findFrom pattern skip (position + 1) (some character) rest
  | 0, position, before, character :: rest =>
    match pattern before (character :: rest) with
    | none => findFrom pattern 0 (position + 1) (some character) rest
    | some (value, after) =>
      let more := rest.length - after.length
      ⟨position, position + 1 + more, value⟩
        :: findFrom pattern more (position + 1) (some character) rest

/-- All matches of a pattern, from left to right. -/
def findAll (pattern : Pattern α) (text : Text) : List (Found α) :=
  findFrom pattern 0 0 none text

/-- The text with every match replaced by its value; the first `skip`
characters belong to the previous match. -/
def replaceFrom (pattern : Text → Option (Text × Text)) :
    (skip : Nat) → Text → Text
  | _, [] => []
  | skip + 1, _ :: rest => replaceFrom pattern skip rest
  | 0, character :: rest =>
    match pattern (character :: rest) with
    | none => character :: replaceFrom pattern 0 rest
    | some (value, after) =>
      value ++ replaceFrom pattern (rest.length - after.length) rest

/-- The text with every match of a pattern replaced by its value. -/
def replaceAll (pattern : Text → Option (Text × Text)) (text : Text) : Text :=
  replaceFrom pattern 0 text

end Pattern

end AnchorLint
