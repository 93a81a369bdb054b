import AnchorLint.Text.Basic
import AnchorLint.Unicode.CaseMap
import AnchorLint.Unicode.Cased

/-!
# Lower and upper case

Case conversion of whole texts.  Both conversions work character by
character, except that the lower case form of a capital sigma depends on
whether it ends a word.
-/

namespace AnchorLint

namespace Text

/-- The lower case form of a character away from any context. -/
def lowerCharacter (character : Char) : Text :=
  if character.toNat < 128 then [character.toLower]
  else if character.toNat = 0x0130 then ['i', Char.ofNat 0x0307]
  else [Unicode.shiftCase Unicode.lowerRuns character]

def upperCharacter (character : Char) : Text :=
  if character.toNat < 128 then [character.toUpper]
  else
    match Unicode.upperExpansions.lookup character.toNat with
    | some expansion => expansion.map Char.ofNat
    | none => [Unicode.shiftCase Unicode.upperRuns character]

/-- Whether the first character that is not looked through carries case. -/
def meetsCased (text : Text) : Bool :=
  match text.dropWhile Unicode.isCaseIgnorable with
  | [] => false
  | character :: _ => Unicode.isCased character

/-- The lower case form of a text, where `before` is what precedes it, last
character first.  A capital sigma that follows a letter and is not followed by
one takes its final form. -/
def lowerFrom (before : Text) : Text → Text
  | [] => []
  | character :: rest =>
    (if character.toNat = 0x03A3 then
      if meetsCased before && !meetsCased rest then [Char.ofNat 0x03C2]
      else [Char.ofNat 0x03C3]
    else lowerCharacter character) ++ lowerFrom (character :: before) rest

def lower (text : Text) : Text :=
  lowerFrom [] text

def upper (text : Text) : Text :=
  text.flatMap upperCharacter

end Text

end AnchorLint
