import AnchorLint.Unicode.Ranges

/-!
# Texts

A text is the list of its Unicode scalar values, so every offset, column and
length in this library counts characters and never bytes.  This module holds
the general operations on texts: trimming, cutting at characters, searching
for a fixed word, and the order in which keys are sorted.
-/

namespace AnchorLint

/-- A text is the list of its Unicode scalar values. -/
abbrev Text := List Char

namespace Text

def isBlank (text : Text) : Bool :=
  text.all Unicode.isBlank

/-- The text without the characters at its end that satisfy `drop`. -/
def dropEndWhile (drop : Char → Bool) (text : Text) : Text :=
  (text.reverse.dropWhile drop).reverse

/-- The longest end of the text whose characters all satisfy `keep`. -/
def takeEndWhile (keep : Char → Bool) (text : Text) : Text :=
  (text.reverse.takeWhile keep).reverse

def trimLeft (text : Text) : Text :=
  text.dropWhile Unicode.isBlank

def trimRight (text : Text) : Text :=
  dropEndWhile Unicode.isBlank text

def trim (text : Text) : Text :=
  trimRight (trimLeft text)

/-- The characters from position `start` up to, not including, `stop`. -/
def slice (text : Text) (start stop : Nat) : Text :=
  (text.drop start).take (stop - start)

/-- What follows `start` in a text that begins with it. -/
def after? (start text : Text) : Option Text :=
  start.isPrefixOf? text

def startsWith (text start : Text) : Bool :=
  start.isPrefixOf text

def endsWith (text ending : Text) : Bool :=
  ending.isSuffixOf text

def find? (word : Text) : Text → Option Nat
  | [] => if word.isEmpty then some 0 else none
  | character :: rest =>
    if word.isPrefixOf (character :: rest) then some 0
    else (find? word rest).map (· + 1)

/-- The position of the first occurrence of a word at or after `start`. -/
def findFrom? (word text : Text) (start : Nat) : Option Nat :=
  (find? word (text.drop start)).map (· + start)

def findLast? (word : Text) : Text → Option Nat
  | [] => if word.isEmpty then some 0 else none
  | character :: rest =>
    match findLast? word rest with
    | some position => some (position + 1)
    | none => if word.isPrefixOf (character :: rest) then some 0 else none

def includes (text word : Text) : Bool :=
  (find? word text).isSome

/-- The pieces of a text between the characters that satisfy `cut`. -/
def splitAt (cut : Char → Bool) : Text → List Text
  | [] => [[]]
  | character :: rest =>
    match splitAt cut rest with
    | [] => [[character]]
    | piece :: pieces =>
      if cut character then [] :: piece :: pieces
      else (character :: piece) :: pieces

/-- The nonempty pieces of a text between the characters that satisfy `cut`. -/
def fields (cut : Char → Bool) (text : Text) : List Text :=
  (splitAt cut text).filter fun piece => !piece.isEmpty

def words (text : Text) : List Text :=
  fields Unicode.isBlank text

/-- The parts before and after the first character that satisfies `cut`; the
second part is absent when no character does. -/
def splitFirst (cut : Char → Bool) (text : Text) : Text × Option Text :=
  match text.span fun character => !cut character with
  | (before, []) => (before, none)
  | (before, _ :: after) => (before, some after)

def join (separator : Text) (pieces : List Text) : Text :=
  separator.intercalate pieces

/-- The decimal digits of a natural number. -/
def ofNat (number : Nat) : Text :=
  Nat.toDigits 10 number

/-- The decimal digits of an integer, with a minus sign if it is negative. -/
def ofInt (number : Int) : Text :=
  if number < 0 then '-' :: ofNat number.natAbs else ofNat number.natAbs

/-- The text `digits` filled up with zeros on the left to a given width. -/
def padZeros (width : Nat) (digits : Text) : Text :=
  List.replicate (width - digits.length) '0' ++ digits

def hexValue? (character : Char) : Option Nat :=
  if '0' ≤ character ∧ character ≤ '9' then some (character.toNat - 48)
  else if 'a' ≤ character ∧ character ≤ 'f' then some (character.toNat - 87)
  else if 'A' ≤ character ∧ character ≤ 'F' then some (character.toNat - 55)
  else none

/-- The number that digits denote in a base of at most sixteen. -/
def digitsValue (base : Nat) (digits : Text) : Nat :=
  digits.foldl (fun value digit => value * base + (hexValue? digit).getD 0) 0

/-- The lower case hexadecimal digits of a number, filled up to a width. -/
def hex (width number : Nat) : Text :=
  padZeros width (Nat.toDigits 16 number)

/-- Texts are ordered character by character, by code point. -/
def le (first second : Text) : Bool :=
  !decide (second < first)

def sort (texts : List Text) : List Text :=
  texts.mergeSort le

end Text

end AnchorLint
