import AnchorLint.Number.Binary64
import AnchorLint.Data.Value
import AnchorLint.Unicode.Number

/-!
# Numerals

The numbers that free texts denote when a document insists that they are
numbers.  Blanks around a numeral do not count, unless they are separators of
records, and digits of every script do.
-/

namespace AnchorLint

namespace Numeral

/-- A character with digits of other scripts replaced by those of ASCII. -/
def plainDigit (character : Char) : Char :=
  match Unicode.digitValue? character with
  | some value => Char.ofNat (48 + value)
  | none => character

/-- Whether a character may stand around a numeral.  The ASCII control
characters that separate records and fields may not. -/
def isPadding (character : Char) : Bool :=
  Unicode.isBlank character &&
    !(0x1C ≤ character.toNat && character.toNat ≤ 0x1F)

/-- A numeral without blanks around it and with plain digits. -/
def normalize (text : Text) : Text :=
  (Text.dropEndWhile isPadding (text.dropWhile isPadding)).map plainDigit

def sign : Text → Bool × Text
  | '-' :: rest => (true, rest)
  | '+' :: rest => (false, rest)
  | text => (false, text)

def baseMark? (base : Nat) : Option Char :=
  match base with
  | 2 => some 'b'
  | 8 => some 'o'
  | 16 => some 'x'
  | _ => none

/-- The digits without a zero and the letter of the base in front. -/
def withoutBase (base : Nat) (text : Text) : Text :=
  match text with
  | '0' :: mark :: rest =>
    if baseMark? base = some mark.toLower then rest else text
  | _ => text

/-- Whether a character is a digit in a base of at most sixteen. -/
def isDigitIn (base : Nat) (character : Char) : Bool :=
  (Text.hexValue? character).any fun value => value < base

/-- The integer that a text denotes in a base.  Decimal numerals have a limit
on their length, which counts even if something else follows the digits. -/
def integer (base : Nat) (text : Text) : Except ReadError Int :=
  let (negative, unsigned) := sign (normalize text)
  let found := withoutBase base unsigned
  let digits := found.takeWhile (isDigitIn base)
  if base = 10 ∧ ReadError.digitLimit < digits.length then
    .error (.integerTooLong digits.length)
  else if digits.isEmpty || digits.length < found.length then
    .error .malformed
  else
    let value : Int := Text.digitsValue base digits
    .ok (if negative then -value else value)

def exponent? : Text → Option Int
  | [] => some 0
  | mark :: rest =>
    let (negative, digits) := sign rest
    if mark.toLower = 'e' ∧ !digits.isEmpty ∧ digits.all Char.isDigit then
      let value : Int := Text.digitsValue 10 digits
      some (if negative then -value else value)
    else none

/-- The words for numbers that are not finite. -/
def special? (negative : Bool) (word : Text) : Option Binary64 :=
  let word := word.map Char.toLower
  if word = "inf".toList ∨ word = "infinity".toList then
    some (.infinity negative)
  else if word = "nan".toList then some .nan
  else none

def float? (text : Text) : Option Binary64 := do
  let (negative, unsigned) := sign (normalize text)
  match special? negative unsigned with
  | some number => return number
  | none =>
    let whole := unsigned.takeWhile Char.isDigit
    let behind := unsigned.drop whole.length
    let places :=
      if behind.head? = some '.' then (behind.drop 1).takeWhile Char.isDigit
      else []
    let rest :=
      if behind.head? = some '.' then behind.drop (places.length + 1)
      else behind
    if whole.isEmpty && places.isEmpty then none
    else
      let power ← exponent? rest
      return Binary64.ofDecimal negative
        (Text.digitsValue 10 (whole ++ places)) (power - places.length)

end Numeral

end AnchorLint
