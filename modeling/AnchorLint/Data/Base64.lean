import AnchorLint.Text.Utf8

/-!
# Base 64

Binary data in texts is written with 64 characters that stand for six bits
each.  Decoding ignores all other characters, and stops where equals signs fill
up a group of four.
-/

namespace AnchorLint

namespace Base64

/-- The six bits that a character stands for. -/
def value? (character : Char) : Option Nat :=
  let code := character.toNat
  if character.isUpper then some (code - 65)
  else if character.isLower then some (code - 71)
  else if character.isDigit then some (code + 4)
  else if character = '+' then some 62
  else if character = '/' then some 63
  else none

/-- The byte that two characters of a group make up, where `place` is the place
of the second one in its group. -/
def byteAt (place earlier current : Nat) : List UInt8 :=
  match place with
  | 1 => [UInt8.ofNat (earlier * 4 + current / 16)]
  | 2 => [UInt8.ofNat (earlier % 16 * 16 + current / 4)]
  | 3 => [UInt8.ofNat (earlier % 4 * 64 + current)]
  | _ => []

/-- The bytes behind `place` characters of a group, the last of which stands
for `earlier`; `pads` counts the equals signs since then.  A group that is
neither full nor filled up is an error. -/
def decodeFrom (place earlier pads : Nat) : Text → Option Bytes
  | [] => if place = 0 then some [] else none
  | character :: rest =>
    if character = '=' then
      if 2 ≤ place then
        if 4 ≤ place + pads + 1 then some []
        else decodeFrom place earlier (pads + 1) rest
      else decodeFrom place earlier pads rest
    else
      match value? character with
      | none => decodeFrom place earlier pads rest
      | some current =>
        (decodeFrom ((place + 1) % 4) current 0 rest).map
          (byteAt place earlier current ++ ·)

def decode? (text : Text) : Option Bytes :=
  decodeFrom 0 0 0 text

end Base64

end AnchorLint
