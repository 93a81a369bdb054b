import AnchorLint.Text.Basic

/-!
# UTF-8

Texts as byte sequences.  Decoding walks the bytes once and yields one unit
per well-formed sequence or per maximal ill-formed part; a lossy reader shows
each ill-formed part as one replacement character, a strict reader refuses the
whole input.
-/

namespace AnchorLint

abbrev Bytes := List UInt8

namespace Utf8

def encodeCharacter (character : Char) : Bytes :=
  let codePoint := character.toNat
  let continuation (shift : Nat) : UInt8 :=
    UInt8.ofNat (0x80 + (codePoint / Nat.pow 2 shift) % 64)
  if codePoint < 0x80 then [UInt8.ofNat codePoint]
  else if codePoint < 0x800 then
    [UInt8.ofNat (0xC0 + codePoint / 64), continuation 0]
  else if codePoint < 0x10000 then
    [UInt8.ofNat (0xE0 + codePoint / 4096), continuation 6, continuation 0]
  else
    [UInt8.ofNat (0xF0 + codePoint / 262144), continuation 12,
      continuation 6, continuation 0]

def encode (text : Text) : Bytes :=
  text.flatMap encodeCharacter

/-- What a leading byte promises: how many bytes follow, the interval the
first of them must lie in, and the bits the leading byte contributes. -/
structure Lead where
  following : Nat
  low : Nat
  high : Nat
  bits : Nat

/-- The promise of a leading byte, if the byte can start a sequence. -/
def lead? (byte : Nat) : Option Lead :=
  if byte < 0x80 then some ⟨0, 0, 0, byte⟩
  else if byte < 0xC2 then none
  else if byte < 0xE0 then some ⟨1, 0x80, 0xBF, byte - 0xC0⟩
  else if byte < 0xF0 then
    some ⟨2, if byte = 0xE0 then 0xA0 else 0x80,
      if byte = 0xED then 0x9F else 0xBF, byte - 0xE0⟩
  else if byte < 0xF5 then
    some ⟨3, if byte = 0xF0 then 0x90 else 0x80,
      if byte = 0xF4 then 0x8F else 0xBF, byte - 0xF0⟩
  else none

/-- Reads the promised bytes: the character if all of them are there, and how
many bytes were taken. -/
def continuation (taken bits : Nat) :
    (following low high : Nat) → Bytes → Option Char × Nat
  | 0, _, _, _ => (some (Char.ofNat bits), taken)
  | _ + 1, _, _, [] => (none, taken)
  | following + 1, low, high, byte :: rest =>
    if low ≤ byte.toNat ∧ byte.toNat ≤ high then
      continuation (taken + 1) (bits * 64 + byte.toNat % 64)
        following 0x80 0xBF rest
    else (none, taken)

/-- The units of a byte sequence: a character for each well-formed sequence
and nothing for each maximal ill-formed part.  The first argument counts the
bytes that the previous unit has already taken. -/
def unitsFrom : (taken : Nat) → Bytes → List (Option Char)
  | _, [] => []
  | taken + 1, _ :: rest => unitsFrom taken rest
  | 0, byte :: rest =>
    match lead? byte.toNat with
    | none => none :: unitsFrom 0 rest
    | some lead =>
      let (unit, extra) :=
        continuation 0 lead.bits lead.following lead.low lead.high rest
      unit :: unitsFrom extra rest

def units (bytes : Bytes) : List (Option Char) :=
  unitsFrom 0 bytes

/-- The character that stands for an ill-formed part. -/
def replacement : Char :=
  Char.ofNat 0xFFFD

/-- The text of a byte sequence, ill-formed parts replaced. -/
def decodeLossy (bytes : Bytes) : Text :=
  (units bytes).map fun unit => unit.getD replacement

/-- The text of a well-formed byte sequence. -/
def decode? (bytes : Bytes) : Option Text :=
  (units bytes).mapM id

end Utf8

end AnchorLint
