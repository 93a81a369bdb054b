import AnchorLint.Text.Utf8

/-!
# Content digests

The SHA-256 digest of a document tells whether a stored index still belongs
to the text at hand.
-/

namespace AnchorLint

namespace Digest

def roundConstants : List UInt32 :=
  [ 0x428a2f98, 0x71374491, 0xb5c0fbcf, 0xe9b5dba5, 0x3956c25b, 0x59f111f1,
    0x923f82a4, 0xab1c5ed5, 0xd807aa98, 0x12835b01, 0x243185be, 0x550c7dc3,
    0x72be5d74, 0x80deb1fe, 0x9bdc06a7, 0xc19bf174, 0xe49b69c1, 0xefbe4786,
    0x0fc19dc6, 0x240ca1cc, 0x2de92c6f, 0x4a7484aa, 0x5cb0a9dc, 0x76f988da,
    0x983e5152, 0xa831c66d, 0xb00327c8, 0xbf597fc7, 0xc6e00bf3, 0xd5a79147,
    0x06ca6351, 0x14292967, 0x27b70a85, 0x2e1b2138, 0x4d2c6dfc, 0x53380d13,
    0x650a7354, 0x766a0abb, 0x81c2c92e, 0x92722c85, 0xa2bfe8a1, 0xa81a664b,
    0xc24b8b70, 0xc76c51a3, 0xd192e819, 0xd6990624, 0xf40e3585, 0x106aa070,
    0x19a4c116, 0x1e376c08, 0x2748774c, 0x34b0bcb5, 0x391c0cb3, 0x4ed8aa4a,
    0x5b9cca4f, 0x682e6ff3, 0x748f82ee, 0x78a5636f, 0x84c87814, 0x8cc70208,
    0x90befffa, 0xa4506ceb, 0xbef9a3f7, 0xc67178f2 ]

/-- The eight words of the chaining value. -/
structure State where
  a : UInt32
  b : UInt32
  c : UInt32
  d : UInt32
  e : UInt32
  f : UInt32
  g : UInt32
  h : UInt32

/-- The chaining value before the first block. -/
def State.initial : State :=
  ⟨0x6a09e667, 0xbb67ae85, 0x3c6ef372, 0xa54ff53a,
    0x510e527f, 0x9b05688c, 0x1f83d9ab, 0x5be0cd19⟩

def rotate (word amount : UInt32) : UInt32 :=
  (word >>> amount) ||| (word <<< (32 - amount))

/-- The sixty-four words of a block, sixteen read and the rest derived from
them.  The words are kept last first, with `count` still to come. -/
def schedule : (count : Nat) → List UInt32 → List UInt32
  | 0, words => words.reverse
  | count + 1, words =>
    let word (back : Nat) := words.getD (back - 1) 0
    let near := word 2
    let far := word 15
    let next := word 16
      + (rotate far 7 ^^^ rotate far 18 ^^^ (far >>> 3))
      + word 7
      + (rotate near 17 ^^^ rotate near 19 ^^^ (near >>> 10))
    schedule count (next :: words)

/-- One round, with its message word and constant already added. -/
def State.round (state : State) (input : UInt32) : State :=
  let mixed := state.h
    + (rotate state.e 6 ^^^ rotate state.e 11 ^^^ rotate state.e 25)
    + ((state.e &&& state.f) ^^^ ((~~~state.e) &&& state.g))
    + input
  let folded := (rotate state.a 2 ^^^ rotate state.a 13 ^^^ rotate state.a 22)
    + ((state.a &&& state.b) ^^^ (state.a &&& state.c) ^^^
      (state.b &&& state.c))
  ⟨mixed + folded, state.a, state.b, state.c,
    state.d + mixed, state.e, state.f, state.g⟩

/-- The chaining value after one more block of words. -/
def State.absorb (state : State) (words : List UInt32) : State :=
  let inputs := (schedule 48 words.reverse).zipWith (· + ·) roundConstants
  let final := inputs.foldl State.round state
  ⟨state.a + final.a, state.b + final.b, state.c + final.c,
    state.d + final.d, state.e + final.e, state.f + final.f,
    state.g + final.g, state.h + final.h⟩

/-- Four bytes at a time as words, most significant byte first. -/
def toWords : Bytes → List UInt32
  | first :: second :: third :: fourth :: rest =>
    UInt32.ofNat (((first.toNat * 256 + second.toNat) * 256
      + third.toNat) * 256 + fourth.toNat) :: toWords rest
  | _ => []

/-- The message with the closing bit, zeros up to a whole number of blocks,
and its length in bits. -/
def pad (message : Bytes) : Bytes :=
  let size := message.length
  let zeros := (64 - (size + 9) % 64) % 64
  let length := (List.range 8).map fun index =>
    UInt8.ofNat (8 * size / Nat.pow 256 (7 - index) % 256)
  message ++ 0x80 :: List.replicate zeros 0 ++ length

/-- The chaining value after all blocks; `blocks` bounds their number. -/
def absorbAll : (blocks : Nat) → State → List UInt32 → State
  | 0, state, _ => state
  | blocks + 1, state, words =>
    absorbAll blocks (state.absorb (words.take 16)) (words.drop 16)

/-- The digest of a byte sequence as sixty-four hexadecimal digits. -/
def ofBytes (message : Bytes) : Text :=
  let words := toWords (pad message)
  let final := absorbAll (words.length / 16) State.initial words
  [final.a, final.b, final.c, final.d, final.e, final.f, final.g,
    final.h].flatMap fun word => Text.hex 8 word.toNat

def ofText (text : Text) : Text :=
  ofBytes (Utf8.encode text)

end Digest

end AnchorLint
