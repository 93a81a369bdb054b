import AnchorLint.Text.Utf8

/-!
# Percent-encoded texts

In link targets a character may be written as the percent-encoded bytes of
its UTF-8 form.  Escapes are collected over each maximal run of ASCII
characters, and the bytes of such a run are decoded together; characters
outside ASCII stand for themselves.  A percent sign without two hexadecimal
digits after it is an ordinary character.
-/

namespace AnchorLint

namespace Percent

/-- The bytes of an ASCII run, with each escape replaced by its byte. -/
def runBytes : Text → Bytes
  | [] => []
  | '%' :: first :: second :: rest =>
    match Text.hexValue? first, Text.hexValue? second with
    | some high, some low => UInt8.ofNat (16 * high + low) :: runBytes rest
    | _, _ => UInt8.ofNat 37 :: runBytes (first :: second :: rest)
  | character :: rest => UInt8.ofNat character.toNat :: runBytes rest

def isAscii (character : Char) : Bool :=
  character.toNat < 128

/-- The maximal runs of ASCII characters and of other characters. -/
def runs (text : Text) : List Text :=
  text.splitBy fun first second => isAscii first == isAscii second

/-- The decoded text; each ill-formed part of the escapes is replaced. -/
def decodeLossy (text : Text) : Text :=
  (runs text).flatMap fun run =>
    if run.all isAscii then Utf8.decodeLossy (runBytes run) else run

/-- The decoded text, if the escapes are well-formed. -/
def decode? (text : Text) : Option Text :=
  let decodeRun (run : Text) : Option Text :=
    if run.all isAscii then Utf8.decode? (runBytes run) else some run
  ((runs text).mapM decodeRun).map List.flatten

/-- The decoded text of a link fragment; a fragment whose escapes are
ill-formed is kept as it is. -/
def decodeFragment (fragment : Text) : Text :=
  (decode? fragment).getD fragment

end Percent

end AnchorLint
