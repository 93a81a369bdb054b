import AnchorLint.Text.Utf8
import AnchorLint.Unicode.Printable

/-!
# Quoted texts

Texts are quoted in messages so that their ends and their unprintable
characters can be seen.  The quote is an apostrophe, unless the text holds
apostrophes and no double quotes.
-/

namespace AnchorLint

namespace Quoted

def apostrophe : Char :=
  Char.ofNat 0x27

/-- The quote that needs fewer escapes. -/
def quoteFor (hasApostrophe hasDouble : Bool) : Char :=
  if hasApostrophe && !hasDouble then '"' else apostrophe

def escapeCode (codePoint : Nat) : Text :=
  if codePoint < 0x100 then ['\\', 'x'] ++ Text.hex 2 codePoint
  else if codePoint < 0x10000 then ['\\', 'u'] ++ Text.hex 4 codePoint
  else ['\\', 'U'] ++ Text.hex 8 codePoint

def writeCharacter (quote character : Char) : Text :=
  if character = quote ∨ character = '\\' then ['\\', character]
  else if character = '\n' then ['\\', 'n']
  else if character = '\r' then ['\\', 'r']
  else if character = '\t' then ['\\', 't']
  else if Unicode.isPrintable character then [character]
  else escapeCode character.toNat

def ofText (text : Text) : Text :=
  let quote := quoteFor (text.elem apostrophe) (text.elem '"')
  quote :: text.flatMap (writeCharacter quote) ++ [quote]

/-- A byte sequence between quotes, with a mark in front.  Bytes outside ASCII
are written as escapes. -/
def ofBytes (bytes : Bytes) : Text :=
  let characters := bytes.map fun byte => Char.ofNat byte.toNat
  let quote := quoteFor (characters.elem apostrophe) (characters.elem '"')
  let write (character : Char) : Text :=
    if character.toNat < 128 then writeCharacter quote character
    else escapeCode character.toNat
  'b' :: quote :: characters.flatMap write ++ [quote]

end Quoted

end AnchorLint
