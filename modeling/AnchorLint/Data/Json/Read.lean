import AnchorLint.Data.Value

/-!
# Reading JSON

Comments and cache files carry JSON.  The reader accepts the standard grammar
and the three words for numbers that the standard leaves out.  A repeated key
keeps its first place and takes its last value.  Lists and maps may be nested to
any depth: a reader that gives up on deep texts is not modelled.
-/

namespace AnchorLint

namespace Json

/-- Whether a character may stand between two tokens. -/
def isSpace (character : Char) : Bool :=
  character == ' ' || character == '\t' || character == '\n'
    || character == '\r'

def skipSpace (text : Text) : Text :=
  text.dropWhile isSpace

def hexQuad? : Text → Option (Nat × Text)
  | a :: b :: c :: d :: rest => do
    let a ← Text.hexValue? a
    let b ← Text.hexValue? b
    let c ← Text.hexValue? c
    let d ← Text.hexValue? d
    return (((a * 16 + b) * 16 + c) * 16 + d, rest)
  | _ => none

/-- The character behind `\u`; two escapes may make up one character.  Texts hold
scalar values only, so half of such a pair that stands alone has no character of
its own: U+0000 takes its place. -/
def unicodeEscape? (text : Text) : Option (Char × Text) := do
  let (high, rest) ← hexQuad? text
  if 0xD800 ≤ high ∧ high ≤ 0xDBFF then
    match rest with
    | '\\' :: 'u' :: more =>
      match hexQuad? more with
      | some (low, after) =>
        if 0xDC00 ≤ low ∧ low ≤ 0xDFFF then
          return (Char.ofNat
            (0x10000 + (high - 0xD800) * 0x400 + (low - 0xDC00)), after)
        else return (Char.ofNat high, rest)
      | none => return (Char.ofNat high, rest)
    | _ => return (Char.ofNat high, rest)
  else return (Char.ofNat high, rest)

def escape? : Text → Option (Char × Text)
  | '"' :: rest => some ('"', rest)
  | '\\' :: rest => some ('\\', rest)
  | '/' :: rest => some ('/', rest)
  | 'b' :: rest => some (Char.ofNat 8, rest)
  | 'f' :: rest => some (Char.ofNat 12, rest)
  | 'n' :: rest => some ('\n', rest)
  | 'r' :: rest => some ('\r', rest)
  | 't' :: rest => some ('\t', rest)
  | 'u' :: rest => unicodeEscape? rest
  | _ => none

/-- The text behind an opening quote up to the closing one, and what follows
it.  `steps` bounds the number of characters. -/
def string? : (steps : Nat) → Text → Option (Text × Text)
  | 0, _ => none
  | _ + 1, [] => none
  | steps + 1, character :: rest =>
    if character = '"' then some ([], rest)
    else if character = '\\' then do
      let (escaped, rest) ← escape? rest
      let (text, rest) ← string? steps rest
      return (escaped :: text, rest)
    else if character.toNat < 32 then none
    else do
      let (text, rest) ← string? steps rest
      return (character :: text, rest)

/-- The fraction of a number, if a point and a digit follow. -/
def fraction (text : Text) : Text × Text :=
  match text with
  | '.' :: rest =>
    let digits := rest.takeWhile Char.isDigit
    if digits.isEmpty then ([], text) else (digits, rest.drop digits.length)
  | _ => ([], text)

/-- The exponent of a number, if its mark and a digit follow. -/
def exponent? (text : Text) : Option Int × Text :=
  match text with
  | mark :: rest =>
    if mark = 'e' ∨ mark = 'E' then
      let (negative, digitsText) :=
        match rest with
        | '-' :: more => (true, more)
        | '+' :: more => (false, more)
        | _ => (false, rest)
      let digits := digitsText.takeWhile Char.isDigit
      if digits.isEmpty then (none, text)
      else
        let value : Int := Text.digitsValue 10 digits
        (some (if negative then -value else value),
          digitsText.drop digits.length)
    else (none, text)
  | [] => (none, text)

/-- Whether a number is negative, and its text without the sign. -/
def sign : Text → Bool × Text
  | '-' :: rest => (true, rest)
  | text => (false, text)

/-- The digits before the point of a number; a zero in front stands alone. -/
def wholeDigits (text : Text) : Text :=
  match text with
  | '0' :: _ => ['0']
  | _ => text.takeWhile Char.isDigit

def number (text : Text) : Except ReadError (Value × Text) :=
  let (negative, unsigned) := sign text
  let digits := wholeDigits unsigned
  if digits.isEmpty then .error .malformed
  else
    let (fractionDigits, rest) := fraction (unsigned.drop digits.length)
    let (power, rest) := exponent? rest
    if fractionDigits.isEmpty ∧ power = none then
      if ReadError.digitLimit < digits.length then
        .error (.integerTooLong digits.length)
      else
        let value : Int := Text.digitsValue 10 digits
        .ok (.int (if negative then -value else value), rest)
    else
      let places : Int := fractionDigits.length
      .ok (.float (Binary64.ofDecimal negative
        (Text.digitsValue 10 (digits ++ fractionDigits))
        (power.getD 0 - places)), rest)

def words : List (Text × Value) :=
  [ ("null".toList, .null),
    ("true".toList, .bool true),
    ("false".toList, .bool false),
    ("NaN".toList, .float .nan),
    ("Infinity".toList, .float (.infinity false)),
    ("-Infinity".toList, .float (.infinity true)) ]

def word? (text : Text) : Option (Value × Text) :=
  words.findSome? fun (spelling, value) =>
    (Text.after? spelling text).map fun rest => (value, rest)

mutual

/-- A value at the start of a text, and what follows it.  `steps` bounds the
number of tokens and `limit` the length of strings. -/
def value (limit : Nat) : (steps : Nat) → Text → Except ReadError (Value × Text)
  | 0, _ => .error .malformed
  | steps + 1, text =>
    match text with
    | '"' :: rest =>
      match string? limit rest with
      | some (content, rest) => .ok (.str content, rest)
      | none => .error .malformed
    | '[' :: rest =>
      match skipSpace rest with
      | ']' :: rest => .ok (.list [], rest)
      | rest => do
        let (items, rest) ← items limit steps rest
        return (.list items, rest)
    | '{' :: rest =>
      match skipSpace rest with
      | '}' :: rest => .ok (.map [], rest)
      | rest => do
        let (entries, rest) ← entries limit steps [] rest
        return (.map entries, rest)
    | _ =>
      match word? text with
      | some result => .ok result
      | none => number text

def items (limit : Nat) :
    (steps : Nat) → Text → Except ReadError (List Value × Text)
  | 0, _ => .error .malformed
  | steps + 1, text => do
    let (item, rest) ← value limit steps text
    match skipSpace rest with
    | ',' :: rest =>
      let (more, rest) ← items limit steps (skipSpace rest)
      return (item :: more, rest)
    | ']' :: rest => return ([item], rest)
    | _ => .error .malformed

/-- The entries of a map up to its closing brace, behind the ones read so
far. -/
def entries (limit : Nat) : (steps : Nat) → List (Value × Value) → Text →
    Except ReadError (List (Value × Value) × Text)
  | 0, _, _ => .error .malformed
  | steps + 1, previous, text =>
    match text with
    | '"' :: rest =>
      match string? limit rest with
      | none => .error .malformed
      | some (key, rest) =>
        match skipSpace rest with
        | ':' :: rest => do
          let (content, rest) ← value limit steps (skipSpace rest)
          let known := Value.putEntry previous (.str key) content
          match skipSpace rest with
          | ',' :: rest => entries limit steps known (skipSpace rest)
          | '}' :: rest => return (known, rest)
          | _ => .error .malformed
        | _ => .error .malformed
    | _ => .error .malformed

end

def read (text : Text) : Except ReadError Value := do
  let limit := text.length + 1
  let (result, rest) ← value limit limit (skipSpace text)
  if (skipSpace rest).isEmpty then return result else .error .malformed

end Json

end AnchorLint
