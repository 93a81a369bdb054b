import AnchorLint.Data.Value

/-!
# TOML scalars

The values of a TOML document that hold no other values: strings in their four
spellings, numbers, dates and times.  Each function reads one spelling at the
start of a text and returns the value together with what follows it.
-/

namespace AnchorLint

namespace Toml

/-- Whether a character may stand between the tokens of a line. -/
def isSpace (character : Char) : Bool :=
  character == ' ' || character == '\t'

/-- Whether a character may stand between the tokens of several lines. -/
def isSpaceOrBreak (character : Char) : Bool :=
  isSpace character || character == '\n'

/-- Whether a character may not stand in strings and comments of one line. -/
def isControl (character : Char) : Bool :=
  (character.toNat < 32 || character.toNat == 127) && character != '\t'

/-- Whether a character may not stand in strings of several lines. -/
def isLongControl (character : Char) : Bool :=
  isControl character && character != '\n'

def skipSpace (text : Text) : Text :=
  text.dropWhile isSpace

def skipComment : Text → Except ReadError Text
  | '#' :: rest =>
    let (comment, rest) := rest.span (· != '\n')
    if comment.any isControl then .error .malformed else .ok rest
  | text => .ok text

/-- A character given by so many hexadecimal digits. -/
def hexCharacter? (count : Nat) (text : Text) : Option (Char × Text) :=
  let digits := text.take count
  if digits.length = count
      ∧ digits.all fun digit => (Text.hexValue? digit).isSome then
    let code := Text.digitsValue 16 digits
    if code < 0xD800 ∨ (0xE000 ≤ code ∧ code ≤ 0x10FFFF) then
      some (Char.ofNat code, text.drop count)
    else none
  else none

/-- The text that an escape stands for, behind its backslash.  At the end of a
line of a long string it stands for nothing and swallows the space before the
next visible character. -/
def escape? (long : Bool) (text : Text) : Option (Text × Text) :=
  match text with
  | [] => none
  | mark :: rest =>
    if long ∧ isSpaceOrBreak mark then
      match skipSpace text with
      | [] => some ([], [])
      | character :: rest =>
        if character = '\n' then some ([], rest.dropWhile isSpaceOrBreak)
        else none
    else
      match mark with
      | 'b' => some ([Char.ofNat 8], rest)
      | 't' => some (['\t'], rest)
      | 'n' => some (['\n'], rest)
      | 'f' => some ([Char.ofNat 12], rest)
      | 'r' => some (['\r'], rest)
      | '"' => some (['"'], rest)
      | '\\' => some (['\\'], rest)
      | 'u' => (hexCharacter? 4 rest).map fun found => ([found.1], found.2)
      | 'U' => (hexCharacter? 8 rest).map fun found => ([found.1], found.2)
      | _ => none

/-- The rest of a string with escapes behind its opening quote.  `steps` bounds
the number of characters and escapes. -/
def basic? (long : Bool) : (steps : Nat) → Text → Option (Text × Text)
  | 0, _ => none
  | _ + 1, [] => none
  | steps + 1, character :: rest =>
    if character = '"' ∧ (!long ∨ ['"', '"'].isPrefixOf rest) then
      some ([], if long then rest.drop 2 else rest)
    else if character = '\\' then do
      let (escaped, rest) ← escape? long rest
      let (content, rest) ← basic? long steps rest
      return (escaped ++ content, rest)
    else if if long then isLongControl character else isControl character then
      none
    else do
      let (content, rest) ← basic? long steps rest
      return (character :: content, rest)

/-- The rest of a string without escapes behind its opening quote. -/
def literal? (text : Text) : Option (Text × Text) :=
  match text.span (· != Quoted.apostrophe) with
  | (content, _ :: rest) =>
    if content.any isControl then none else some (content, rest)
  | (_, []) => none

/-- The rest of a long string without escapes behind its opening quotes. -/
def longLiteral? (text : Text) : Option (Text × Text) := do
  let stop ← Text.find? (List.replicate 3 Quoted.apostrophe) text
  let content := text.take stop
  if content.any isLongControl then none
  else some (content, text.drop (stop + 3))

/-- Up to two more quotes behind the end of a long string belong to it. -/
def absorbQuotes (quote : Char) (found : Text × Text) : Text × Text :=
  let extra := ((found.2.take 2).takeWhile (· == quote))
  (found.1 ++ extra, found.2.drop extra.length)

/-- What follows three quotes of a kind, without a line break right behind
them. -/
def longOpening? (quote : Char) (text : Text) : Option Text :=
  (Text.after? (List.replicate 3 quote) text).map fun rest =>
    if rest.head? = some '\n' then rest.drop 1 else rest

/-- A string that begins with a double quote.  `limit` bounds the number of
characters. -/
def basicString? (limit : Nat) (text : Text) : Option (Text × Text) :=
  match longOpening? '"' text with
  | some rest => (basic? true limit rest).map (absorbQuotes '"')
  | none => basic? false limit (text.drop 1)

/-- A string that begins with an apostrophe. -/
def literalString? (text : Text) : Option (Text × Text) :=
  match longOpening? Quoted.apostrophe text with
  | some rest =>
    (longLiteral? rest).map (absorbQuotes Quoted.apostrophe)
  | none => literal? (text.drop 1)

/-- The digits behind the first one; single underscores may stand between
them. -/
def moreDigits (isDigit : Char → Bool) : Text → Text × Text
  | '_' :: digit :: rest =>
    if isDigit digit then
      let (digits, behind) := moreDigits isDigit rest
      (digit :: digits, behind)
    else ([], '_' :: digit :: rest)
  | digit :: rest =>
    if isDigit digit then
      let (digits, behind) := moreDigits isDigit rest
      (digit :: digits, behind)
    else ([], digit :: rest)
  | [] => ([], [])

def digits? (isDigit : Char → Bool) : Text → Option (Text × Text)
  | digit :: rest =>
    if isDigit digit then
      let (digits, rest) := moreDigits isDigit rest
      some (digit :: digits, rest)
    else none
  | [] => none

def basedInteger? : Text → Option (Value × Text)
  | '0' :: mark :: rest => do
    let (base, isDigit) ←
      match mark with
      | 'x' => some (16, fun digit => (Text.hexValue? digit).isSome)
      | 'o' => some (8, fun digit => decide ('0' ≤ digit ∧ digit ≤ '7'))
      | 'b' => some (2, fun digit => decide ('0' ≤ digit ∧ digit ≤ '1'))
      | _ => none
    let (digits, rest) ← digits? isDigit rest
    return (.int (Text.digitsValue base digits), rest)
  | _ => none

def sign : Text → Bool × Text
  | '-' :: rest => (true, rest)
  | '+' :: rest => (false, rest)
  | text => (false, text)

def fraction : Text → Text × Text
  | '.' :: rest => (digits? Char.isDigit rest).getD ([], '.' :: rest)
  | text => ([], text)

def exponent? (text : Text) : Option (Int × Text) :=
  match text with
  | mark :: rest =>
    if mark = 'e' ∨ mark = 'E' then do
      let (negative, rest) := sign rest
      let (digits, rest) ← digits? Char.isDigit rest
      let value : Int := Text.digitsValue 10 digits
      return (if negative then -value else value, rest)
    else none
  | [] => none

/-- The digits before the point: a zero alone, or digits that start with
another one. -/
def integerDigits? : Text → Option (Text × Text)
  | '0' :: rest => some (['0'], rest)
  | text => digits? Char.isDigit text

/-- An integer or a number with a fraction, if the text starts with one. -/
def number? (text : Text) : Option (Except ReadError (Value × Text)) :=
  match basedInteger? text with
  | some found => some (.ok found)
  | none => do
    let (negative, unsigned) := sign text
    let (digits, rest) ← integerDigits? unsigned
    let (places, behind) := fraction rest
    let power := exponent? behind
    if places.isEmpty ∧ power.isNone then
      if ReadError.digitLimit < digits.length then
        return .error (.integerTooLong digits.length)
      else
        let value : Int := Text.digitsValue 10 digits
        return .ok (.int (if negative then -value else value), rest)
    else
      let scale : Int := (power.map (·.1)).getD 0 - places.length
      return .ok
        (.float (Binary64.ofDecimal negative
          (Text.digitsValue 10 (digits ++ places)) scale),
        (power.map (·.2)).getD behind)

def specialNumbers : List (Text × Value) :=
  let infinite (negative : Bool) : Value := .float (.infinity negative)
  [ ("inf".toList, infinite false),
    ("nan".toList, .float .nan),
    ("-inf".toList, infinite true),
    ("+inf".toList, infinite false),
    ("-nan".toList, .float .nan),
    ("+nan".toList, .float .nan) ]

/-- A number of exactly `count` digits between two bounds. -/
def between? (count low high : Nat) (text : Text) : Option (Nat × Text) :=
  let digits := text.take count
  let value := Text.digitsValue 10 digits
  if digits.length = count ∧ digits.all Char.isDigit
      ∧ low ≤ value ∧ value ≤ high then
    some (value, text.drop count)
  else none

def expect? (wanted : Char) : Text → Option Text
  | character :: rest => if character = wanted then some rest else none
  | [] => none

/-- The microseconds behind a point; digits past the sixth do not count. -/
def microseconds (text : Text) : Nat × Text :=
  match text with
  | '.' :: rest =>
    let digits := rest.takeWhile Char.isDigit
    if digits.isEmpty then (0, text)
    else
      let six := digits.take 6 ++ List.replicate (6 - digits.length) '0'
      (Text.digitsValue 10 six, rest.drop digits.length)
  | _ => (0, text)

def time? (text : Text) : Option (TimeOfDay × Text) := do
  let (hour, rest) ← between? 2 0 23 text
  let rest ← expect? ':' rest
  let (minute, rest) ← between? 2 0 59 rest
  let rest ← expect? ':' rest
  let (second, rest) ← between? 2 0 59 rest
  let (micro, rest) := microseconds rest
  return (⟨hour, minute, second, micro⟩, rest)

/-- An offset of a given direction in minutes. -/
def hoursAndMinutes? (negative : Bool) (text : Text) :
    Option (Int × Text) := do
  let (hour, rest) ← between? 2 0 23 text
  let rest ← expect? ':' rest
  let (minute, rest) ← between? 2 0 59 rest
  let minutes : Int := hour * 60 + minute
  return (if negative then -minutes else minutes, rest)

def offset? (text : Text) : Option Int × Text :=
  let found :=
    match text with
    | '+' :: rest => hoursAndMinutes? false rest
    | '-' :: rest => hoursAndMinutes? true rest
    | mark :: rest => if mark = 'Z' ∨ mark = 'z' then some (0, rest) else none
    | [] => none
  match found with
  | some (minutes, rest) => (some minutes, rest)
  | none => (none, text)

/-- The time of day behind a date, if one is given. -/
def timeOfDate? : Text → Option (TimeOfDay × Text)
  | mark :: rest =>
    if mark = 'T' ∨ mark = 't' ∨ mark = ' ' then time? rest else none
  | [] => none

/-- The year, month and day at the start of a text. -/
def dateNumbers? (text : Text) : Option (Nat × Nat × Nat × Text) := do
  let (year, rest) ← between? 4 0 9999 text
  let rest ← expect? '-' rest
  let (month, rest) ← between? 2 1 12 rest
  let rest ← expect? '-' rest
  let (day, rest) ← between? 2 1 31 rest
  return (year, month, day, rest)

/-- A date, alone or with a time, or a time alone. -/
def calendar? (text : Text) : Option (Except ReadError (Value × Text)) :=
  match dateNumbers? text with
  | some (year, month, day, rest) =>
    match Date.make year month day with
    | .error _ => some (.error .malformed)
    | .ok date =>
      match timeOfDate? rest with
      | some (time, rest) =>
        let (offset, rest) := offset? rest
        some (.ok (.moment ⟨date, time, offset⟩, rest))
      | none => some (.ok (.date date, rest))
  | none => (time? text).map fun (time, rest) => .ok (.time time, rest)

def truthWords : List (Text × Value) :=
  [("true".toList, .bool true), ("false".toList, .bool false)]

/-- The value of the first of several words that the text starts with. -/
def word? (words : List (Text × Value)) (text : Text) :
    Option (Value × Text) :=
  words.findSome? fun (spelling, value) =>
    (Text.after? spelling text).map fun rest => (value, rest)

/-- Turns a missing reading into an error. -/
def demand {α : Type} : Option (α × Text) → Except ReadError (α × Text)
  | some found => .ok found
  | none => .error .malformed

/-- A value that is no array and no table.  `limit` bounds the number of
characters. -/
def scalar (limit : Nat) (text : Text) : Except ReadError (Value × Text) :=
  match text with
  | [] => .error .malformed
  | first :: _ =>
    if first = '"' then
      demand ((basicString? limit text).map fun found =>
        (.str found.1, found.2))
    else if first = Quoted.apostrophe then
      demand ((literalString? text).map fun found => (.str found.1, found.2))
    else
      match word? truthWords text with
      | some found => .ok found
      | none =>
        match calendar? text with
        | some reading => reading
        | none =>
          match number? text with
          | some reading => reading
          | none => demand (word? specialNumbers text)

end Toml

end AnchorLint
