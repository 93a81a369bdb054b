import AnchorLint.Data.Base64
import AnchorLint.Data.Value
import AnchorLint.Data.Yaml.Cursor
import AnchorLint.Data.Yaml.Problem
import AnchorLint.Data.Yaml.Tag
import AnchorLint.Number.Numeral
import AnchorLint.Text.Case

/-!
# The values of YAML scalars

A scalar's tag says how its text is to be read: as a number, a word for a truth
value, a date, bytes, or as it stands.  A text that is tagged as something it
does not spell is a fault.
-/

namespace AnchorLint

namespace Yaml

/-- The text without underscores. -/
def withoutGaps (text : Text) : Text :=
  text.filter (· != '_')

/-- Whether a numeral is negative, and the numeral without its sign; an empty
text has neither. -/
def splitSign (text : Text) : Except Problem (Bool × Text) :=
  match text with
  | [] => .error (.fault .emptyNumber)
  | '-' :: rest => .ok (true, rest)
  | '+' :: rest => .ok (false, rest)
  | _ => .ok (false, text)

def integerIn (base : Nat) (text : Text) : Except Problem Int :=
  match Numeral.integer base text with
  | .ok value => .ok value
  | .error (.integerTooLong digits) => .error (.fault (.integerTooLong digits))
  | .error .malformed => .error (.fault (.integer base text))

/-- The integer without its sign: with a mark for the base, in octal behind a
zero, in groups of sixty, or in decimal. -/
def unsignedInteger (text : Text) : Except Problem Int :=
  match text with
  | [] => .error (.fault .emptyNumber)
  | ['0'] => .ok 0
  | '0' :: 'b' :: digits => integerIn 2 digits
  | '0' :: 'x' :: digits => integerIn 16 digits
  | '0' :: _ => integerIn 8 text
  | _ =>
    if text.contains ':' then do
      let groups ← (Text.splitAt (· == ':') text).mapM (integerIn 10)
      return groups.foldl (fun sum group => sum * 60 + group) 0
    else integerIn 10 text

def integerOf (text : Text) : Except Problem Value := do
  let (negative, unsigned) ← splitSign (withoutGaps text)
  let value ← unsignedInteger unsigned
  return .int (if negative then -value else value)

def floatPart (text : Text) : Except Problem Binary64 :=
  match Numeral.float? text with
  | some value => .ok value
  | none => .error (.fault (.float text))

/-- The sum of groups of sixty, the last group first.  There can be so many
groups that the power of sixty before one of them is too large. -/
def sumGroups : (power : Nat) → Binary64 → List Binary64 →
    Except Problem Binary64
  | _, sum, [] => .ok sum
  | power, sum, group :: groups =>
    match Binary64.ofNat power with
    | .infinity _ => .error (.fault .groupOverflow)
    | factor => sumGroups (power * 60) (sum.add (group.multiply factor)) groups

/-- The word for the undefined number, behind its sign. -/
def undefinedWord : Text := ".nan".toList

def floatOf (text : Text) : Except Problem Value := do
  let (negative, unsigned) ← splitSign (Text.lower (withoutGaps text))
  let value ←
    if unsigned = ".inf".toList then .ok (.infinity false)
    else if unsigned = undefinedWord then .ok .nan
    else if unsigned.contains ':' then do
      let groups ← (Text.splitAt (· == ':') unsigned).mapM floatPart
      sumGroups 1 (Binary64.ofNat 0) groups.reverse
    else floatPart unsigned
  return .float (if negative then value.negate else value)

/-- Whether a scalar is the undefined number by its word. -/
def isUndefinedWord (text : Text) : Bool :=
  match splitSign (Text.lower (withoutGaps text)) with
  | .ok (_, unsigned) => unsigned == undefinedWord
  | .error _ => false

def truthOf (text : Text) : Except Problem Value :=
  let word := Text.lower text
  if ["yes", "true", "on"].any fun yes => yes.toList == word then
    .ok (.bool true)
  else if ["no", "false", "off"].any fun no => no.toList == word then
    .ok (.bool false)
  else .error (.fault (.truthValue word))

/-- The number at the start of a text, of at least one and at most `most`
digits, and what follows it. -/
def number? (least most : Nat) (text : Text) : Option (Nat × Text) :=
  let digits := (text.take most).takeWhile Char.isDigit
  if digits.length < least then none
  else some (Text.digitsValue 10 digits, text.drop digits.length)

def behind? (wanted : Char) : Text → Option Text
  | character :: rest => if character = wanted then some rest else none
  | [] => none

/-- The offset at the end of a point in time in minutes; none for local
time. -/
def offset? (text : Text) : Option (Option Int) :=
  match text.dropWhile isIndent with
  | [] => if text.isEmpty then some none else none
  | ['Z'] => some (some 0)
  | sign :: rest =>
    if sign = '-' ∨ sign = '+' then do
      let (hours, rest) ← number? 1 2 rest
      let minutes ←
        match rest with
        | [] => some 0
        | ':' :: rest => do
          let (minutes, rest) ← number? 2 2 rest
          if rest.isEmpty then some minutes else none
        | _ => none
      let total : Int := hours * 60 + minutes
      return some (if sign = '-' then -total else total)
    else none

/-- The numbers of a date and, if they are given, the hour, minute, second,
microsecond and offset. -/
def timestampNumbers? (text : Text) :
    Option (Nat × Nat × Nat × Option (Nat × Nat × Nat × Nat × Option Int)) := do
  let (year, rest) ← number? 4 4 text
  let (month, rest) ← number? 1 2 (← behind? '-' rest)
  let (day, rest) ← number? 1 2 (← behind? '-' rest)
  match rest with
  | [] => return (year, month, day, none)
  | mark :: more =>
    let time :=
      if mark = 'T' ∨ mark = 't' then more else rest.dropWhile isIndent
    if time.length = rest.length then none
    else
      let (hour, rest) ← number? 1 2 time
      let (minute, rest) ← number? 2 2 (← behind? ':' rest)
      let (second, rest) ← number? 2 2 (← behind? ':' rest)
      let (places, rest) :=
        match rest with
        | '.' :: rest => rest.span Char.isDigit
        | _ => ([], rest)
      let six := places.take 6 ++ List.replicate (6 - places.length) '0'
      let offset ← offset? rest
      return (year, month, day,
        some (hour, minute, second, Text.digitsValue 10 six, offset))

/-- A date or time that must exist. -/
def existing {α : Type} : Except CalendarError α → Except Problem α
  | .ok value => .ok value
  | .error error => .error (.fault (.calendar error))

/-- The date or point in time that a scalar denotes.  One line break at its end
does not count. -/
def timestampOf (text : Text) : Except Problem Value :=
  let line := if text.getLast? = some '\n' then text.dropLast else text
  match timestampNumbers? line with
  | none => .error (.fault .timestamp)
  | some (year, month, day, none) => do
    return .date (← existing (Date.make year month day))
  | some (year, month, day, some (hour, minute, second, micro, offset)) => do
    let offset ←
      match offset with
      | some minutes =>
        if 1440 ≤ minutes.natAbs then
          .error (.fault (.calendar (.offset minutes)))
        else .ok (some minutes)
      | none => .ok none
    let date ← existing (Date.make year month day)
    let time ← existing (TimeOfDay.make hour minute second micro)
    return .moment ⟨date, time, offset⟩

def binaryOf (text : Text) : Except Problem Value :=
  if text.all fun character => character.toNat < 128 then
    match Base64.decode? text with
    | some bytes => .ok (.bytes bytes)
    | none => .error .malformed
  else .error .malformed

def valueOf (tag : Tag) (text : Text) : Except Problem Value :=
  match tag with
  | .null => .ok .null
  | .bool => truthOf text
  | .int => integerOf text
  | .float => floatOf text
  | .binary => binaryOf text
  | .timestamp => timestampOf text
  | .str => .ok (.str text)
  | _ => .error .malformed

end Yaml

end AnchorLint
