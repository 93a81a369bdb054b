import AnchorLint.Text.Basic

/-!
# YAML tags

A tag says what kind of value a node stands for.  It is written out, or it is
recognised from the spelling of a plain scalar.
-/

namespace AnchorLint

namespace Yaml

/-- The kinds of values.  `merge` and `value` are keys with a special role, and
`unknown` stands for every tag that no value is known for. -/
inductive Tag where
  | null
  | bool
  | int
  | float
  | binary
  | timestamp
  | omap
  | pairs
  | set
  | str
  | seq
  | map
  | merge
  | value
  | unknown
deriving DecidableEq

namespace Tag

/-- The text in front of the names of all standard tags. -/
def standardRoot : Text := "tag:yaml.org,2002:".toList

def names : List (Text × Tag) :=
  [ ("null".toList, null), ("bool".toList, bool), ("int".toList, int),
    ("float".toList, float), ("binary".toList, binary),
    ("timestamp".toList, timestamp), ("omap".toList, omap),
    ("pairs".toList, pairs), ("set".toList, set), ("str".toList, str),
    ("seq".toList, seq), ("map".toList, map), ("merge".toList, merge),
    ("value".toList, value) ]

def ofName (name : Text) : Tag :=
  ((Text.after? standardRoot name).bind fun short =>
    names.lookup short).getD unknown

/-- Whether values of a kind are made up of other values. -/
def isCollection : Tag → Bool
  | omap | pairs | set | seq | map => true
  | _ => false

/-- Whether no value is known for a tag. -/
def isSpecial : Tag → Bool
  | merge | value | unknown => true
  | _ => false

/-! ## The spellings of plain scalars -/

def truthWords : List Text :=
  [ "yes", "Yes", "YES", "no", "No", "NO", "true", "True", "TRUE", "false",
    "False", "FALSE", "on", "On", "ON", "off", "Off", "OFF" ].map String.toList

/-- The spellings of nothing. -/
def nullWords : List Text :=
  ["", "~", "null", "Null", "NULL"].map String.toList

def skipSign : Text → Text
  | '-' :: rest => rest
  | '+' :: rest => rest
  | text => text

def isDigitOrGap (character : Char) : Bool :=
  character.isDigit || character == '_'

/-- Whether a text is nonempty and made of certain characters. -/
def isRunOf (member : Char → Bool) (text : Text) : Bool :=
  !text.isEmpty && text.all member

/-- What follows a colon and the one or two digits below sixty behind it, for
each of the two ways to read a digit pair. -/
def sexagesimal : Text → List Text
  | ':' :: digit :: rest =>
    let single := if digit.isDigit then [rest] else []
    let double :=
      match rest with
      | second :: rest =>
        if '0' ≤ digit ∧ digit ≤ '5' ∧ second.isDigit then [rest] else []
      | [] => []
    double ++ single
  | _ => []

/-- Whether groups of digits below sixty, at least one, lead to a rest that
satisfies `accepts`.  `steps` bounds the number of groups. -/
def groupsThen (accepts : Text → Bool) : (steps : Nat) → Text → Bool
  | 0, _ => false
  | steps + 1, text =>
    (sexagesimal text).any fun rest =>
      accepts rest || groupsThen accepts steps rest

def isExponent : Text → Bool
  | mark :: sign :: digits =>
    (mark == 'e' || mark == 'E') && (sign == '-' || sign == '+')
      && isRunOf Char.isDigit digits
  | _ => false

/-- Whether a text is empty or an exponent. -/
def isEndOfFloat (text : Text) : Bool :=
  text.isEmpty || isExponent text

def skipDigits (text : Text) : Text :=
  text.dropWhile isDigitOrGap

/-- Whether a text is the fraction of a number in groups of sixty. -/
def isSexagesimalFraction : Text → Bool
  | '.' :: places => places.all isDigitOrGap
  | _ => false

/-- Whether a text is spelled like a number with a fraction. -/
def isFloat (text : Text) : Bool :=
  let unsigned := skipSign text
  let startsWithDigit := unsigned.head?.any Char.isDigit
  let behind := skipDigits unsigned
  (startsWithDigit && behind.head? == some '.'
      && isEndOfFloat (skipDigits (behind.drop 1)))
    || (text.head? == some '.' && (text.drop 1).head?.any Char.isDigit
      && isEndOfFloat (skipDigits (text.drop 1)))
    || (startsWithDigit
      && groupsThen isSexagesimalFraction text.length behind)
    || [".inf", ".Inf", ".INF"].any (fun word => word.toList == unsigned)
    || [".nan", ".NaN", ".NAN"].any fun word => word.toList == text

def isInteger (text : Text) : Bool :=
  match skipSign text with
  | '0' :: 'b' :: digits =>
    isRunOf (fun digit => digit == '0' || digit == '1' || digit == '_') digits
  | '0' :: 'x' :: digits =>
    isRunOf (fun digit => (Text.hexValue? digit).isSome || digit == '_') digits
  | '0' :: digits =>
    digits.all fun digit => decide ('0' ≤ digit ∧ digit ≤ '7') || digit == '_'
  | digit :: rest =>
    digit.isDigit &&
      (rest.all isDigitOrGap
        || groupsThen List.isEmpty text.length (skipDigits rest))
  | [] => false

/-- Whether so many digits, up to a greatest number, lead to a rest that
satisfies `accepts`. -/
def digitsThen (least greatest : Nat) (accepts : Text → Bool) (text : Text) :
    Bool :=
  (List.range (greatest + 1 - least)).any fun extra =>
    let count := least + extra
    (text.take count).length == count && (text.take count).all Char.isDigit
      && accepts (text.drop count)

/-- Whether a given character leads to a rest that satisfies `accepts`. -/
def characterThen (wanted : Char) (accepts : Text → Bool) : Text → Bool
  | character :: rest => character == wanted && accepts rest
  | [] => false

/-- Whether a text is an offset from universal time, or empty. -/
def isOffset (text : Text) : Bool :=
  text.isEmpty ||
    match text.dropWhile fun character =>
      character == ' ' || character == '\t' with
    | ['Z'] => true
    | sign :: rest =>
      (sign == '-' || sign == '+') && digitsThen 1 2 (fun rest =>
        rest.isEmpty || characterThen ':' (digitsThen 2 2 List.isEmpty) rest)
        rest
    | [] => false

/-- Whether a text is a fraction of a second and an offset, both optional. -/
def isEndOfTime (text : Text) : Bool :=
  match text with
  | '.' :: rest => isOffset (rest.dropWhile Char.isDigit)
  | _ => isOffset text

def isTimeBehindDate (text : Text) : Bool :=
  let time := match text with
    | 'T' :: rest => rest
    | 't' :: rest => rest
    | _ => text.dropWhile fun character => character == ' ' || character == '\t'
  time.length < text.length &&
    digitsThen 1 2 (characterThen ':' (digitsThen 2 2
      (characterThen ':' (digitsThen 2 2 isEndOfTime)))) time

/-- Whether a text is spelled like a date or a point in time.  A date alone has
two digits for the month and the day. -/
def isTimestamp (text : Text) : Bool :=
  digitsThen 4 4 (characterThen '-' (digitsThen 2 2
      (characterThen '-' (digitsThen 2 2 List.isEmpty)))) text
    || digitsThen 4 4 (characterThen '-' (digitsThen 1 2
      (characterThen '-' (digitsThen 1 2 isTimeBehindDate)))) text

/-- The tag of a spelling without a line break at its end. -/
def ofSpelling (text : Text) : Tag :=
  if truthWords.contains text then bool
  else if isFloat text then float
  else if isInteger text then int
  else if text = ['<', '<'] then merge
  else if nullWords.contains text then null
  else if isTimestamp text then timestamp
  else if text = ['='] then value
  else if text = ['!'] ∨ text = ['&'] ∨ text = ['*'] then unknown
  else str

/-- The tag of a plain scalar.  One line break at its end does not count,
unless nothing stands before it. -/
def ofPlain (text : Text) : Tag :=
  if text.getLast? = some '\n' ∧ 1 < text.length then
    ofSpelling text.dropLast
  else ofSpelling text

end Tag

end Yaml

end AnchorLint
