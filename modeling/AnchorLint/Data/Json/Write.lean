import AnchorLint.Data.Value

/-!
# Writing JSON

Reports and cache files are written as JSON, on one line or indented, with or
without characters outside ASCII.  Values that JSON cannot hold are written as
texts.  A key that is neither a text nor a number, truth value or nothing cannot
be written at all, nor can an integer with more digits than one that is read,
nor a value that contains itself.
-/

namespace AnchorLint

namespace Json

/-- Why a value cannot be written. -/
inductive WriteError where
  | key (value : Value)
  | integerTooLong
  | circular

/-- The complaint about a value that cannot be written. -/
def WriteError.message : WriteError → Text
  | key value =>
    "keys must be str, int, float, bool or None, not ".toList
      ++ value.fullKindName
  | integerTooLong =>
    "Exceeds the limit (4300 digits) for integer string conversion; ".toList
      ++ "use sys.set_int_max_str_digits() to increase the limit".toList
  | circular => "Circular reference detected".toList

/-- The digits of an integer, unless there are too many. -/
def writeInteger (number : Int) : Except WriteError Text :=
  if ReadError.digitLimit < (Text.ofNat number.natAbs).length then
    .error .integerTooLong
  else .ok (Text.ofInt number)

/-- A set as it reads when it stands alone. -/
def writeSet (items : List Value) : Except WriteError Text := do
  items.forM fun item =>
    match item with
    | .int number => (writeInteger number).map fun _ => ()
    | _ => .ok ()
  return (Value.set items).display

/-- Numbers in JSON: as in messages, but with the words that readers expect. -/
def numberLayout : Decimal.Layout :=
  { Decimal.plain with
    nan := "NaN".toList
    infinity := "Infinity".toList }

def escapeUnit (unit : Nat) : Text :=
  ['\\', 'u'] ++ Text.hex 4 unit

/-- How a character is written between double quotes. -/
def writeCharacter (asciiOnly : Bool) (character : Char) : Text :=
  let codePoint := character.toNat
  if character = '"' then ['\\', '"']
  else if character = '\\' then ['\\', '\\']
  else if character = '\n' then ['\\', 'n']
  else if character = '\r' then ['\\', 'r']
  else if character = '\t' then ['\\', 't']
  else if codePoint = 8 then ['\\', 'b']
  else if codePoint = 12 then ['\\', 'f']
  else if codePoint < 32 then escapeUnit codePoint
  else if asciiOnly ∧ 126 < codePoint then
    if codePoint < 0x10000 then escapeUnit codePoint
    else
      escapeUnit (0xD800 + (codePoint - 0x10000) / 0x400)
        ++ escapeUnit (0xDC00 + (codePoint - 0x10000) % 0x400)
  else [character]

def writeText (asciiOnly : Bool) (text : Text) : Text :=
  '"' :: text.flatMap (writeCharacter asciiOnly) ++ ['"']

def keyText : Value → Except WriteError Text
  | .str key => .ok key
  | .null => .ok "null".toList
  | .bool key => .ok (if key then "true".toList else "false".toList)
  | .int key => writeInteger key
  | .float key => .ok (numberLayout.write key)
  | key => .error (.key key)

/-- How a document is laid out: the spaces per level, or one line. -/
structure Style where
  asciiOnly : Bool
  indent : Option Nat

/-- What stands before an item at a given depth. -/
def Style.lineBreak (style : Style) (depth : Nat) : Text :=
  match style.indent with
  | some spaces => '\n' :: List.replicate (spaces * depth) ' '
  | none => []

/-- What stands between two items at a given depth. -/
def Style.separator (style : Style) (depth : Nat) : Text :=
  match style.indent with
  | some _ => ',' :: style.lineBreak depth
  | none => [',', ' ']

/-- Items between brackets, one level below `depth`. -/
def Style.enclose (style : Style) (depth : Nat) (opening closing : Char)
    (items : List Text) : Text :=
  if items.isEmpty then [opening, closing]
  else
    opening :: style.lineBreak (depth + 1)
      ++ Text.join (style.separator (depth + 1)) items
      ++ style.lineBreak depth ++ [closing]

mutual

/-- A value at a given depth, or why it cannot be written. -/
def Style.value (style : Style) (depth : Nat) : Value → Except WriteError Text
  | .null => .ok "null".toList
  | .bool value => .ok (if value then "true".toList else "false".toList)
  | .int value => writeInteger value
  | .float value => .ok (numberLayout.write value)
  | .str value => .ok (writeText style.asciiOnly value)
  | .list items => do
    let items ← style.items (depth + 1) items
    return style.enclose depth '[' ']' items
  | .map entries => do
    let entries ← style.entries (depth + 1) entries
    return style.enclose depth '{' '}' entries
  | .bytes value => .ok (writeText style.asciiOnly (Quoted.ofBytes value))
  | .date value => .ok (writeText style.asciiOnly value.write)
  | .time value => .ok (writeText style.asciiOnly value.write)
  | .moment value => .ok (writeText style.asciiOnly (value.write ' '))
  | .set items => (writeSet items).map (writeText style.asciiOnly)
  | .cycle => .error .circular

def Style.items (style : Style) (depth : Nat) :
    List Value → Except WriteError (List Text)
  | [] => .ok []
  | item :: items => do
    let item ← style.value depth item
    let items ← style.items depth items
    return item :: items

def Style.entries (style : Style) (depth : Nat) :
    List (Value × Value) → Except WriteError (List Text)
  | [] => .ok []
  | (key, value) :: entries => do
    let key ← keyText key
    let value ← style.value depth value
    let entries ← style.entries depth entries
    return (writeText style.asciiOnly key ++ [':', ' '] ++ value) :: entries

end

def Style.write (style : Style) (value : Value) : Except WriteError Text :=
  style.value 0 value

end Json

end AnchorLint
