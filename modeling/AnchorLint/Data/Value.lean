import AnchorLint.Data.Calendar
import AnchorLint.Number.Decimal
import AnchorLint.Text.Quoted

/-!
# Data values

Front matter, configuration files and cache files hold structured data.  A
value is a scalar, a list, a set, or a map whose entries keep the order in
which their keys first appeared.  A list or map may contain itself; where it
does, a cycle stands in its place.

The formats for structured data share the two ways in which reading fails.
Integers are exact, but a decimal integer that is longer than `digitLimit` is
refused with an error of its own.
-/

namespace AnchorLint

/-- A structured datum. -/
inductive Value where
  | null
  | bool (value : Bool)
  | int (value : Int)
  | float (value : Binary64)
  | str (value : Text)
  | bytes (value : Bytes)
  | date (value : Date)
  | time (value : TimeOfDay)
  | moment (value : Moment)
  | list (items : List Value)
  | set (items : List Value)
  | map (entries : List (Value × Value))
  | cycle

mutual

/-- Whether two values are the same, with the entries of maps in the same order. -/
def Value.beq : Value → Value → Bool
  | .null, .null => true
  | .bool left, .bool right => left == right
  | .int left, .int right => left == right
  | .float left, .float right => left == right
  | .str left, .str right => left == right
  | .bytes left, .bytes right => left == right
  | .date left, .date right => left == right
  | .time left, .time right => left == right
  | .moment left, .moment right => left == right
  | .list left, .list right => Value.beqItems left right
  | .set left, .set right => Value.beqItems left right
  | .map left, .map right => Value.beqEntries left right
  | .cycle, .cycle => true
  | _, _ => false

def Value.beqItems : List Value → List Value → Bool
  | [], [] => true
  | first :: left, second :: right =>
    Value.beq first second && Value.beqItems left right
  | _, _ => false

/-- Whether two maps have the same entries in the same order. -/
def Value.beqEntries : List (Value × Value) → List (Value × Value) → Bool
  | [], [] => true
  | (key, value) :: left, (other, found) :: right =>
    Value.beq key other && Value.beq value found && Value.beqEntries left right
  | _, _ => false

end

instance : BEq Value := ⟨Value.beq⟩

/-- Entries in the order in which their keys first appeared. -/
abbrev Entries (κ α : Type) := List (κ × α)

namespace Entries

variable {κ α : Type}

/-- Gives `key` a new value.  A key that is already there keeps its place. -/
def putBy (same : κ → κ → Bool) (entries : Entries κ α) (key : κ) (value : α) :
    Entries κ α :=
  match entries with
  | [] => [(key, value)]
  | (old, current) :: rest =>
    if same old key then (old, value) :: rest
    else (old, current) :: putBy same rest key value

/-- Gives `key` a new value.  A key that is already there keeps its place. -/
def put [BEq κ] (entries : Entries κ α) (key : κ) (value : α) : Entries κ α :=
  putBy (· == ·) entries key value

/-- Gives `key` a value unless it has one already. -/
def putNew [BEq κ] (entries : Entries κ α) (key : κ) (value : α) :
    Entries κ α :=
  if (entries.lookup key).isSome then entries else entries ++ [(key, value)]

end Entries

namespace Value

def kindName : Value → Text
  | null => "NoneType".toList
  | bool _ => "bool".toList
  | int _ => "int".toList
  | float _ => "float".toList
  | str _ => "str".toList
  | bytes _ => "bytes".toList
  | date _ => "date".toList
  | time _ => "time".toList
  | moment _ => "datetime".toList
  | list _ => "list".toList
  | set _ => "set".toList
  | map _ => "dict".toList
  | cycle => "list".toList

/-- The name of the kind of a value, with the family of kinds it belongs to. -/
def fullKindName (value : Value) : Text :=
  match value with
  | date _ | time _ | moment _ => "datetime.".toList ++ value.kindName
  | _ => value.kindName

/-- The integer that a scalar counts as when it is a key. -/
def asInteger? : Value → Option Int
  | bool value => some (if value then 1 else 0)
  | int value => some value
  | _ => none

/-- Whether two scalars are the same key.  Numbers are compared by value, the
truth values count as one and zero, and all undefined numbers are one key. -/
def sameKey (first second : Value) : Bool :=
  match first.asInteger?, second.asInteger? with
  | some left, some right => left == right
  | some left, none =>
    match second with
    | float right => right.sameInteger left
    | _ => false
  | none, some right =>
    match first with
    | float left => left.sameInteger right
    | _ => false
  | none, none =>
    match first, second with
    | null, null => true
    | float .nan, float .nan => true
    | float left, float right => left.sameNumber right
    | str left, str right => left == right
    | bytes left, bytes right => left == right
    | date left, date right => left == right
    | time left, time right => left == right
    | moment left, moment right => left.same right
    | _, _ => false

/-- Whether a value can be a key: everything but lists, sets and maps. -/
def isScalar : Value → Bool
  | list _ | set _ | map _ | cycle => false
  | _ => true

/-- Gives a key a new value; a key that is already there keeps its place. -/
def putEntry (entries : List (Value × Value)) (key value : Value) :
    List (Value × Value) :=
  Entries.putBy sameKey entries key value

/-- Whether a value counts as true: everything but nothing, zero and
emptiness. -/
def isTruthy : Value → Bool
  | null => false
  | bool value => value
  | int value => value != 0
  | float value => !value.isZero
  | str value => !value.isEmpty
  | bytes value => !value.isEmpty
  | list items => !items.isEmpty
  | set items => !items.isEmpty
  | map entries => !entries.isEmpty
  | date _ | time _ | moment _ | cycle => true

def field? (value : Value) (name : String) : Option Value :=
  match value with
  | map entries =>
    (entries.find? fun entry => sameKey entry.1 (str name.toList)).map (·.2)
  | _ => none

mutual

/-- Whether a value contains itself somewhere. -/
def hasCycle : Value → Bool
  | cycle => true
  | list items => anyCycle items
  | map entries => anyCycleIn entries
  | _ => false

def anyCycle : List Value → Bool
  | [] => false
  | item :: items => item.hasCycle || anyCycle items

def anyCycleIn : List (Value × Value) → Bool
  | [] => false
  | (_, value) :: entries => value.hasCycle || anyCycleIn entries

end

/-- The offset of a moment as the constructor arguments of a quoted moment. -/
def quoteOffset (offset : Option Int) : Text :=
  match offset with
  | none => []
  | some 0 => ", tzinfo=datetime.timezone.utc".toList
  | some minutes =>
    ", tzinfo=datetime.timezone(".toList ++ quoteMinutes minutes ++ [')']

/-- The arguments of a quoted time of day; seconds and microseconds are left
out from the end while they are zero. -/
def quoteTime (time : TimeOfDay) : Text :=
  let numbers :=
    if time.microsecond ≠ 0 then
      [time.hour, time.minute, time.second, time.microsecond]
    else if time.second ≠ 0 then [time.hour, time.minute, time.second]
    else [time.hour, time.minute]
  Text.join ", ".toList (numbers.map Text.ofNat)

def quoteDate (date : Date) : Text :=
  Text.join ", ".toList ([date.year, date.month, date.day].map Text.ofNat)

mutual

def quote : Value → Text
  | null => "None".toList
  | bool value => if value then "True".toList else "False".toList
  | int value => Text.ofInt value
  | float value => Decimal.plain.write value
  | str value => Quoted.ofText value
  | bytes value => Quoted.ofBytes value
  | date value => "datetime.date(".toList ++ quoteDate value ++ [')']
  | time value => "datetime.time(".toList ++ quoteTime value ++ [')']
  | moment value =>
    "datetime.datetime(".toList ++ quoteDate value.date ++ ", ".toList
      ++ quoteTime value.time ++ quoteOffset value.offset ++ [')']
  | list items => '[' :: Text.join ", ".toList (quoteItems items) ++ [']']
  | set items =>
    if items.isEmpty then "set()".toList
    else '{' :: Text.join ", ".toList (quoteItems items) ++ ['}']
  | map entries => '{' :: Text.join ", ".toList (quoteEntries entries) ++ ['}']
  | cycle => "[...]".toList

def quoteItems : List Value → List Text
  | [] => []
  | item :: items => quote item :: quoteItems items

def quoteEntries : List (Value × Value) → List Text
  | [] => []
  | (key, value) :: entries =>
    (quote key ++ ": ".toList ++ quote value) :: quoteEntries entries

end

/-- A value as it reads when it stands alone: texts and calendar values are not
quoted. -/
def display : Value → Text
  | str value => value
  | date value => value.write
  | time value => value.write
  | moment value => value.write ' '
  | value => value.quote

end Value

/-- Why a text cannot be read as data. -/
inductive ReadError where
  | malformed
  | integerTooLong (digits : Nat)
deriving DecidableEq

namespace ReadError

def digitLimit : Nat := 4300

def tooLongMessage (digits : Nat) : Text :=
  "Exceeds the limit (4300 digits) for integer string conversion: ".toList
    ++ "value has ".toList ++ Text.ofNat digits ++ " digits; use ".toList
    ++ "sys.set_int_max_str_digits() to increase the limit".toList

end ReadError

end AnchorLint
