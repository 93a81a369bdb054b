import AnchorLint.Data.Calendar
import AnchorLint.Data.Value
import AnchorLint.Text.Quoted

/-!
# What is wrong with YAML texts

A text that does not follow the grammar or asks for unknown kinds of values is
malformed.  A text may also follow the grammar and still insist on a value that
does not exist, such as a date in the thirteenth month: that is a fault.
-/

namespace AnchorLint

namespace Yaml

/-- A value that a text insists on and that does not exist. -/
inductive Fault where
  | calendar (error : CalendarError)
  | integer (base : Nat) (text : Text)
  | integerTooLong (digits : Nat)
  | float (text : Text)
  | emptyNumber
  | truthValue (text : Text)
  | timestamp
  | timestampEntries
  | groupOverflow
  | endlessText
  | character
  | characterOverflow
deriving DecidableEq

namespace Fault

/-- At most this much of a quoted text that is no integer is shown. -/
def shownLength : Nat := 200

def message : Fault → Text
  | calendar error => error.message
  | integer base text =>
    "invalid literal for int() with base ".toList ++ Text.ofNat base
      ++ ": ".toList ++ (Quoted.ofText text).take shownLength
  | integerTooLong digits => ReadError.tooLongMessage digits
  | float text =>
    "could not convert string to float: ".toList ++ Quoted.ofText text
  | emptyNumber => "string index out of range".toList
  | truthValue text => Quoted.ofText text
  | timestamp =>
    "'NoneType' object has no attribute 'groupdict'".toList
  | timestampEntries =>
    "expected string or bytes-like object, got 'list'".toList
  | groupOverflow => "int too large to convert to float".toList
  | endlessText => "maximum recursion depth exceeded".toList
  | character => "chr() arg not in range(0x110000)".toList
  | characterOverflow => "Python int too large to convert to C int".toList

end Fault

/-- Why a text cannot be read as YAML. -/
inductive Problem where
  | malformed
  | fault (fault : Fault)
deriving DecidableEq

/-- What was found; a text that lacks it is malformed. -/
def required {α : Type} : Option α → Except Problem α
  | some found => .ok found
  | none => .error .malformed

end Yaml

end AnchorLint
