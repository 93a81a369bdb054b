import AnchorLint.Data.Mismatch

/-!
# Quantities

Numbers among data are whole or have a fraction, and the truth values count as
one and zero.  This module holds the arithmetic on them and the order of
values: numbers are ordered by size, texts by their characters, and lists by
the first item in which they differ.  Values of different kinds have no order.
-/

namespace AnchorLint

/-- A number, whole or with a fraction. -/
inductive Quantity where
  | whole (value : Int)
  | real (value : Binary64)
deriving DecidableEq

namespace Quantity

def toValue : Quantity → Value
  | whole value => .int value
  | real value => .float value

def toReal : Quantity → Except Mismatch Binary64
  | real value => .ok value
  | whole value =>
    match Binary64.ofInt value with
    | .infinity _ => .error .tooLargeForFloat
    | number => .ok number

def add : Quantity → Quantity → Except Mismatch Quantity
  | whole first, whole second => .ok (whole (first + second))
  | first, second => do
    return real ((← first.toReal).add (← second.toReal))

def negate : Quantity → Quantity
  | whole value => whole (-value)
  | real value => real value.negate

/-- The exact value of a quantity as a fraction, unless it is not finite. -/
def fraction? : Quantity → Option (Int × Nat)
  | whole value => some (value, 1)
  | real (.finite negative mantissa exponent) =>
    some (Binary64.fraction negative mantissa exponent)
  | real _ => none

/-- How two quantities compare; a number that is undefined does not. -/
def compare? (first second : Quantity) : Option Ordering :=
  match first.fraction?, second.fraction? with
  | some (top, bottom), some (top', bottom') =>
    some (compare (top * bottom') (top' * bottom))
  | _, _ =>
    match first, second with
    | real .nan, _ | _, real .nan => none
    | real (.infinity negative), real (.infinity negative') =>
      some (compare (!negative).toNat (!negative').toNat)
    | real (.infinity negative), _ => some (if negative then .lt else .gt)
    | _, _ => some (if second == real (.infinity true) then .gt else .lt)

end Quantity

namespace Value

def quantity? : Value → Option Quantity
  | bool value => some (.whole (if value then 1 else 0))
  | int value => some (.whole value)
  | float value => some (.real value)
  | _ => none

/-- The sum of two numbers.  Texts and lists can be joined to their like. -/
def plus (first second : Value) : Except Mismatch Value :=
  match first.quantity?, second.quantity? with
  | some left, some right => (left.add right).map Quantity.toValue
  | _, _ =>
    match first, second with
    | str left, str right => .ok (str (left ++ right))
    | list left, list right => .ok (list (left ++ right))
    | str _, _ | list _, _ =>
      .error (.noJoining first.kindName second.kindName)
    | _, _ => .error (.noArithmetic ['+'] first.kindName second.kindName)

def minus (first second : Value) : Except Mismatch Value :=
  match first.quantity?, second.quantity? with
  | some left, some right => (left.add right.negate).map Quantity.toValue
  | _, _ => .error (.noArithmetic ['-'] first.kindName second.kindName)

mutual

/-- Whether two values are equal.  Numbers are compared by value, and the order
of the entries of a map does not count. -/
def same : Value → Value → Bool
  | list items, list items' => sameItems items items'
  | map entries, map entries' =>
    entries.length == entries'.length && sameEntries entries entries'
  | first, second => sameKey first second

def sameItems : List Value → List Value → Bool
  | [], [] => true
  | item :: items, item' :: items' => same item item' && sameItems items items'
  | _, _ => false

/-- Whether all entries are found in a map. -/
def sameEntries : List (Value × Value) → List (Value × Value) → Bool
  | [], _ => true
  | (key, value) :: entries, known =>
    (match known.find? fun entry => sameKey entry.1 key with
      | some (_, value') => same value value'
      | none => false) && sameEntries entries known

end

/-- The two ways to ask for an order. -/
inductive Comparison where
  | less
  | atMost
deriving DecidableEq

namespace Comparison

def sign : Comparison → Text
  | less => ['<']
  | atMost => ['<', '=']

/-- Whether an order is the one that is asked for. -/
def holds : Comparison → Ordering → Bool
  | _, .lt => true
  | less, .eq => false
  | atMost, .eq => true
  | _, .gt => false

end Comparison

mutual

def inOrder (comparison : Comparison) : Value → Value → Except Mismatch Bool
  | list items, list items' => itemsInOrder comparison items items'
  | str first, str second =>
    .ok (comparison.holds (if first == second then .eq
      else if Text.le first second then .lt else .gt))
  | first, second =>
    match first.quantity?, second.quantity? with
    | some left, some right =>
      .ok ((left.compare? right).any comparison.holds)
    | _, _ =>
      .error (.incomparable comparison.sign first.kindName second.kindName)

/-- Whether two lists are in an order, by the first items that differ. -/
def itemsInOrder (comparison : Comparison) :
    List Value → List Value → Except Mismatch Bool
  | item :: items, item' :: items' =>
    if same item item' then itemsInOrder comparison items items'
    else inOrder comparison item item'
  | items, items' =>
    .ok (comparison.holds (compare items.length items'.length))

end

/-- Whether a value comes before another. -/
def isLess (first second : Value) : Except Mismatch Bool :=
  inOrder .less first second

/-- Whether a value does not come behind another. -/
def isAtMost (first second : Value) : Except Mismatch Bool :=
  inOrder .atMost first second

end Value

end AnchorLint
