import AnchorLint.Number.Binary64
import AnchorLint.Text.Basic

/-!
# Shortest decimal texts

A binary number is printed with the fewest decimal digits that read back as
the same number and, among those, with the digits nearest to its value.
`shortest` finds the digits; `Layout` fixes how they are laid out.
-/

namespace AnchorLint

namespace Decimal

/-- The decimal numbers that read back as a given binary number: all of them
lie between `low / scale` and `high / scale`, ends included if `closed`, around
`value / scale`. -/
structure Interval where
  low : Nat
  value : Nat
  high : Nat
  scale : Nat
  closed : Bool

/-- The interval around a positive binary number.  Below the smallest mantissa
of a binade the numbers lie twice as dense. -/
def interval (mantissa : Nat) (exponent : Int) : Interval :=
  let dense := mantissa = Nat.pow 2 52 ∧ Binary64.minExponent < exponent
  let up := if exponent < 0 then 1 else Nat.pow 2 exponent.natAbs
  let scale := if exponent < 0 then 4 * Nat.pow 2 exponent.natAbs else 4
  { low := (4 * mantissa - if dense then 1 else 2) * up
    value := 4 * mantissa * up
    high := (4 * mantissa + 2) * up
    scale := scale
    closed := mantissa % 2 = 0 }

/-- Whether the fraction `top / bottom` reads back as the number. -/
def Interval.covers (interval : Interval) (top bottom : Nat) : Bool :=
  let here := top * interval.scale
  let low := interval.low * bottom
  let high := interval.high * bottom
  if interval.closed then low ≤ here && here ≤ high
  else low < here && here < high

/-- The power of ten just above a positive fraction: the least `k` at or above
the guess with `top / bottom < 10 ^ k`.  `steps` bounds the search. -/
def pointFrom (top bottom : Nat) : (steps : Nat) → (guess : Int) → Int
  | 0, guess => guess
  | steps + 1, guess =>
    let above :=
      if guess < 0 then top * Nat.pow 10 guess.natAbs < bottom
      else top < bottom * Nat.pow 10 guess.natAbs
    if above then guess else pointFrom top bottom steps (guess + 1)

/-- The position of the decimal point:
`10 ^ (k - 1) ≤ top / bottom < 10 ^ k`. -/
def point (top bottom : Nat) : Int :=
  let bits : Int := (Nat.log2 top : Int) - Nat.log2 bottom
  pointFrom top bottom 8 (bits * 30103 / 100000 - 2)

/-- The weight of the last of `count` digits, as a fraction. -/
def weight (position : Int) (count : Nat) : Nat × Nat :=
  let power := position - count
  let size := Nat.pow 10 power.natAbs
  if power < 0 then (1, size) else (size, 1)

/-- The greatest decimal with `count` digits that is not above the value. -/
def digitsBelow (interval : Interval) (position : Int) (count : Nat) : Nat :=
  let (up, down) := weight position count
  interval.value * down / (interval.scale * up)

/-- The best decimal with `count` digits, if one of the two nearest to the
value reads back.  If both do, the nearer one is taken, and the even one if
they are equally near. -/
def candidate? (interval : Interval) (position : Int) (count : Nat) :
    Option Nat :=
  let (up, down) := weight position count
  let below := digitsBelow interval position count
  let above := below + 1
  let fits (digits : Nat) := interval.covers (digits * up) down
  let below2 := 2 * interval.value * down
  let middle := (below + above) * interval.scale * up
  match fits below, fits above with
  | true, true =>
    some (if below2 < middle ∨ (below2 = middle ∧ below % 2 = 0) then below
      else above)
  | true, false => some below
  | false, true => some above
  | false, false => none

/-- The first digit count from `count` on for which a decimal reads back, with
the digits.  `steps` bounds the search; behind it, the decimal just above the
value is taken. -/
def searchFrom (interval : Interval) (position : Int) :
    (steps count : Nat) → Nat × Nat
  | 0, count => (digitsBelow interval position count + 1, count)
  | steps + 1, count =>
    match candidate? interval position count with
    | some digits => (digits, count)
    | none => searchFrom interval position steps (count + 1)

/-- The shortest digits of a positive number, without zeros at the end, and
the position of the decimal point before the first of them. -/
def shortest (mantissa : Nat) (exponent : Int) : Text × Int :=
  let interval := interval mantissa exponent
  let position := point interval.value interval.scale
  let (digits, count) := searchFrom interval position 17 1
  let text := Text.ofNat digits
  (Text.dropEndWhile (· == '0') text,
    position + (text.length : Int) - (count : Int))

/-- How the digits of a number are laid out. -/
structure Layout where
  /-- Positional notation is used while the point is above this position. -/
  lowest : Int
  /-- Positional notation is used while the point is not above this one. -/
  highest : Int
  /-- The exponent has at least this many digits. -/
  exponentWidth : Nat
  nan : Text
  infinity : Text

/-- The digits of a positive number laid out, with the point at `position`. -/
def Layout.digits (layout : Layout) (digits : Text) (position : Int) : Text :=
  if layout.lowest < position ∧ position ≤ layout.highest then
    if position ≤ 0 then
      ['0', '.'] ++ List.replicate position.natAbs '0' ++ digits
    else
      let whole := position.natAbs
      if digits.length ≤ whole then
        digits ++ List.replicate (whole - digits.length) '0' ++ ['.', '0']
      else digits.take whole ++ '.' :: digits.drop whole
  else
    let power := position - 1
    let fraction := if digits.length ≤ 1 then [] else '.' :: digits.drop 1
    digits.take 1 ++ fraction ++ ['e', if power < 0 then '-' else '+']
      ++ Text.padZeros layout.exponentWidth (Text.ofNat power.natAbs)

def Layout.write (layout : Layout) : Binary64 → Text
  | .nan => layout.nan
  | .infinity negative =>
    (if negative then ['-'] else []) ++ layout.infinity
  | .finite negative mantissa exponent =>
    let (digits, position) :=
      if mantissa = 0 then (['0'], 1) else shortest mantissa exponent
    (if negative then ['-'] else []) ++ layout.digits digits position

/-- Numbers in messages: positional from `0.0001` up to sixteen digits before
the point, and always with a point or an exponent. -/
def plain : Layout :=
  { lowest := -4
    highest := 16
    exponentWidth := 2
    nan := "nan".toList
    infinity := "inf".toList }

end Decimal

end AnchorLint
