/-!
# Binary floating point numbers

Numbers with a fraction in front matter and comments are read into the 64-bit
binary format.  A finite number is kept as its exact value, a mantissa of at
most 53 bits times a power of two, so that reading, comparing and printing
need nothing but natural numbers.  Rounding goes to the nearest number, a tie
to the even mantissa.
-/

namespace AnchorLint

/-- A number of the 64-bit binary format.  `finite` stands for the mantissa
times two to the exponent, with the given sign. -/
inductive Binary64 where
  | nan
  | infinity (negative : Bool)
  | finite (negative : Bool) (mantissa : Nat) (exponent : Int)
deriving DecidableEq

namespace Binary64

/-- The exponent of the smallest positive number. -/
def minExponent : Int := -1074

/-- The exponent of the largest numbers. -/
def maxExponent : Int := 971

/-- The mantissa has fewer than this many values. -/
def mantissaLimit : Nat := Nat.pow 2 53

/-- The fraction `top / bottom` scaled by two to minus the exponent. -/
def scale (top bottom : Nat) (exponent : Int) : Nat × Nat :=
  if exponent < 0 then (top * Nat.pow 2 exponent.natAbs, bottom)
  else (top, bottom * Nat.pow 2 exponent.natAbs)

/-- The quotient rounded to the nearest natural number, ties to even. -/
def divideToEven (top bottom : Nat) : Nat :=
  let quotient := top / bottom
  let twice := 2 * (top % bottom)
  if bottom < twice ∨ (twice = bottom ∧ quotient % 2 = 1) then quotient + 1
  else quotient

/-- The exponent with which the mantissa of a positive fraction has 53 bits,
but not below the smallest exponent. -/
def exponentFor (top bottom : Nat) : Int :=
  let guess : Int := (Nat.log2 top : Int) - Nat.log2 bottom - 52
  let (scaledTop, scaledBottom) := scale top bottom guess
  let guess :=
    if scaledTop / scaledBottom < Nat.pow 2 52 then guess - 1 else guess
  max guess minExponent

/-- The number nearest to the fraction `top / bottom`. -/
def ofFraction (negative : Bool) (top bottom : Nat) : Binary64 :=
  if top = 0 then finite negative 0 minExponent
  else
    let exponent := exponentFor top bottom
    let (scaledTop, scaledBottom) := scale top bottom exponent
    let mantissa := divideToEven scaledTop scaledBottom
    let (mantissa, exponent) :=
      if mantissa = mantissaLimit then (mantissa / 2, exponent + 1)
      else (mantissa, exponent)
    if maxExponent < exponent then infinity negative
    else finite negative mantissa exponent

/-- The number nearest to `digits` times ten to the `power`.  Powers far
outside the range of the format are not computed. -/
def ofDecimal (negative : Bool) (digits : Nat) (power : Int) : Binary64 :=
  let magnitude : Int := (Nat.toDigits 10 digits).length + power
  if digits = 0 then finite negative 0 minExponent
  else if 400 < magnitude then infinity negative
  else if magnitude < -400 then finite negative 0 minExponent
  else if power < 0 then ofFraction negative digits (Nat.pow 10 power.natAbs)
  else ofFraction negative (digits * Nat.pow 10 power.natAbs) 1

def ofNat (number : Nat) : Binary64 :=
  ofFraction false number 1

def negate : Binary64 → Binary64
  | nan => nan
  | infinity negative => infinity !negative
  | finite negative mantissa exponent => finite (!negative) mantissa exponent

/-- The exact value of a finite number as a signed fraction. -/
def fraction (negative : Bool) (mantissa : Nat) (exponent : Int) : Int × Nat :=
  let top : Int := if exponent < 0 then mantissa
    else Int.ofNat (mantissa * Nat.pow 2 exponent.natAbs)
  let bottom := if exponent < 0 then Nat.pow 2 exponent.natAbs else 1
  (if negative then -top else top, bottom)

/-- The rounded product. -/
def multiply : Binary64 → Binary64 → Binary64
  | finite negative mantissa exponent, finite negative' mantissa' exponent' =>
    let (top, bottom) := fraction negative mantissa exponent
    let (top', bottom') := fraction negative' mantissa' exponent'
    ofFraction (negative != negative') (top * top').natAbs (bottom * bottom')
  | infinity negative, infinity negative' => infinity (negative != negative')
  | infinity negative, finite negative' mantissa _ =>
    if mantissa = 0 then nan else infinity (negative != negative')
  | finite negative mantissa _, infinity negative' =>
    if mantissa = 0 then nan else infinity (negative != negative')
  | _, _ => nan

def add : Binary64 → Binary64 → Binary64
  | finite negative mantissa exponent, finite negative' mantissa' exponent' =>
    let (top, bottom) := fraction negative mantissa exponent
    let (top', bottom') := fraction negative' mantissa' exponent'
    let sum := top * bottom' + top' * bottom
    ofFraction (if sum = 0 then negative && negative' else decide (sum < 0))
      sum.natAbs (bottom * bottom')
  | infinity negative, infinity negative' =>
    if negative = negative' then infinity negative else nan
  | infinity negative, finite .. => infinity negative
  | finite .., infinity negative => infinity negative
  | _, _ => nan

/-- The rounded quotient by a positive natural number. -/
def divideBy (number : Binary64) (divisor : Nat) : Binary64 :=
  match number with
  | finite negative mantissa exponent =>
    let (top, bottom) := fraction negative mantissa exponent
    ofFraction negative top.natAbs (bottom * divisor)
  | number => number

def ofInt (number : Int) : Binary64 :=
  ofFraction (number < 0) number.natAbs 1

def isZero : Binary64 → Bool
  | finite _ mantissa _ => mantissa == 0
  | _ => false

/-- Whether two numbers are equal; zeros are equal whatever their signs, and
an undefined number equals nothing. -/
def sameNumber : Binary64 → Binary64 → Bool
  | finite negative mantissa exponent, finite negative' mantissa' exponent' =>
    (mantissa == 0 && mantissa' == 0) ||
      (negative == negative' && mantissa == mantissa' && exponent == exponent')
  | infinity negative, infinity negative' => negative == negative'
  | _, _ => false

def sameInteger : Binary64 → Int → Bool
  | finite negative mantissa exponent, integer =>
    let (top, bottom) := fraction negative mantissa exponent
    top == integer * bottom
  | _, _ => false

def atLeast : Binary64 → Int → Bool
  | nan, _ => false
  | infinity negative, _ => !negative
  | finite negative mantissa exponent, integer =>
    let (top, bottom) := fraction negative mantissa exponent
    integer * bottom ≤ top

end Binary64

end AnchorLint
