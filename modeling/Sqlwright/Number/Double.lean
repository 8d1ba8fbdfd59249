import Sqlwright.Number.Numeral

/-!
Binary floating-point numbers of 53 significant bits, as exact values: a sign, a whole mantissa and
a power of two. Every number comes out of `Double.ofRatio`, which rounds a fraction to the nearest
such value, halves to the even mantissa.
-/

namespace Sqlwright.Number

/-- A floating-point number. A finite one has the value `mantissa * 2 ^ exponent` with its sign. -/
inductive Double
  | nan
  | infinite (negative : Bool)
  | finite (negative : Bool) (mantissa : Nat) (exponent : Int)
  deriving DecidableEq

/-- The whole number nearest to a fraction, a half going to the even neighbour. -/
def roundHalfEven (num den : Nat) : Nat :=
  let low := num / den
  let twice := 2 * (num % den)
  if twice < den then low
  else if den < twice then low + 1
  else if low % 2 = 0 then low else low + 1

def scaleDown (num den : Nat) (power : Int) : Nat × Nat :=
  if power < 0 then (num * Nat.pow 2 power.natAbs, den) else (num, den * Nat.pow 2 power.natAbs)

namespace Double

def precision : Nat := 53

def leastExponent : Int := -1074

def greatestExponent : Int := 971

def zero (negative : Bool) : Double := .finite negative 0 leastExponent

/-- The exponent for which a positive fraction has a mantissa of full length, or the least one. -/
def exponentFor (num den : Nat) : Int :=
  let guess := max ((num.log2 : Int) - den.log2 - precision) leastExponent
  let (n, d) := scaleDown num den guess
  if Nat.pow 2 precision ≤ n / d then guess + 1 else guess

/-- The number nearest to a fraction with a positive denominator. -/
def ofRatio (negative : Bool) (num den : Nat) : Double :=
  if num = 0 then zero negative
  else
    let exponent := exponentFor num den
    let (n, d) := scaleDown num den exponent
    let mantissa := roundHalfEven n d
    let (mantissa, exponent) :=
      if mantissa = Nat.pow 2 precision then (Nat.pow 2 (precision - 1), exponent + 1)
      else (mantissa, exponent)
    if greatestExponent < exponent then .infinite negative
    else .finite negative mantissa exponent

/-- The number nearest to `digits * 10 ^ power`. Powers that are far out of reach are not
computed. -/
def ofScientific (negative : Bool) (digits : Nat) (power : Int) : Double :=
  let size := (decimalDigits digits).length + power
  if digits = 0 || size < -330 then zero negative
  else if 310 < size then .infinite negative
  else if power < 0 then ofRatio negative digits (Nat.pow 10 power.natAbs)
  else ofRatio negative (digits * Nat.pow 10 power.natAbs) 1

/-- Reads a numeral with an optional point and an optional power of ten. -/
def readPlain (negative : Bool) (text : List Char) : Option Double :=
  let (whole, rest) := readDigits false text
  let (part, rest) :=
    match rest with
    | '.' :: after => readDigits false after
    | _ => ([], rest)
  if whole.isEmpty && part.isEmpty then none
  else
    (readPower rest).map fun power =>
      ofScientific negative (ofDigits (whole ++ part)) (power - part.length)

/-- Reads a whole text as a number. Infinity and the undefined number have names. -/
def parse (text : List Char) : Option Double :=
  let (negative, rest) := readSign (trimNumeral text)
  let name := rest.map Char.toUpper
  if name == "INF".toList || name == "INFINITY".toList then some (.infinite negative)
  else if name == "NAN".toList then some .nan
  else readPlain negative rest

def ratio (mantissa : Nat) (exponent : Int) : Nat × Nat :=
  scaleDown mantissa 1 (-exponent)

/-- A finite number that is not zero, an infinity or the undefined number. -/
def isNonzero : Double → Bool
  | .finite _ mantissa _ => mantissa != 0
  | _ => true

def truncate? : Double → Option Int
  | .finite negative mantissa exponent =>
    let (n, d) := ratio mantissa exponent
    some (signed negative (n / d))
  | _ => none

/-- Whether a number is at most another. The undefined number compares with none. -/
def le : Double → Double → Bool
  | .nan, _ | _, .nan => false
  | .infinite true, _ => true
  | _, .infinite false => true
  | _, .infinite true => false
  | .infinite false, _ => false
  | .finite negA mA eA, .finite negB mB eB =>
    let (a, da) := ratio mA eA
    let (b, db) := ratio mB eB
    signed negA (a * db) ≤ signed negB (b * da)

def ratioLe (num : Int) (den : Nat) : Double → Bool
  | .nan => false
  | .infinite negative => !negative
  | .finite negative mantissa exponent =>
    let (a, d) := ratio mantissa exponent
    num * d ≤ signed negative a * den

/-- The number nearest to an integer, unless the integer is out of reach. -/
def ofInt? (n : Int) : Option Double :=
  match ofRatio (n < 0) n.natAbs 1 with
  | .infinite _ => none
  | x => some x

end Double

end Sqlwright.Number
