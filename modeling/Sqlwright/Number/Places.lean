import Sqlwright.Number.Shortest

/-!
Decimal text of floating-point numbers with a chosen count of digits: after the point, or in all. A
half goes to the even neighbour. Main definition: `Double.withDigits`.
-/

namespace Sqlwright.Number

/-- How a count of digits is meant: as the places after the point, as the places beside a power of
ten, or as all digits that count, with a power of ten only where the number is very large or small. -/
inductive PointForm
  | fixed | scientific | general
  deriving DecidableEq, Repr

/-- Digits before and after the point. A point with nothing after it is left out unless it is to be
kept. -/
def withPoint (keepPoint : Bool) (whole places : List Char) : List Char :=
  if places.isEmpty && !keepPoint then whole else whole ++ '.' :: places

def fixedText (keepPoint : Bool) (places num den : Nat) : List Char :=
  let digits := decimalDigits (roundHalfEven (num * Nat.pow 10 places) den)
  let padded := List.replicate (places + 1 - digits.length) '0' ++ digits
  let cut := padded.length - places
  withPoint keepPoint (padded.take cut) (padded.drop cut)

/-- The first digits of a fraction, rounded, and the power of ten of the first of them. -/
def leadingDigits (count num den : Nat) : List Char × Int :=
  if num = 0 then (List.replicate count '0', 0)
  else
    let top := decimalExponent num den
    let (n, d) := if 1 + top ≤ count then (num * Nat.pow 10 (count - 1 - top).natAbs, den)
      else (num, den * Nat.pow 10 (count - 1 - top).natAbs)
    let digits := decimalDigits (roundHalfEven n d)
    if count < digits.length then (digits.take count, top + 1) else (digits, top)

def dropFinalZeros (digits : List Char) : List Char :=
  (digits.reverse.dropWhile (· == '0')).reverse

def scientificText (keepPoint : Bool) (digits : List Char) (power : Int) : List Char :=
  withPoint keepPoint (digits.take 1) (digits.drop 1) ++ powerText power

/-- A fraction with a count of digits in all. Zeros at the end of the places are left out unless the
point is to be kept. -/
def generalText (keepPoint : Bool) (count num den : Nat) : List Char :=
  let (digits, power) := leadingDigits count num den
  let trim (places : List Char) : List Char :=
    if keepPoint then places else dropFinalZeros places
  if power < -4 || count ≤ power then
    scientificText keepPoint (digits.take 1 ++ trim (digits.drop 1)) power
  else if power < 0 then
    withPoint keepPoint ['0'] (trim (List.replicate (power.natAbs - 1) '0' ++ digits))
  else
    withPoint keepPoint (digits.take (power.toNat + 1)) (trim (digits.drop (power.toNat + 1)))

namespace Double

def withDigits (form : PointForm) (keepPoint : Bool) (count : Nat) : Double → List Char
  | .nan => "nan".toList
  | .infinite negative => if negative then "-inf".toList else "inf".toList
  | .finite negative mantissa exponent =>
    let (n, d) := ratio mantissa exponent
    let body :=
      match form with
      | .fixed => fixedText keepPoint count n d
      | .scientific =>
        let (digits, power) := leadingDigits (count + 1) n d
        scientificText keepPoint digits power
      | .general => generalText keepPoint (max 1 count) n d
    if negative then '-' :: body else body

def twoPlaces (x : Double) : String := String.ofList (x.withDigits .fixed false 2)

end Double

end Sqlwright.Number
