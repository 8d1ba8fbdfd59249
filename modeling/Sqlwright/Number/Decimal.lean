import Sqlwright.Number.Double

/-!
Decimal numbers that keep the digits they were given, trailing zeros included.
-/

namespace Sqlwright.Number

/-- A decimal number. A finite one has the value `digits * 10 ^ power` with its sign. The undefined
number carries decimal digits. -/
inductive Decimal
  | finite (negative : Bool) (digits : Nat) (power : Int)
  | infinite (negative : Bool)
  | nan (negative signalling : Bool) (payload : List (Fin 10))
  deriving DecidableEq

namespace Decimal

/-- The text of a finite number without its sign. The point stays among the digits or up to six
places before them; beyond that a power of ten is written. -/
def finiteText (digits : List Char) (power : Int) : List Char :=
  let size : Int := digits.length
  let left := power + size
  let plain := power ≤ 0 && -6 < left
  let point := if plain then left else 1
  let body :=
    if point ≤ 0 then '0' :: '.' :: List.replicate point.natAbs '0' ++ digits
    else if size ≤ point then digits ++ List.replicate (point - size).toNat '0'
    else digits.take point.toNat ++ '.' :: digits.drop point.toNat
  if left = point then body
  else
    body ++ 'E' :: (if left - point < 0 then '-' else '+') ::
      decimalDigits (left - point).natAbs

def text : Decimal → String
  | .finite negative digits power =>
    String.ofList ((if negative then ['-'] else []) ++ finiteText (decimalDigits digits) power)
  | .infinite negative => if negative then "-Infinity" else "Infinity"
  | .nan negative signalling payload =>
    (if negative then "-" else "") ++ (if signalling then "sNaN" else "NaN") ++
      String.ofList (payload.map fun digit : Fin 10 => digit.val.digitChar)

/-- Reads the digits of a numeral with a point; the count of digits after the point comes second. -/
def readDigitsWithPoint (text : List Char) : (List Nat × Nat) × List Char :=
  let (whole, rest) := readDigits false text
  match rest with
  | '.' :: after =>
    let (part, rest) := readDigits false after
    ((whole ++ part, part.length), rest)
  | _ => ((whole, 0), rest)

/-- Reads a name for a number that is not finite, given in capitals with what follows it. -/
def readName (negative : Bool) (name : List Char) : Option Decimal :=
  if name = "INF".toList || name = "INFINITY".toList then some (.infinite negative)
  else
    let (signalling, rest) := if name.head? = some 'S' then (true, name.drop 1) else (false, name)
    if rest.take 3 = "NAN".toList && (rest.drop 3).all Char.isDigit then
      let digits := (rest.drop 3).dropWhile (· == '0')
      some (.nan negative signalling (digits.map fun c => Fin.ofNat 10 (c.toNat - '0'.toNat)))
    else none

def parse (text : List Char) : Option Decimal :=
  let (negative, rest) := readSign (trimNumeral text)
  let ((digits, places), after) := readDigitsWithPoint rest
  if digits.isEmpty then readName negative (rest.map Char.toUpper)
  else (readPower after).map fun power => .finite negative (ofDigits digits) (power - places)

/-- A number other than zero; the undefined number counts as one. -/
def isNonzero : Decimal → Bool
  | .finite _ digits _ => digits != 0
  | _ => true

def truncate? : Decimal → Option Int
  | .finite negative digits power =>
    if power < 0 then some (signed negative (digits / Nat.pow 10 power.natAbs))
    else some (signed negative (digits * Nat.pow 10 power.natAbs))
  | _ => none

/-- Whether a number is at most a floating-point one. The undefined number compares with none. -/
def le : Decimal → Double → Bool
  | .finite negative digits power, x =>
    if power < 0 then x.ratioLe (signed negative digits) (Nat.pow 10 power.natAbs)
    else x.ratioLe (signed negative (digits * Nat.pow 10 power.natAbs)) 1
  | .infinite negative, x => (Double.infinite negative).le x
  | .nan .., _ => false

/-- The nearest floating-point number. An undefined number that must be noticed has none. -/
def toDouble? : Decimal → Option Double
  | .finite negative digits power => some (.ofScientific negative digits power)
  | .infinite negative => some (.infinite negative)
  | .nan _ signalling _ => if signalling then none else some .nan

end Decimal

end Sqlwright.Number
