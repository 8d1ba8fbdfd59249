import Sqlwright.Number.Double

/-!
Decimal text of floating-point numbers: the fewest digits that read back as the number.
-/

namespace Sqlwright.Number

/-- Decimal digits that stand for `0.d₁d₂… * 10 ^ point`. -/
structure Scientific where
  digits : List Char
  point : Int

def decimalExponent (num den : Nat) : Int :=
  if den ≤ num then ((decimalDigits (num / den)).length : Int) - 1
  else -((decimalDigits ((den - 1) / num)).length : Int)

/-- The reals that round to one number: `num / den` with the fractions halfway to its neighbours. The
two ends belong to the interval when `closed` holds. -/
structure Rounding where
  den : Nat
  low : Nat
  num : Nat
  high : Nat
  closed : Bool

/-- The interval of a positive number. Below a power of two the neighbour is only half as far. -/
def Rounding.of (mantissa : Nat) (exponent : Int) : Rounding :=
  let (unit, den) := if exponent < 2 then (1, Nat.pow 2 (2 - exponent).toNat)
    else (Nat.pow 2 (exponent - 2).toNat, 1)
  let below :=
    if mantissa = Nat.pow 2 (Double.precision - 1) && Double.leastExponent < exponent then 1 else 2
  { den
    low := (4 * mantissa - below) * unit
    num := 4 * mantissa * unit
    high := (4 * mantissa + 2) * unit
    closed := mantissa % 2 = 0 }

/-- The multiple of `10 ^ power` next to the number and inside its interval, if there is one. Of two
the nearer is taken, and of two equally near the even one. -/
def Rounding.onGrid? (r : Rounding) (power : Int) : Option Nat :=
  let (up, den) := if power < 0 then (Nat.pow 10 power.natAbs, r.den)
    else (1, r.den * Nat.pow 10 power.natAbs)
  let inside (n : Nat) : Bool :=
    if r.closed then r.low * up ≤ n * den && n * den ≤ r.high * up
    else r.low * up < n * den && n * den < r.high * up
  let below := r.num * up / den
  let nearest := roundHalfEven (r.num * up) den
  if inside nearest then some nearest
  else if inside below then some below
  else if inside (below + 1) then some (below + 1)
  else none

/-- The fewest digits that read back as a positive number. Seventeen always do. -/
def shortestDigits (mantissa : Nat) (exponent : Int) : Scientific :=
  let r := Rounding.of mantissa exponent
  let top := decimalExponent r.num r.den
  let found := (List.range 17).findSome? fun (count : Nat) =>
    let power := top - count
    (r.onGrid? power).map fun n => (n, power)
  match found with
  | some (n, power) =>
    let digits := decimalDigits n
    ⟨(digits.reverse.dropWhile (· == '0')).reverse, digits.length + power⟩
  | none => ⟨['0'], 1⟩

/-- Positional text for digits and the place of the point, with at least one digit on each side. -/
def positional (s : Scientific) : List Char :=
  let count : Int := s.digits.length
  if s.point ≤ 0 then '0' :: '.' :: List.replicate s.point.natAbs '0' ++ s.digits
  else if count ≤ s.point then
    s.digits ++ List.replicate (s.point - count).toNat '0' ++ ['.', '0']
  else s.digits.take s.point.toNat ++ '.' :: s.digits.drop s.point.toNat

/-- A power of ten: its sign and at least two digits. -/
def powerText (power : Int) : List Char :=
  let digits := decimalDigits power.natAbs
  'e' :: (if power < 0 then '-' else '+') :: List.replicate (2 - digits.length) '0' ++ digits

def exponential (s : Scientific) : List Char :=
  let body :=
    match s.digits with
    | [] => []
    | [d] => [d]
    | d :: rest => d :: '.' :: rest
  body ++ powerText (s.point - 1)

/-- The shortest text that reads back as the number. Powers of ten from -4 to 15 are written out. -/
def Double.text : Double → String
  | .nan => "nan"
  | .infinite negative => if negative then "-inf" else "inf"
  | .finite negative mantissa exponent =>
    let sign := if negative then ['-'] else []
    if mantissa = 0 then String.ofList (sign ++ ['0', '.', '0'])
    else
      let s := shortestDigits mantissa exponent
      if -4 < s.point && s.point ≤ 16 then String.ofList (sign ++ positional s)
      else String.ofList (sign ++ exponential s)

end Sqlwright.Number
