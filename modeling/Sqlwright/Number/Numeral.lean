import Sqlwright.Text.Blank
import Sqlwright.Text.Digit

/-!
Numerals as people write them: digits of any script, single underscores between digits, an optional
sign in front and blanks around the whole.
-/

namespace Sqlwright.Number

open Sqlwright.Text

/-- A blank that may surround a numeral. The information separators may not. -/
def isNumeralBlank (c : Char) : Bool := isBlank c && !(0x1c ≤ c.toNat && c.toNat ≤ 0x1f)

def trimNumeral (text : List Char) : List Char :=
  ((text.dropWhile isNumeralBlank).reverse.dropWhile isNumeralBlank).reverse

/-- The values of the longest run of digits at the start, and what follows it. An underscore joins
two digits; `joined` says that a digit stands right before. -/
def readDigits (joined : Bool) : List Char → List Nat × List Char
  | [] => ([], [])
  | [c] =>
    match digitValue? c with
    | some n => ([n], [])
    | none => ([], [c])
  | c :: d :: rest =>
    match digitValue? c with
    | some n =>
      let (digits, after) := readDigits true (d :: rest)
      (n :: digits, after)
    | none =>
      if joined && c = '_' then
        match digitValue? d with
        | some n =>
          let (digits, after) := readDigits true rest
          (n :: digits, after)
        | none => ([], c :: d :: rest)
      else ([], c :: d :: rest)

def ofDigits (digits : List Nat) : Nat := digits.foldl (fun n digit => n * 10 + digit) 0

def readSign : List Char → Bool × List Char
  | '-' :: rest => (true, rest)
  | '+' :: rest => (false, rest)
  | rest => (false, rest)

def signed (negative : Bool) (n : Nat) : Int := if negative then -(n : Int) else n

/-- The longest integer numeral that is read, in digits. Writing has no such bound (`intText`). -/
def longestInteger : Nat := 4300

def parseInt (text : List Char) : Option Int :=
  let (negative, rest) := readSign (trimNumeral text)
  match readDigits false rest with
  | (digits, []) =>
    if digits.isEmpty || longestInteger < digits.length then none
    else some (signed negative (ofDigits digits))
  | _ => none

/-- Reads the power of ten at the end of a numeral; no text stands for the power zero. -/
def readPower : List Char → Option Int
  | [] => some 0
  | mark :: rest =>
    if mark = 'e' || mark = 'E' then
      let (negative, rest) := readSign rest
      match readDigits false rest with
      | (digits, []) => if digits.isEmpty then none else some (signed negative (ofDigits digits))
      | _ => none
    else none

def decimalDigits (n : Nat) : List Char := Nat.toDigits 10 n

theorem isDigit_of_mem_decimalDigits {n : Nat} {c : Char} (h : c ∈ decimalDigits n) :
    c.isDigit = true :=
  Nat.isDigit_of_mem_toDigits (by decide) (by decide) h

/-- The text of an integer in decimal digits. Every integer has one: that an interpreter may refuse to
write integers of more than `longestInteger` digits is a setting of it, and is left out here. -/
def intText (n : Int) : String :=
  if n < 0 then "-" ++ String.ofList (decimalDigits n.natAbs)
  else String.ofList (decimalDigits n.natAbs)

end Sqlwright.Number
