import Sqlwright.Text.Split
import Sqlwright.Text.Utf8

/-!
Percent signs in addresses: an octet is written as a percent sign and two hexadecimal digits, and in
a list of parameters a space is written as a plus sign.
-/

namespace Sqlwright.Percent

open Text

def digit? (c : Char) : Option Nat :=
  if c.isDigit then some (c.toNat - '0'.toNat)
  else if 'a' ≤ c && c ≤ 'f' then some (c.toNat - 'a'.toNat + 10)
  else if 'A' ≤ c && c ≤ 'F' then some (c.toNat - 'A'.toNat + 10)
  else none

/-- The octets that a text stands for. A percent sign that no two digits follow stands for itself. -/
def octets : List Char → List UInt8
  | '%' :: high :: low :: rest =>
    match digit? high, digit? low with
    | some h, some l => (h * 16 + l).toUInt8 :: octets rest
    | _, _ => Utf8.encodeChar '%' ++ octets (high :: low :: rest)
  | c :: rest => Utf8.encodeChar c ++ octets rest
  | [] => []

/-- A parameter's text as it was meant. Octets that are no UTF-8 become U+FFFD. -/
def decode (text : List Char) : List Char :=
  Utf8.decodeReplacing (octets (substitute '+' [' '] text))

def isPlain (c : Char) : Bool := c.isAlphanum || c = '_' || c = '.' || c = '-' || c = '~'

def hexDigit (n : Nat) : Char := if n < 10 then Char.ofNat (n + 48) else Char.ofNat (n + 55)

def escapeOctet (octet : UInt8) : List Char :=
  ['%', hexDigit (octet.toNat / 16), hexDigit (octet.toNat % 16)]

def encodeChar (c : Char) : List Char :=
  if c = ' ' then ['+']
  else if isPlain c then [c]
  else (Utf8.encodeChar c).flatMap escapeOctet

def encode (text : String) : String := String.ofList (text.toList.flatMap encodeChar)

end Sqlwright.Percent
