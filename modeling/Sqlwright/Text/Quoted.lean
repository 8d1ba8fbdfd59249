import Sqlwright.Text.Visible

/-!
Texts and octets in quotation marks, as messages show them. Single quotes enclose the text, or
double quotes where it holds a single quote and no double one. Characters without a visible form
are written as escapes.
-/

namespace Sqlwright.Text

def hexDigits (width n : Nat) : List Char :=
  let digits := Nat.toDigits 16 n
  List.replicate (width - digits.length) '0' ++ digits

def quoteFor (text : List Char) : Char :=
  if text.contains '\'' && !text.contains '"' then '"' else '\''

def escapedChar (c : Char) : List Char :=
  if c.toNat < 0x100 then '\\' :: 'x' :: hexDigits 2 c.toNat
  else if c.toNat < 0x10000 then '\\' :: 'u' :: hexDigits 4 c.toNat
  else '\\' :: 'U' :: hexDigits 8 c.toNat

def escaped (text : String) : String :=
  String.ofList (text.toList.flatMap fun c => if c.toNat < 0x80 then [c] else escapedChar c)

def quotedChar (mark c : Char) : List Char :=
  if c = mark || c = '\\' then ['\\', c]
  else if c = '\n' then ['\\', 'n']
  else if c = '\r' then ['\\', 'r']
  else if c = '\t' then ['\\', 't']
  else if isVisible c then [c]
  else escapedChar c

def quoted (text : String) : String :=
  let chars := text.toList
  let mark := quoteFor chars
  String.ofList (mark :: chars.flatMap (quotedChar mark) ++ [mark])

/-- Octets in quotation marks after a b. Octets outside printable ASCII are escaped. -/
def quotedOctets (octets : List UInt8) : String :=
  let chars := octets.map fun octet => Char.ofNat octet.toNat
  let mark := quoteFor chars
  let body := chars.flatMap fun c =>
    if c.toNat < 0x80 then quotedChar mark c else escapedChar c
  String.ofList ('b' :: mark :: body ++ [mark])

end Sqlwright.Text
