import Sqlwright.Number.Places
import Sqlwright.Text.Capital
import Sqlwright.Value

/-!
Placeholders such as `%(name)-10s`: a part by its name, how the part is converted to text, and how
the text is set into its place. Main definitions: `Slot.read?` and `Slot.fill`.
-/

namespace Sqlwright.Log

open Number Text

/-- What can stand in a slot: a value, or something of which only the text that shows it is known. -/
inductive Part
  | value (v : Value)
  | shown (text : String)

def Part.plain : Part → String
  | .value v => v.plain
  | .shown text => text

def Part.inspect : Part → String
  | .value v => v.inspect
  | .shown text => text

def Part.value? : Part → Option Value
  | .value v => some v
  | .shown _ => none

inductive Conversion
  | plain | inspected | escaped | character | decimal | octal
  | hexadecimal (upper : Bool)
  | point (form : PointForm) (upper : Bool)
  deriving DecidableEq, Repr

namespace Conversion

def ofChar? : Char → Option Conversion
  | 's' => some .plain
  | 'r' => some .inspected
  | 'a' => some .escaped
  | 'c' => some .character
  | 'd' | 'i' | 'u' => some .decimal
  | 'o' => some .octal
  | 'x' => some (.hexadecimal false)
  | 'X' => some (.hexadecimal true)
  | 'f' => some (.point .fixed false)
  | 'F' => some (.point .fixed true)
  | 'e' => some (.point .scientific false)
  | 'E' => some (.point .scientific true)
  | 'g' => some (.point .general false)
  | 'G' => some (.point .general true)
  | _ => none

/-- Whether a conversion makes a number, which may have a sign. -/
def isNumeric : Conversion → Bool
  | .decimal | .octal | .hexadecimal _ | .point .. => true
  | _ => false

def baseMark : Conversion → List Char
  | .octal => ['0', 'o']
  | .hexadecimal false => ['0', 'x']
  | .hexadecimal true => ['0', 'X']
  | _ => []

end Conversion

/-- A placeholder: the name of the part; whether the text stands at the left end, shows a plus sign
or a blank where a minus sign could be, has the mark of its base or a point in any case, and is filled
up with zeros; the least width; the digits or characters asked for; the conversion. -/
structure Slot where
  word : String
  left : Bool := false
  plus : Bool := false
  blank : Bool := false
  marked : Bool := false
  zeros : Bool := false
  width : Nat := 0
  count : Option Nat := none
  conversion : Conversion := .plain

namespace Slot

def cased (upper : Bool) (text : List Char) : List Char :=
  if upper then text.map Char.toUpper else text

def sign (slot : Slot) (negative : Bool) : List Char :=
  if negative then ['-'] else if slot.plus then ['+'] else if slot.blank then [' '] else []

/-- The text of a number of which sign and mark, and the digits, are given apart. Zeros go between
the two, blanks around both. -/
def setNumber (slot : Slot) (front body : List Char) : List Char :=
  let room := slot.width - (front.length + body.length)
  if slot.left then front ++ body ++ List.replicate room ' '
  else if slot.zeros then front ++ List.replicate room '0' ++ body
  else List.replicate room ' ' ++ front ++ body

def setText (slot : Slot) (text : List Char) : List Char :=
  let room := slot.width - text.length
  if slot.left then text ++ List.replicate room ' ' else List.replicate room ' ' ++ text

def setCut (slot : Slot) (text : String) : List Char :=
  slot.setText ((slot.count.map text.toList.take).getD text.toList)

def setInteger (slot : Slot) (base : Nat) (n : Int) : List Char :=
  let digits := Nat.toDigits base n.natAbs
  let padded := List.replicate (slot.count.getD 0 - digits.length) '0' ++ digits
  let mark := if slot.marked then slot.conversion.baseMark else []
  slot.setNumber (slot.sign (n < 0) ++ mark)
    (cased (slot.conversion = .hexadecimal true) padded)

/-- A floating-point number. Six digits are written unless another count is asked for. -/
def setDouble (slot : Slot) (form : PointForm) (upper : Bool) (x : Double) : List Char :=
  match cased upper (x.withDigits form slot.marked (slot.count.getD 6)) with
  | '-' :: body => slot.setNumber (slot.sign true) body
  | body => slot.setNumber (slot.sign false) body

/-- The text of a part in its place, if the part can be converted. -/
def fill (slot : Slot) (part : Part) : Option (List Char) :=
  match slot.conversion with
  | .plain => some (slot.setCut part.plain)
  | .inspected => some (slot.setCut part.inspect)
  | .escaped => some (slot.setCut (escaped part.inspect))
  | .character => (part.value?.bind Value.char?).map fun c => slot.setText [c]
  | .decimal => (part.value?.bind Value.whole?).map (slot.setInteger 10)
  | .octal => (part.value?.bind Value.integer?).map (slot.setInteger 8)
  | .hexadecimal _ => (part.value?.bind Value.integer?).map (slot.setInteger 16)
  | .point form upper => (part.value?.bind Value.double?).map (slot.setDouble form upper)

/-- A number in decimal digits of ASCII. The empty text is zero. -/
def readNumber (digits : List Char) : Nat :=
  digits.foldl (fun n c => n * 10 + (c.toNat - '0'.toNat)) 0

/-- Signs that may stand in front of the width. -/
def flags : List Char := ['#', '0', '+', ' ', '-']

def cutCount : List Char → Option Nat × List Char
  | '.' :: rest => (some (readNumber (rest.takeWhile Char.isDigit)), rest.dropWhile Char.isDigit)
  | rest => (none, rest)

/-- Letters about the size of a number, one of which is passed over in front of the conversion. -/
def sizeLetters : List Char := ['h', 'l', 'L']

/-- The rest of a text behind a size letter. -/
def skipSize : List Char → List Char
  | c :: rest => if sizeLetters.contains c then rest else c :: rest
  | [] => []

def mostCharacters : Nat := 2147483647

/-- The greatest width, and the most digits, for which there is room. -/
def widest : Nat := 10000000

def isFeasible (slot : Slot) : Bool :=
  slot.width ≤ widest &&
    slot.count.getD 0 ≤ (if slot.conversion.isNumeric then widest else mostCharacters)

def read? (text : List Char) : Option (Slot × List Char) := do
  let (word, rest) ← cutAt ')' text
  let signs := rest.takeWhile flags.contains
  let rest := rest.dropWhile flags.contains
  let width := readNumber (rest.takeWhile Char.isDigit)
  let (count, rest) := cutCount (rest.dropWhile Char.isDigit)
  match skipSize rest with
  | [] => none
  | letter :: rest =>
    let conversion ← Conversion.ofChar? letter
    let slot : Slot :=
      { word := String.ofList word
        left := signs.contains '-'
        plus := signs.contains '+'
        blank := signs.contains ' '
        marked := signs.contains '#'
        zeros := signs.contains '0'
        width, count, conversion }
    if slot.isFeasible then some (slot, rest) else none

end Slot

end Sqlwright.Log
