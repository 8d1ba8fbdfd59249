import Sqlwright.Error
import Sqlwright.Text.Digit

/-!
Statement templates: text with named fields in braces. A brace that is text is written twice. Behind
its name a field can pick characters by their places, ask for the text in quotation marks, and say how
the text is set: `\x7bold[0]!r:*>10.3\x7d` takes the first character, quoted, cut to three characters
and set to the right of ten places filled with stars. Faults are noticed from left to right. Main
definition: `Template.fill`.
-/

namespace Sqlwright.Template

open Number Text

/-- A field: the name and what follows it there, the letter of a conversion, and how the text is
set. -/
structure Field where
  subject : List Char
  conversion : Option Char := none
  style : List Char := []

/-- A character of a template, a field, or a place where the template is malformed. -/
inductive Piece
  | char (c : Char)
  | field (f : Field)
  | broken

/-- The subject of a field up to the mark that ends it, the mark, and the rest. Places in brackets are
passed over; a brace cannot be opened in a subject. -/
def cutSubject (inBrackets : Bool) : List Char → Option (List Char × Char × List Char)
  | [] => none
  | c :: rest =>
    let goOn (inBrackets : Bool) : Option (List Char × Char × List Char) :=
      (cutSubject inBrackets rest).map fun (subject, mark, rest) => (c :: subject, mark, rest)
    if inBrackets then goOn (c != ']')
    else if c = '\x7b' then none
    else if c = '\x7d' || c = ':' || c = '!' then some ([], c, rest)
    else goOn (c = '[')

/-- The style of a field up to the brace that closes the field, with the rest. Braces opened in the
style are closed in it. -/
def cutStyle (opened : Nat) : List Char → Option (List Char × List Char)
  | [] => none
  | c :: rest =>
    let goOn (opened : Nat) : Option (List Char × List Char) :=
      (cutStyle opened rest).map fun (style, rest) => (c :: style, rest)
    if c = '\x7b' then goOn (opened + 1)
    else if c = '\x7d' then
      match opened with
      | 0 => some ([], rest)
      | opened + 1 => goOn opened
    else goOn opened

def cutField (text : List Char) : Option (Field × List Char) :=
  let styled (subject : List Char) (conversion : Option Char) (text : List Char) :
      Option (Field × List Char) :=
    (cutStyle 0 text).map fun (style, rest) => ({ subject, conversion, style }, rest)
  match cutSubject false text with
  | none => none
  | some (subject, '!', letter :: '\x7d' :: rest) =>
    some ({ subject, conversion := some letter }, rest)
  | some (subject, '!', letter :: ':' :: rest) => styled subject (some letter) rest
  | some (_, '!', _) => none
  | some (subject, ':', rest) => styled subject none rest
  | some (subject, _, rest) => some ({ subject }, rest)

/-- The pieces of a template, with `fuel` bounding their number. Nothing is read behind a place where
it is malformed. -/
def pieces : (fuel : Nat) → List Char → List Piece
  | _, [] => []
  | 0, _ :: _ => [.broken]
  | fuel + 1, '\x7b' :: '\x7b' :: rest => .char '\x7b' :: pieces fuel rest
  | fuel + 1, '\x7d' :: '\x7d' :: rest => .char '\x7d' :: pieces fuel rest
  | _ + 1, '\x7d' :: _ => [.broken]
  | fuel + 1, '\x7b' :: rest =>
    match cutField rest with
    | some (f, rest) => .field f :: pieces fuel rest
    | none => [.broken]
  | fuel + 1, c :: rest => .char c :: pieces fuel rest

/-- The number that decimal digits spell, unless it is beyond all bounds. -/
def readNumber (digits : List Char) : Except Error Nat :=
  let n := ofDigits (digits.filterMap digitValue?)
  if n < Nat.pow 2 63 then .ok n else .error .malformedTemplate

def isNumber (text : List Char) : Bool := !text.isEmpty && text.all isDecimalDigit

/-- Whether a character begins what follows a name. -/
def beginsPart (c : Char) : Bool := c = '.' || c = '['

/-- The character of a text that a place in brackets picks. -/
def pick (text place : List Char) : Except Error (List Char) :=
  if place.isEmpty then .error .malformedTemplate
  else if isNumber place then do
    match text[← readNumber place]? with
    | some c => return [c]
    | none => throw .templateIndex
  else .error .templateSubscript

/-- What the parts behind a name make of its text, with `fuel` bounding their number. A text has no
attributes. -/
def follow : (fuel : Nat) → (text parts : List Char) → Except Error (List Char)
  | _, text, [] => .ok text
  | fuel + 1, text, '[' :: rest =>
    match cutAt ']' rest with
    | some (place, rest) => do follow fuel (← pick text place) rest
    | none => .error .malformedTemplate
  | _, _, '.' :: rest =>
    if (rest.takeWhile (!beginsPart ·)).isEmpty then .error .malformedTemplate
    else .error .templateAttribute
  | _, _, _ => .error .malformedTemplate

/-- The text that a subject names. Fields are known by names only, not by places. -/
def subjectText (fields : List (String × String)) (subject : List Char) :
    Except Error (List Char) := do
  let name := subject.takeWhile (!beginsPart ·)
  let parts := subject.dropWhile (!beginsPart ·)
  if name.isEmpty then throw .templateIndex
  else if isNumber name then
    let _ ← readNumber name
    throw .templateIndex
  else
    match fields.lookup (String.ofList name) with
    | some text => follow parts.length text.toList parts
    | none => throw .templateField

def convert (text : List Char) : Option Char → Except Error (List Char)
  | none | some 's' => .ok text
  | some 'r' => .ok (quoted (String.ofList text)).toList
  | some 'a' => .ok (escaped (quoted (String.ofList text))).toList
  | some _ => .error .malformedTemplate

inductive Alignment
  | left | right | middle
  deriving DecidableEq, Repr

/-- The alignment that a sign stands for. The sign for numbers stands for none. -/
def Alignment.ofChar? : Char → Option Alignment
  | '<' => some .left
  | '>' => some .right
  | '^' => some .middle
  | _ => none

def isAlignment (c : Char) : Bool := c = '=' || (Alignment.ofChar? c).isSome

/-- How a text is set: the sign of alignment, the character that fills up the width, the width, and
the most characters that are kept. -/
structure Style where
  alignment : Alignment := .left
  fill : Char := ' '
  width : Nat := 0
  most : Option Nat := none

/-- The signs at the start of a style: the fill character and the sign of alignment. -/
def cutAlignment : List Char → Option Char × Option Char × List Char
  | fill :: c :: rest =>
    if isAlignment c then (some fill, some c, rest)
    else if isAlignment fill then (none, some fill, c :: rest)
    else (none, none, fill :: c :: rest)
  | [c] => if isAlignment c then (none, some c, []) else (none, none, [c])
  | [] => (none, none, [])

def widest : Nat := 10000000

def readStyle (text : List Char) : Except Error Style := do
  let (fill?, sign?, rest) := cutAlignment text
  let (fill, rest) :=
    match fill?, rest with
    | some fill, rest => (fill, rest)
    | none, '0' :: rest => ('0', rest)
    | none, rest => (' ', rest)
  let width ← readNumber (rest.takeWhile isDecimalDigit)
  if widest < width then throw .malformedTemplate
  let (most, rest) ←
    match rest.dropWhile isDecimalDigit with
    | '.' :: rest =>
      let digits := rest.takeWhile isDecimalDigit
      if digits.isEmpty then throw .malformedTemplate
      else pure (some (← readNumber digits), rest.dropWhile isDecimalDigit)
    | rest => pure (none, rest)
  if rest.isEmpty || rest = ['s'] then
    match sign? with
    | none => return { fill, width, most }
    | some sign =>
      match Alignment.ofChar? sign with
      | some alignment => return { alignment, fill, width, most }
      | none => throw .malformedTemplate
  else throw .malformedTemplate

def Style.set (style : Style) (text : List Char) : List Char :=
  let kept := (style.most.map text.take).getD text
  let room := style.width - kept.length
  let before :=
    match style.alignment with
    | .left => 0
    | .right => room
    | .middle => room / 2
  List.replicate before style.fill ++ kept ++ List.replicate (room - before) style.fill

/-- The text of a piece, given how the style of a field is filled in. -/
def pieceText (fields : List (String × String))
    (fillStyle : List Char → Except Error (List Char)) : Piece → Except Error (List Char)
  | .char c => .ok [c]
  | .broken => .error .malformedTemplate
  | .field f => do
    let text ← convert (← subjectText fields f.subject) f.conversion
    let style ← if f.style.contains '\x7b' then fillStyle f.style else .ok f.style
    if style.isEmpty then return text
    else return (← readStyle style).set text

/-- The template with its fields filled in. Fields stand in the styles of fields, up to a depth. -/
def fillWithin (fields : List (String × String)) :
    (depth : Nat) → List Char → Except Error (List Char)
  | 0, _ => .error .malformedTemplate
  | depth + 1, text => do
    let texts ← (pieces text.length text).mapM (pieceText fields (fillWithin fields depth))
    return texts.flatten

def fill (template : String) (fields : List (String × String)) : Except Error String := do
  return String.ofList (← fillWithin fields 2 template.toList)

end Sqlwright.Template
