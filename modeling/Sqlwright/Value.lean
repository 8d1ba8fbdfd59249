import Sqlwright.Number.Decimal
import Sqlwright.Number.Shortest
import Sqlwright.Text.Quoted
import Sqlwright.Text.Split

/-!
Values that callers bind to statements, declare as defaults or pass by mistake, and the two texts of
a value: the plain text that a statement or a log shows, and the inspected text of messages, where
texts stand in quotation marks.
-/

namespace Sqlwright

open Number Text

/-- A value from outside. An expression is a piece of SQL that is used as it is written. -/
inductive Value
  | null
  | bool (b : Bool)
  | int (n : Int)
  | float (x : Double)
  | decimal (d : Decimal)
  | text (s : String)
  | octets (bytes : List UInt8)
  | raw (expression : String)
  | list (items : List Value)
  | tuple (items : List Value)
  | map (entries : List (Value × Value))

instance : Inhabited Value := ⟨.null⟩

namespace Value

mutual

def inspect : Value → String
  | .null => "None"
  | .bool true => "True"
  | .bool false => "False"
  | .int n => intText n
  | .float x => x.text
  | .decimal d => "Decimal('" ++ d.text ++ "')"
  | .text s => quoted s
  | .octets bytes => quotedOctets bytes
  | .raw expression => "Raw(expression=" ++ quoted expression ++ ")"
  | .list items => "[" ++ join ", " (inspectItems items) ++ "]"
  | .tuple [item] => "(" ++ item.inspect ++ ",)"
  | .tuple items => "(" ++ join ", " (inspectItems items) ++ ")"
  | .map entries => "\x7b" ++ join ", " (inspectEntries entries) ++ "\x7d"

def inspectItems : List Value → List String
  | [] => []
  | item :: rest => item.inspect :: inspectItems rest

def inspectEntries : List (Value × Value) → List String
  | [] => []
  | (key, item) :: rest => (key.inspect ++ ": " ++ item.inspect) :: inspectEntries rest

end

def plain : Value → String
  | .text s => s
  | .raw expression => expression
  | .decimal d => d.text
  | v => v.inspect

def isNull : Value → Bool
  | .null => true
  | _ => false

/-- Whether a value is an integer, a floating-point number or a decimal. A truth value is none. -/
def isNumber : Value → Bool
  | .int _ | .float _ | .decimal _ => true
  | _ => false

/-- Whether a value counts as present: not absent, false, zero or empty. -/
def isPresent : Value → Bool
  | .null => false
  | .bool b => b
  | .int n => n != 0
  | .float x => x.isNonzero
  | .decimal d => d.isNonzero
  | .text s => !s.isEmpty
  | .octets bytes => !bytes.isEmpty
  | .raw _ => true
  | .list items | .tuple items => !items.isEmpty
  | .map entries => !entries.isEmpty

/-- The whole part of a number. A truth value counts as zero or one. -/
def whole? : Value → Option Int
  | .bool b => some (if b then 1 else 0)
  | .int n => some n
  | .float x => x.truncate?
  | .decimal d => d.truncate?
  | _ => none

def integer? : Value → Option Int
  | .bool b => some (if b then 1 else 0)
  | .int n => some n
  | _ => none

/-- The floating-point number nearest to a number. -/
def double? : Value → Option Double
  | .bool b => Double.ofInt? (if b then 1 else 0)
  | .int n => Double.ofInt? n
  | .float x => some x
  | .decimal d => d.toDouble?
  | _ => none

/-- The character that a value stands for: the only one of a text, or the one of a code point. -/
def char? : Value → Option Char
  | .text s =>
    match s.toList with
    | [c] => some c
    | _ => none
  | v => v.integer?.bind fun n => if h : 0 ≤ n ∧ n.toNat.isValidChar then some (.ofNatAux n.toNat h.2) else none

/-- Whether a value is a number that is at most another. -/
def isAtMost (x : Double) : Value → Bool
  | .bool b => x.ratioLe (if b then 1 else 0) 1
  | .int n => x.ratioLe n 1
  | .float y => y.le x
  | .decimal d => d.le x
  | _ => false

/-- A mapping of entries. Of entries under one key the last counts, at the place of the first. -/
def ofEntries (entries : List (Value × Value)) : Value :=
  let put (known : List (Value × Value)) (entry : Value × Value) : List (Value × Value) :=
    let same (other : Value × Value) : Bool := other.1.inspect = entry.1.inspect
    if known.any same then
      known.map fun other => if same other then (other.1, entry.2) else other
    else known ++ [entry]
  .map (entries.foldl put [])

/-- The members of a value that can be gone through one by one: the characters of a text, octets as
integers, the members of a list, the keys of a mapping. -/
def members? : Value → Option (List Value)
  | .text s => some (s.toList.map fun c => .text (String.singleton c))
  | .octets bytes => some (bytes.map fun octet => .int octet.toNat)
  | .list items | .tuple items => some items
  | .map entries => some (entries.map (·.1))
  | _ => none

end Value

/-- The key of an entry: a text, or a value of another kind by the text that shows it. -/
inductive Key
  | text (s : String)
  | other (shown : String)
  deriving DecidableEq, Repr

namespace Key

def ofValue : Value → Key
  | .text s => .text s
  | v => .other v.inspect

def inspect : Key → String
  | .text s => quoted s
  | .other shown => shown

def plain : Key → String
  | .text s => s
  | .other shown => shown

end Key

/-- A row of values under column names, in the order given. -/
abbrev Row := List (Key × Value)

def Value.row? : Value → Option Row
  | .map entries => some (entries.map fun (key, item) => (.ofValue key, item))
  | _ => none

end Sqlwright
