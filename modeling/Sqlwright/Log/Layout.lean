import Sqlwright.Error
import Sqlwright.Log.Record
import Sqlwright.Log.Slot
import Sqlwright.Text.Alphanumeric
import Sqlwright.Text.Capital
import Sqlwright.Text.Digit

/-!
How a record becomes a line: a text in which slots such as `%(name)s` stand for parts of the record.
A layout has at least one slot; one that asks for what a record does not have, or for what cannot be
done with it, lays nothing out.
-/

namespace Sqlwright.Log

open Number Text

def Record.shownArguments (r : Record) : String :=
  "(" ++ join ", " r.arguments ++ (if r.arguments.length = 1 then ",)" else ")")

def Record.part? (correlation : Value) (r : Record) (word : String) : Option Part :=
  let parts : Keyed Part :=
    [("name", .value (.text r.logger)), ("msg", .value r.said), ("args", .shown r.shownArguments),
      ("levelname", .value (.text r.level.name)), ("levelno", .value (.int r.level.weight)),
      ("message", .value (.text r.message)), ("correlation_id", .value correlation),
      ("exc_info", .value .null), ("exc_text", .value .null), ("stack_info", .value .null),
      ("threadName", .value (.text "MainThread")), ("processName", .value (.text "MainProcess"))]
  (parts.find? word).or ((r.details.find? word).map .value)

inductive Piece
  | char (c : Char)
  | slot (slot : Slot)

/-- The pieces of a layout, with `fuel` bounding their number. -/
def readPieces : (fuel : Nat) → List Char → Option (List Piece)
  | _, [] => some []
  | 0, _ :: _ => none
  | fuel + 1, '%' :: '%' :: rest => (readPieces fuel rest).map (.char '%' :: ·)
  | fuel + 1, '%' :: '(' :: rest =>
    match Slot.read? rest with
    | some (slot, rest) => (readPieces fuel rest).map (.slot slot :: ·)
    | none => none
  | _ + 1, '%' :: _ => none
  | fuel + 1, c :: rest => (readPieces fuel rest).map (.char c :: ·)

def isConversion (c : Char) : Bool := c = '%' || "DIOUXEFGCRSA".toList.any (readsAs · c)

/-- A number of digits or an asterisk is skipped. -/
def skipWidth : List Char → List Char
  | '*' :: rest => rest
  | rest => rest.dropWhile isDecimalDigit

def continuesSlot (text : List Char) : Bool :=
  let isWord := fun c => isAlphanumeric c || c = '_'
  let word := text.takeWhile isWord
  match text.drop word.length with
  | ')' :: rest =>
    let ends : List Char → Bool := fun rest => rest.head?.any isConversion
    let rest := skipWidth (rest.dropWhile Slot.flags.contains)
    !word.isEmpty &&
      match rest with
      | '.' :: after =>
        let precise := skipWidth after
        precise.length < after.length && ends precise
      | rest => ends rest
  | _ => false

def hasSlot : List Char → Bool
  | '%' :: '(' :: rest => continuesSlot rest || hasSlot ('(' :: rest)
  | _ :: rest => hasSlot rest
  | [] => false

/-- A layout. Without pieces it lays nothing out. -/
structure Layout where
  pieces : Option (List Piece)

namespace Layout

def bare : Layout := ⟨some [.slot { word := "message" }]⟩

/-- Reads a layout. The empty text asks for the message alone. Each piece takes a character at
least. -/
def read (text : String) : Except Error Layout :=
  if text.isEmpty then .ok bare
  else if hasSlot text.toList then .ok ⟨readPieces text.toList.length text.toList⟩
  else .error .malformedLayout

def standard : Layout :=
  let slot word : Piece := .slot { word }
  let bar : List Piece := [.char ' ', .char '|', .char ' ']
  ⟨some ([slot "levelname"] ++ bar ++ [slot "correlation_id"] ++ bar ++ [slot "name"] ++ bar ++
    [slot "message"])⟩

def pieceText (correlation : Value) (r : Record) : Piece → Option (List Char)
  | .char c => some [c]
  | .slot slot => (r.part? correlation slot.word).bind slot.fill

def line (layout : Layout) (correlation : Value) (r : Record) : Option String := do
  let pieces ← layout.pieces
  let texts ← pieces.mapM (pieceText correlation r)
  return String.ofList texts.flatten

end Layout

end Sqlwright.Log
