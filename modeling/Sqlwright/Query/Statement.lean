import Sqlwright.Dialect.Basic
import Sqlwright.Error
import Sqlwright.Text.Utf8

/-!
Compiled statements: SQL text with a question mark for each parameter, and the parameters in the
order of their marks. A statement can be shown with its values written in, for the eye only, and its
marks can be rewritten for a driver.
-/

namespace Sqlwright

open Number Text

/-- SQL with its parameters. -/
structure Statement where
  sql : String
  params : List Value := []

def shownChar (c : Char) : List Char :=
  if c = '\\' then ['\\', '\\']
  else if c = '\'' then ['\\', '\'']
  else if c = '"' then ['\\', '"']
  else if c = '\x00' then ['\\', '0']
  else [c]

def shownText (text : List Char) : String :=
  String.ofList ('\'' :: text.flatMap shownChar ++ ['\''])

/-- A value as it is shown inside a statement. Octets are read as UTF-8. -/
def Value.shown : Value → String
  | .null => "NULL"
  | .bool b => if b then "1" else "0"
  | .int n => intText n
  | .float x => x.text
  | .decimal d => d.text
  | .octets bytes => shownText (Utf8.decodeReplacing bytes)
  | v => shownText v.plain.toList

namespace Statement

/-- The mark of a parameter. -/
def mark : Char := '?'

/-- Puts the shown values in the places of the marks from left to right. Marks beyond the last value
stay. -/
def interpolateFrom : List Char → List Value → List Char
  | [], _ => []
  | c :: rest, [] => c :: interpolateFrom rest []
  | c :: rest, v :: values =>
    if c = mark then v.shown.toList ++ interpolateFrom rest values
    else c :: interpolateFrom rest (v :: values)

/-- A text with shown values in the places of its marks. -/
def interpolate (sql : String) (values : List Value) : String :=
  String.ofList (interpolateFrom sql.toList values)

/-- The statement with its values written in. -/
def debug (s : Statement) : String := interpolate s.sql s.params

def markCount (s : Statement) : Nat := s.sql.toList.count mark

/-- One character in the style where a mark is a letter behind a percent sign. -/
def formatChar (c : Char) : List Char :=
  if c = '%' then ['%', '%'] else if c = mark then ['%', 's'] else [c]

/-- Numbers the marks from `next` on, behind a sign. -/
def numberMarks (sign : Char) (next : Nat) : List Char → List Char
  | [] => []
  | c :: rest =>
    if c = mark then sign :: decimalDigits next ++ numberMarks sign (next + 1) rest
    else c :: numberMarks sign next rest

def render (s : Statement) : ParameterStyle → Except Error String
  | .qmark => .ok s.sql
  | .format => .ok (String.ofList (s.sql.toList.flatMap formatChar))
  | .numeric => .ok (String.ofList (numberMarks ':' 1 s.sql.toList))
  | .dollar => .ok (String.ofList (numberMarks '$' 1 s.sql.toList))
  | .other name => .error (.unknownParameterStyle name)

/-- The text with its marks in the style of a database's usual driver. -/
def forDialect (s : Statement) (d : Dialect) : Except Error String := s.render d.parameterStyle

end Statement

end Sqlwright
