import Sqlwright.Dialect.Quoting
import Sqlwright.Query.Basic
import Sqlwright.Query.Statement

/-!
INSERT of many rows in few statements. All rows have the columns of the first, in its order. How
many rows go into one statement follows from the caller's bound, from the number of parameters that
the database takes, and from its own bound on rows.
-/

namespace Sqlwright

open Text

namespace Insert

def cell (row : Row) (column : Key) : Value := (row.lookup column).getD .null

def columnsOf (row : Row) : List Key := row.map (·.1)

def hasColumns (columns : List Key) (row : Row) : Bool :=
  (columnsOf row).all (columns.contains ·) && columns.all ((columnsOf row).contains ·)

/-- Consecutive runs of at most `size` members. A size of zero counts as one. -/
def runs {α : Type} (size : Nat) : List α → List (List α)
  | [] => []
  | a :: rest => (a :: rest.take (size - 1)) :: runs size (rest.drop (size - 1))
termination_by items => items.length
decreasing_by simp only [List.length_drop, List.length_cons]; omega

/-- The records of an INSERT, each a row or, where something else was given, nothing. -/
abbrev Records := List (Option Row)

def firstRow : Records → Except Error Row
  | [] => .error .emptyInsert
  | none :: _ => .error (.inconsistentColumns 0 [] [])
  | some row :: _ => if row.isEmpty then .error .emptyInsert else .ok row

/-- The records as rows that all have the given columns. The index counts from `index`. -/
def alike (columns : List Key) (index : Nat) : Records → Except Error (List Row)
  | [] => .ok []
  | none :: _ => .error (.inconsistentColumns index columns [])
  | some row :: rest =>
    if hasColumns columns row then do return row :: (← alike columns (index + 1) rest)
    else .error (.inconsistentColumns index columns (columnsOf row))

/-- How many rows go into one statement. -/
def rowsPerStatement (d : Dialect) (columns : Nat) (chunkSize : Int) : Int :=
  let byParameters := max 1 (min chunkSize (d.maxParameters / columns))
  let byRows :=
    match d.maxInsertRows with
    | some most => if most = 0 then byParameters else min byParameters most
    | none => byParameters
  if d.insertStyle = .single then 1 else byRows

def rowMarks (columns : Nat) : String := "(" ++ join ", " (List.replicate columns "?") ++ ")"

/-- The text for a number of rows. Several rows may need the form that names the table for each. -/
def sql (d : Dialect) (target : String) (columns rows : Nat) : String :=
  if 1 < rows && d.insertStyle = .insertAll then
    "INSERT ALL " ++
      join " " (List.replicate rows ("INTO " ++ target ++ " VALUES " ++ rowMarks columns)) ++
      " SELECT 1 FROM DUAL"
  else "INSERT INTO " ++ target ++ " VALUES " ++ join ", " (List.replicate rows (rowMarks columns))

def statement (d : Dialect) (target : String) (columns : List Key) (rows : List Row) :
    Statement where
  sql := sql d target columns.length rows.length
  params := rows.flatMap fun row => columns.map (cell row)

end Insert

/-- The statements that insert records. Every record is looked at before there is a statement. -/
def Query.compileInsert (d : Dialect) (q : Query) (records : Insert.Records) (chunkSize : Int) :
    Except Error (List Statement) := do
  let table ← q.requireTable
  let columns := Insert.columnsOf (← Insert.firstRow records)
  let rows ← Insert.alike columns 0 records
  let target := table ++ " (" ++ join ", " (← columns.mapM d.quoteKey) ++ ")"
  let size := Insert.rowsPerStatement d columns.length chunkSize
  if size < 1 then return []
  return (Insert.runs size.toNat rows).map (Insert.statement d target columns)

end Sqlwright
