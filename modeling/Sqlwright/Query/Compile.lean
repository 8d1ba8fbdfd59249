import Sqlwright.Dialect.Quoting
import Sqlwright.Query.Basic
import Sqlwright.Query.Statement

/-!
The statements that a query compiles to, INSERT aside. Compiling reads the query and changes
nothing. UPDATE and DELETE are refused without a condition and beside a join.
-/

namespace Sqlwright

open Text

namespace Query

def selectSql (q : Query) (columns table : String) : String :=
  "SELECT " ++ (if q.distinct then "DISTINCT " else "") ++ columns ++ " FROM " ++ table ++
    q.joinsSql ++ q.whereSql ++ q.groupingSql

def compileSelect (d : Dialect) (q : Query) : Except Error Statement := do
  let table ← q.requireTable
  let sql := q.selectSql (join ", " q.columns) table ++ q.orderSql
  let sql ← Pagination.apply d sql q.limit q.offset q.isOrdered
  return ⟨sql, q.params⟩

def selectOne (d : Dialect) (q : Query) (expression name : String) : Except Error String := do
  let name ← d.quoteIdentifier name
  let table ← q.requireTable
  return "SELECT " ++ expression ++ " AS " ++ name ++ " FROM " ++ table ++ q.joinsSql ++
    q.whereSql ++ q.groupingSql

/-- What is counted: rows, or the values of a column that are present. -/
def countExpression (d : Dialect) (q : Query) (column : String) : Except Error String :=
  if column = "*" then .ok "COUNT(*)"
  else do
    let column ← d.quoteIdentifier column
    return "COUNT(" ++ (if q.distinct then "DISTINCT " else "") ++ column ++ ")"

def compileCount (d : Dialect) (q : Query) (column : String) : Except Error Statement := do
  let expression ← q.countExpression d column
  let sql ← q.selectOne d expression "aggregate"
  return ⟨sql, q.params⟩

def compileExists (d : Dialect) (q : Query) : Except Error Statement := do
  let sql ← q.selectOne d "1" "found"
  let sql ← Pagination.apply d sql (some 1) none false
  return ⟨sql, q.params⟩

/-- Refuses to change rows without a condition, and beside a join. The quoted table is returned. -/
def guardMutation (q : Query) (operation : String) : Except Error String := do
  let table ← q.requireTable
  if q.conditions.isEmpty then .error (.missingWhere operation)
  else if q.joins.isEmpty then .ok table
  else .error (.joinedMutation operation)

def assignment (d : Dialect) (column : Key) : Except Error String := do
  let column ← d.quoteKey column
  return column ++ " = ?"

def updateSql (q : Query) (table : String) (assignments : List String) : String :=
  "UPDATE " ++ table ++ " SET " ++ join ", " assignments ++ q.whereSql

def compileUpdate (d : Dialect) (q : Query) (values : Row) : Except Error Statement := do
  let table ← q.guardMutation "update"
  if values.isEmpty then .error .emptyUpdate
  else do
    let assignments ← values.mapM fun entry => assignment d entry.1
    return ⟨q.updateSql table assignments, values.map (·.2) ++ q.whereParams⟩

def stepName (operator : String) : String := if operator = "+" then "increment" else "decrement"

/-- The statement that changes a column by an amount and sets others beside it. -/
def compileStep (d : Dialect) (q : Query) (column : String) (amount : Value) (extra : Row)
    (operator : String) : Except Error Statement := do
  let table ← q.guardMutation (stepName operator)
  if amount.isNumber then do
    let column ← d.quoteIdentifier column
    let others ← extra.mapM fun entry => assignment d entry.1
    let assignments := (column ++ " = " ++ column ++ " " ++ operator ++ " ?") :: others
    return ⟨q.updateSql table assignments, amount :: extra.map (·.2) ++ q.whereParams⟩
  else .error (.amountNotNumeric (stepName operator) amount)

def compileDelete (q : Query) : Except Error Statement := do
  let table ← q.guardMutation "delete"
  return ⟨"DELETE FROM " ++ table ++ q.whereSql, q.whereParams⟩

end Query

end Sqlwright
