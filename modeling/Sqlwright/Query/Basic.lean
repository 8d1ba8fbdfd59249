import Sqlwright.Dialect.Pagination
import Sqlwright.Query.Condition

/-!
What a query has collected for one statement. Names are held as quoted text; values are held with
the clause they belong to, so that text and parameters cannot fall out of step.
-/

namespace Sqlwright

open Text

/-- One join. Both sides of its condition and the joined table are quoted. -/
structure Join where
  kind : JoinKind
  table : String
  left : String
  operator : Comparison
  right : String

def Join.sql (j : Join) : String :=
  j.kind.sql ++ " JOIN " ++ j.table ++ " ON " ++ j.left ++ " " ++ j.operator.sql ++ " " ++ j.right

structure Having where
  column : String
  operator : Comparison
  value : Value

def Having.sql (h : Having) : String := h.column ++ " " ++ h.operator.sql ++ " ?"

structure Ordering where
  column : String
  direction : Direction

def Ordering.sql (o : Ordering) : String := o.column ++ " " ++ o.direction.sql

/-- Everything collected for one statement. `name` is the bare name of the table and `table` its
quoted text, with the alias if there is one. -/
structure Query where
  name : Option String := none
  table : Option String := none
  columns : List String := ["*"]
  distinct : Bool := false
  joins : List Join := []
  conditions : Level := []
  groups : List String := []
  havings : List Having := []
  orders : List Ordering := []
  limit : Option Int := none
  page : Option Int := none
  softDelete : Bool := false

namespace Query

/-- The texts of the conditions, each with its connector in front. -/
def whereTexts (q : Query) : List String := Condition.texts true q.conditions

def whereParams (q : Query) : List Value := Condition.levelParams q.conditions

def havingParams (q : Query) : List Value := q.havings.map (·.value)

/-- The parameters in the order of their marks. -/
def params (q : Query) : List Value := q.whereParams ++ q.havingParams

/-- The rows before the page, once a page and a limit are set. -/
def offset (q : Query) : Option Int :=
  match q.page, q.limit with
  | some page, some limit => some (Pagination.offset limit page)
  | _, _ => none

def isFiltered (q : Query) : Bool := !q.conditions.isEmpty

def isOrdered (q : Query) : Bool := !q.orders.isEmpty

def addCondition (q : Query) (connector : Connector) (condition : Condition) : Query :=
  { q with conditions := q.conditions ++ [(connector, condition)] }

def requireTable (q : Query) : Except Error String :=
  match q.table with
  | some table => if table.isEmpty then .error .missingTable else .ok table
  | none => .error .missingTable

def joinsSql (q : Query) : String := join "" (q.joins.map fun j => " " ++ j.sql)

def whereSql (q : Query) : String :=
  if q.conditions.isEmpty then "" else " WHERE " ++ join " " q.whereTexts

def groupingSql (q : Query) : String :=
  (if q.groups.isEmpty then "" else " GROUP BY " ++ join ", " q.groups) ++
    (if q.havings.isEmpty then "" else " HAVING " ++ join " AND " (q.havings.map Having.sql))

def orderSql (q : Query) : String :=
  if q.orders.isEmpty then "" else " ORDER BY " ++ join ", " (q.orders.map Ordering.sql)

end Query

end Sqlwright
