import Sqlwright.Query.Basic
import Sqlwright.Query.Reference
import Sqlwright.Settings

/-!
The steps that build a query, as data, and what each does to it. A step checks all that it was given
before it changes anything; a refused step leaves the query as it was. Three steps go on in parts:
naming a table first starts afresh, and steps over several columns keep what came before the one that
was refused.
-/

namespace Sqlwright

open Text

/-- What a column is compared with: a value it should equal, or an operator and a value. -/
inductive Comparand
  | equalTo (value : Value)
  | by (operator value : Value)

def Comparand.operator : Comparand → Value
  | .equalTo _ => .text "="
  | .by operator _ => operator

def Comparand.value : Comparand → Value
  | .equalTo value => value
  | .by _ value => value

/-- One step in building a query. Operators, kinds, directions and connectors are what the caller
gave for them. -/
inductive Clause
  | reset
  | table (name : String)
  | select (columns : List String)
  | distinct
  | join (table left : String) (operator : Value) (right : String) (kind : Value)
  | compare (column : String) (comparand : Comparand) (connector : Value)
  | compareAll (entries : Row) (connector : Value)
  | compareNot (column : String) (comparand : Comparand) (connector : Value)
  | membership (column : String) (values : List Value) (negated : Bool) (connector : Value)
  | nullness (column : String) (negated : Bool) (connector : Value)
  | between (column : String) (low high : Value) (connector : Value)
  | trashed (only : Bool)
  | groupBy (columns : List String)
  | having (column : String) (comparand : Comparand)
  | order (column : String) (direction : Value)
  | limit (given : Value)
  | page (given : Value)
  | softDelete

/-- What a query is built with: the database it is for, the shared settings, and the time of day that
marks deleted rows. -/
structure Builder where
  dialect : Dialect
  settings : Settings := {}
  now : String := ""

def Builder.inspect (b : Builder) (q : Query) : String :=
  "QueryBuilder(" ++ quoted b.dialect.name ++ ", table=" ++
    ((q.name.map Value.text).getD .null).inspect ++ ")"

/-- A step's outcome: success or an error, and the query afterwards. -/
abbrev Outcome := Except Error Unit × Query

namespace Clause

/-- The outcome of a step that changes the query only as a whole. -/
def attempt (q : Query) : Except Error Query → Outcome
  | .ok next => (.ok (), next)
  | .error e => (.error e, q)

/-- Adds one after another up to the first that is refused. -/
def addEach {α : Type} (add : Query → α → Except Error Query) : Query → List α → Outcome
  | q, [] => (.ok (), q)
  | q, a :: rest =>
    match add q a with
    | .ok next => addEach add next rest
    | .error e => (.error e, q)

/-- The columns in a list of texts, each of which may hold several separated by commas. -/
def selectedTexts (columns : List String) : List String :=
  (columns.flatMap (splitOn ',')).filter fun part => !(strip part).isEmpty

def setTable (d : Dialect) (q : Query) (text : String) : Except Error Query := do
  let term := TableTerm.read text
  let table ← term.render d
  return { q with name := some term.name, table := some table }

/-- The query that selects columns; without any it selects all. -/
def setColumns (d : Dialect) (q : Query) (columns : List String) : Except Error Query := do
  let columns ← (selectedTexts columns).mapM d.column
  return { q with columns := if columns.isEmpty then ["*"] else columns }

def addJoin (d : Dialect) (q : Query) (table left : String) (operator : Value) (right : String)
    (kind : Value) : Except Error Query := do
  let kind ← JoinKind.ofValue kind
  let operator ← Comparison.ofValue operator
  let table ← (TableTerm.read table).render d
  let left ← d.column left
  let right ← d.column right
  return { q with joins := q.joins ++ [⟨kind, table, left, operator, right⟩] }

/-- The condition that compares a column. Nothing but equality and its negation goes with the absent
value. -/
def comparison (d : Dialect) (column : String) (comparand : Comparand) : Except Error Atom := do
  let operator ← Comparison.ofValue comparand.operator
  if comparand.value.isNull then
    match operator with
    | .equal => return .nullness (← d.column column) false
    | .unequal | .differs => return .nullness (← d.column column) true
    | _ => throw (.nullComparison operator.sql)
  else return .comparison (← d.column column) operator comparand.value

/-- The condition that denies a comparison. It does not go with the absent value. -/
def negation (d : Dialect) (column : String) (comparand : Comparand) : Except Error Atom := do
  let operator ← Comparison.ofValue comparand.operator
  if comparand.value.isNull then throw .nullNegation
  else return .negation (← d.column column) operator comparand.value

def membershipAtom (d : Dialect) (column : String) (values : List Value) (negated : Bool) :
    Except Error Atom :=
  if values.isEmpty then .error (.emptyMembership column)
  else do return .membership (← d.column column) negated values

/-- The query with a condition that is made only once the connector is known to be one. -/
def addAtom (q : Query) (connector : Value) (atom : Except Error Atom) : Except Error Query := do
  let connector ← Connector.ofValue connector
  return q.addCondition connector (.atom (← atom))

def addEquality (d : Dialect) (connector : Connector) (q : Query) (entry : Key × Value) :
    Except Error Query := do
  let atom ← comparison d entry.1.plain (.equalTo entry.2)
  return q.addCondition connector (.atom atom)

def addGroup (d : Dialect) (q : Query) (column : String) : Except Error Query := do
  return { q with groups := q.groups ++ [← d.column column] }

def addHaving (d : Dialect) (q : Query) (column : String) (comparand : Comparand) :
    Except Error Query := do
  let operator ← Comparison.ofValue comparand.operator
  let column ← d.column column
  return { q with havings := q.havings ++ [⟨column, operator, comparand.value⟩] }

def addOrder (d : Dialect) (q : Query) (column : String) (direction : Value) :
    Except Error Query := do
  let direction ← Direction.ofValue direction
  return { q with orders := q.orders ++ [⟨← d.column column, direction⟩] }

/-- The query with a limit, which is a whole number from zero on. -/
def setLimit (q : Query) : Value → Except Error Query
  | .int n => if n < 0 then .error (.invalidLimit (.int n)) else .ok { q with limit := some n }
  | given => .error (.invalidLimit given)

/-- The query with a page, which is a whole number from one on and needs a limit. -/
def setPage (q : Query) (given : Value) : Except Error Query :=
  if q.limit.isNone then .error .pageWithoutLimit
  else
    match given with
    | .int n => if n < 1 then .error (.invalidPage given) else .ok { q with page := some n }
    | _ => .error (.invalidPage given)

def apply (b : Builder) (q : Query) : Clause → Outcome
  | .reset => (.ok (), {})
  | .table name => attempt {} (setTable b.dialect {} name)
  | .select columns => attempt q (setColumns b.dialect q columns)
  | .distinct => (.ok (), { q with distinct := true })
  | .join target left operator right kind =>
    attempt q (addJoin b.dialect q target left operator right kind)
  | .compare column comparand connector =>
    attempt q (addAtom q connector (comparison b.dialect column comparand))
  | .compareAll entries connector =>
    match Connector.ofValue connector with
    | .ok connector => addEach (addEquality b.dialect connector) q entries
    | .error e => (.error e, q)
  | .compareNot column comparand connector =>
    attempt q (addAtom q connector (negation b.dialect column comparand))
  | .membership column values negated connector =>
    attempt q (addAtom q connector (membershipAtom b.dialect column values negated))
  | .nullness column negated connector =>
    attempt q (addAtom q connector ((b.dialect.column column).map (.nullness · negated)))
  | .between column low high connector =>
    attempt q (addAtom q connector ((b.dialect.column column).map (.range · low high)))
  | .trashed only =>
    attempt q (addAtom q (.text "AND")
      ((b.dialect.column b.settings.deletedAtColumn).map (.nullness · only)))
  | .groupBy columns => addEach (addGroup b.dialect) q columns
  | .having column comparand => attempt q (addHaving b.dialect q column comparand)
  | .order column direction => attempt q (addOrder b.dialect q column direction)
  | .limit given => attempt q (setLimit q given)
  | .page given => attempt q (setPage q given)
  | .softDelete => (.ok (), { q with softDelete := true })

end Clause

end Sqlwright
