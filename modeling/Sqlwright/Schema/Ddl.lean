import Sqlwright.Schema.Definition

/-!
The statements that create a table or add to one. A definition is locked once its statements are
there; while they are refused it stays as it was.
-/

namespace Sqlwright

open Text

namespace Ddl

/-- The part of a table name behind its last dot. -/
def bareName (table : String) : String :=
  match cutAtLast '.' table.toList with
  | some (_, after) => String.ofList after
  | none => table

/-- Refuses a definition that is locked, that has nothing to write, or that has a column without a
type. Keys and indexes are enough when a table is added to. -/
def prepare (b : Blueprint) (columnsRequired : Bool) : Except Error Unit :=
  let hasKeys := !b.foreignKeys.isEmpty || !b.indexes.isEmpty || b.composite.isSome
  if b.locked then .error (.blueprintLocked b.table)
  else if b.columns.isEmpty && (columnsRequired || !hasKeys) then .error (.emptyTable b.table)
  else
    match b.columns.find? (·.type.isNone) with
    | some c => .error (.missingColumnType b.table c.name)
    | none => .ok ()

def emulatedChecks (d : Dialect) (b : Blueprint) : Except Error (List String) := do
  let checks ← b.columns.mapM (Definition.emulatedCheck d b.table)
  return checks.filterMap id

/-- The indexes of a table: those declared on columns, then those declared on the table. -/
def indexesOf (b : Blueprint) : List Index :=
  b.columns.filterMap (fun c =>
    if c.isKey then none
    else if c.unique then some { columns := [c.name], unique := true }
    else if c.indexed then some { columns := [c.name] }
    else none) ++ b.indexes

def indexName (table : String) (i : Index) : String :=
  i.name.getD (constraintName (if i.unique then "uq" else "idx") table (join "_" i.columns))

def indexStatement (d : Dialect) (table : String) (i : Index) : Except Error String := do
  let name ← d.quoteIdentifier (indexName table i)
  let quoted ← d.quoteIdentifier table
  let columns ← d.quoteList i.columns
  return "CREATE " ++ (if i.unique then "UNIQUE INDEX " else "INDEX ") ++
    (if d.can .indexIfNotExists then "IF NOT EXISTS " else "") ++ name ++ " ON " ++ quoted ++
    " (" ++ columns ++ ");"

def createHead (d : Dialect) (table quoted : String) : String :=
  match d.createGuard with
  | .ifNotExists => "CREATE TABLE IF NOT EXISTS " ++ quoted
  | .sysobjects =>
    "IF NOT EXISTS (SELECT * FROM sysobjects WHERE name = " ++ d.quoteString (bareName table) ++
      " AND xtype = 'U') CREATE TABLE " ++ quoted
  | _ => "CREATE TABLE " ++ quoted

def option (word : String) (value : Option String) : List String :=
  match value with
  | some s => if s.isEmpty then [] else [word ++ "=" ++ s]
  | none => []

def tableOptions (d : Dialect) (o : TableOptions) : String :=
  if o.isEmpty || !d.can .tableOptions then ""
  else
    " " ++ join " "
      (option "ENGINE" o.engine ++ option "DEFAULT CHARSET" o.charset ++
        option "COLLATE" o.collation)

def compositeList (d : Dialect) (b : Blueprint) : Except Error (Option String) :=
  match b.composite with
  | some names => (d.quoteList names).map some
  | none => .ok none

def create (d : Dialect) (b : Blueprint) : Except Error (List String) := do
  prepare b true
  let table ← d.quoteIdentifier b.table
  let columns ← b.columns.mapM (Definition.column d b)
  let key ← compositeList d b
  let checks ← emulatedChecks d b
  let foreignKeys ← b.foreignKeys.mapM (Definition.foreignKey d b)
  let indexes ← (indexesOf b).mapM (indexStatement d b.table)
  let keys := (key.map fun names => "PRIMARY KEY (" ++ names ++ ")").toList
  let definitions := columns ++ keys ++ checks ++ foreignKeys
  let statement := createHead d b.table table ++ " (" ++ join ", " definitions ++ ")" ++
    tableOptions d b.options ++ ";"
  return statement :: indexes

def keyConstraint (d : Dialect) (b : Blueprint) : Except Error (List String) := do
  match ← compositeList d b with
  | some names =>
    let name ← d.quoteIdentifier (constraintName "pk" b.table "key")
    return ["CONSTRAINT " ++ name ++ " PRIMARY KEY (" ++ names ++ ")"]
  | none => return []

def add (d : Dialect) (b : Blueprint) : Except Error (List String) := do
  prepare b false
  let table ← d.quoteIdentifier b.table
  let columns ← b.columns.mapM (Definition.column d b)
  let key ← keyConstraint d b
  let checks ← emulatedChecks d b
  let foreignKeys ← b.foreignKeys.mapM (Definition.foreignKey d b)
  let constraints := key ++ checks ++ foreignKeys
  if !constraints.isEmpty && !d.can .alterConstraints then
    .error (.constraintsOnExistingTable d.name b.table)
  else do
    let indexes ← (indexesOf b).mapM (indexStatement d b.table)
    let alter := "ALTER TABLE " ++ table ++ " "
    return columns.map (fun text => alter ++ d.addColumn ++ " " ++ text ++ ";") ++
      constraints.map (fun text => alter ++ "ADD " ++ text ++ ";") ++ indexes

end Ddl

namespace Blueprint

/-- Locks the definition if its statements are there. -/
def lockOn (b : Blueprint) (statements : Except Error (List String)) :
    Except Error (List String) × Blueprint :=
  match (do let texts ← statements; return (texts, ← b.lock)) with
  | .ok (texts, locked) => (.ok texts, locked)
  | .error e => (.error e, b)

def compileCreate (d : Dialect) (b : Blueprint) : Except Error (List String) × Blueprint :=
  b.lockOn (Ddl.create d b)

def compileAdd (d : Dialect) (b : Blueprint) : Except Error (List String) × Blueprint :=
  b.lockOn (Ddl.add d b)

end Blueprint

/-- A step in the life of a definition: a call, or a request for its statements. -/
inductive BlueprintStep
  | call (call : BlueprintCall)
  | create (d : Dialect)
  | add (d : Dialect)

namespace Blueprint

/-- What a step answers, which is no statement for a call, and what it leaves. -/
def act (b : Blueprint) : BlueprintStep → Except Error (List String) × Blueprint
  | .call call => let (result, next) := b.apply call; (result.map fun () => [], next)
  | .create d => b.compileCreate d
  | .add d => b.compileAdd d

def run (b : Blueprint) (steps : List BlueprintStep) : Blueprint :=
  steps.foldl (fun b step => (b.act step).2) b

end Blueprint

end Sqlwright
