import Sqlwright.Keyed
import Sqlwright.Schema.Column
import Sqlwright.Schema.ForeignKey

/-!
The definition of one table: columns, keys, indexes and options. A definition is written until it is
locked, and from then on every call on it is refused. There is one primary key at most: one column,
or a list of columns. Main definition: `Blueprint.apply`, what one call does.
-/

namespace Sqlwright

open Text

structure Index where
  columns : List String
  unique : Bool := false
  name : Option String := none

structure TableOptions where
  engine : Option String := none
  charset : Option String := none
  collation : Option String := none

def TableOptions.isEmpty (o : TableOptions) : Bool :=
  (o.engine.getD "").isEmpty && (o.charset.getD "").isEmpty && (o.collation.getD "").isEmpty

/-- The definition of a table. Columns are listed in the order of their declaration, and found by
name through their places in that list. The owner of the primary key is a column, or the list of the
columns in parentheses. -/
structure Blueprint where
  table : String
  deletedAtColumn : String := "deleted_at"
  columns : List Column := []
  places : Keyed Nat := []
  indexes : List Index := []
  foreignKeys : List ForeignKey := []
  options : TableOptions := {}
  composite : Option (List String) := none
  locked : Bool := false
  owner : Option String := none

/-- One call on a definition, on one of its columns or on one of its foreign keys. -/
inductive BlueprintCall
  | column (name : Value)
  | onColumn (name : String) (call : ColumnCall)
  | onForeignKey (place : Nat) (call : ForeignKeyCall)
  | id (name : Value)
  | increments (name : Value)
  | uid (name : Value)
  | timestamps
  | softDeletes (name : Value)
  | primary (columns : List Value)
  | index (columns : List Value) (unique : Bool) (name : Option String)
  | foreign (columns : List Value)
  | engine (value : Value)
  | charset (value : Value)
  | collation (value : Value)
  | lock

namespace Blueprint

def start (table : Value) (deletedAtColumn : String) : Except Error Blueprint := do
  return { table := ← readTable table, deletedAtColumn }

def inspect (b : Blueprint) : String :=
  "Blueprint(" ++ quoted b.table ++ ", columns=" ++ Number.intText b.columns.length ++ ", locked=" ++
    (Value.bool b.locked).inspect ++ ")"

def column? (b : Blueprint) (name : String) : Option Column :=
  (b.places.find? name).bind (b.columns[·]?)

def hasColumn (b : Blueprint) : Value → Bool
  | .text name => b.places.has name
  | _ => false

def getColumn (b : Blueprint) (given : Value) : Except Error Column :=
  match given with
  | .text name =>
    match b.column? name with
    | some c => .ok c
    | none => .error (.unknownColumn given b.table)
  | _ => .error (.unknownColumn given b.table)

def setColumn (b : Blueprint) (name : String) (c : Column) : Blueprint :=
  match b.places.find? name with
  | some place => { b with columns := b.columns.set place c }
  | none => b

def requireOpen (b : Blueprint) : Except Error Unit :=
  if b.locked then .error (.blueprintLocked b.table) else .ok ()

/-- Refuses a claim on the primary key while another holds it. -/
def claim (b : Blueprint) (claimant : String) : Except Error Unit :=
  match b.owner with
  | some owner =>
    if owner = claimant then .ok () else .error (.duplicatePrimaryKey b.table owner claimant)
  | none => .ok ()

def newName (b : Blueprint) (given : Value) : Except Error String := do
  b.requireOpen
  match given with
  | .text name =>
    if b.hasColumn given then .error (.columnAlreadyDefined name b.table)
    else readName name
  | v => .error (.invalidIdentifier v.inspect)

def addColumn (b : Blueprint) (c : Column) : Blueprint :=
  { b with columns := b.columns ++ [c], places := b.places.put c.name b.columns.length }

/-- The column that a declaration is for. A claim on the primary key is looked at before anything is
declared. -/
def receiver (b : Blueprint) (name : String) (call : ColumnCall) : Except Error Column := do
  b.requireOpen
  let c ← b.getColumn (.text name)
  (if call.claims then b.claim c.name else .ok ()).map fun () => c

/-- A declaration on a column. A claim makes the column the owner of the primary key. -/
def declare (b : Blueprint) (name : String) (call : ColumnCall) : Except Error Unit × Blueprint :=
  match b.receiver name call with
  | .ok c =>
    let (result, changed) := c.apply call
    (result, { b.setColumn name changed with owner := if call.claims then some c.name else b.owner })
  | .error e => (.error e, b)

/-- Declarations on a column one after another, up to the first that is refused. -/
def declareAll (b : Blueprint) (name : String) : List ColumnCall → Except Error Unit × Blueprint
  | [] => (.ok (), b)
  | call :: rest =>
    match b.declare name call with
    | (.ok (), next) => next.declareAll name rest
    | refused => refused

def addDeclared (b : Blueprint) (given : Value) (calls : List ColumnCall) :
    Except Error Unit × Blueprint :=
  match b.newName given with
  | .ok name => (b.addColumn { name }).declareAll name calls
  | .error e => (.error e, b)

def readOption (b : Blueprint) (given : Value) : Except Error String := do
  b.requireOpen
  match given with
  | .text s =>
    if Identifier.isOption s.toList then .ok s else .error (.invalidIdentifier (quoted s))
  | v => .error (.invalidIdentifier v.inspect)

/-- The outcome of a call that changes the definition only as a whole. -/
def attempt (b : Blueprint) : Except Error Blueprint → Except Error Unit × Blueprint
  | .ok next => (.ok (), next)
  | .error e => (.error e, b)

def setPrimary (b : Blueprint) (given : List Value) : Except Error Blueprint := do
  b.requireOpen
  let names ← readNames given
  let owner := "(" ++ join ", " names ++ ")"
  b.claim owner
  return { b with owner := some owner, composite := some names }

def addIndex (b : Blueprint) (given : List Value) (unique : Bool) (name : Option String) :
    Except Error Blueprint := do
  b.requireOpen
  let name ← name.mapM readName
  let columns ← readNames given
  return { b with indexes := b.indexes ++ [{ columns, unique, name }] }

def addForeignKey (b : Blueprint) (given : List Value) : Except Error Blueprint := do
  b.requireOpen
  let columns ← readNames given
  return { b with foreignKeys := b.foreignKeys ++ [{ columns }] }

def declareForeignKey (b : Blueprint) (place : Nat) (call : ForeignKeyCall) :
    Except Error Blueprint := do
  b.requireOpen
  match b.foreignKeys[place]? with
  | some k => do return { b with foreignKeys := b.foreignKeys.set place (← k.apply call) }
  | none => .ok b

/-- The definition after which nothing changes any more. -/
def lock (b : Blueprint) : Except Error Blueprint := do
  b.requireOpen
  return { b with locked := true }

/-- What a call does to a definition. Each looks at the lock before anything else. -/
def apply (b : Blueprint) : BlueprintCall → Except Error Unit × Blueprint
  | .column name => b.addDeclared name []
  | .onColumn name call => b.declare name call
  | .onForeignKey place call => b.attempt (b.declareForeignKey place call)
  | .id name => b.addDeclared name [.typed .bigint .null, .unsigned, .auto]
  | .increments name => b.addDeclared name [.typed .int .null, .unsigned, .auto]
  | .uid name => b.addDeclared name [.typed .char (.int 36), .unique]
  | .timestamps =>
    match b.addDeclared (.text "created_at") [.typed .timestamp .null, .null] with
    | (.ok (), next) => next.addDeclared (.text "updated_at") [.typed .timestamp .null, .null]
    | refused => refused
  | .softDeletes name =>
    let name := if name.isPresent then name else .text b.deletedAtColumn
    b.addDeclared name [.typed .timestamp .null, .null]
  | .primary columns => b.attempt (b.setPrimary columns)
  | .index columns unique name => b.attempt (b.addIndex columns unique name)
  | .foreign columns => b.attempt (b.addForeignKey columns)
  | .engine value =>
    b.attempt ((b.readOption value).map fun s => { b with options.engine := some s })
  | .charset value =>
    b.attempt ((b.readOption value).map fun s => { b with options.charset := some s })
  | .collation value =>
    b.attempt ((b.readOption value).map fun s => { b with options.collation := some s })
  | .lock => b.attempt b.lock

end Blueprint

end Sqlwright
