import Sqlwright.Dialect.Quoting
import Sqlwright.Schema.Blueprint

/-!
The text of a column and of a foreign key for one database. A column reads: name, type, UNSIGNED,
default, NULL or NOT NULL, the word that makes it count, PRIMARY KEY, comment, checks. Where a
database has no enumerations or sets of its own, the type is a text and a check keeps the values:
inside the column's type for some databases, as a constraint behind the columns for others.
-/

namespace Sqlwright

open Number Text

/-- The name of a constraint or an index on a table. -/
def constraintName (kind table columns : String) : String :=
  kind ++ "_" ++ String.ofList (table.toList.map fun c => if c = '.' then '_' else c) ++ "_" ++
    columns

namespace Definition

def patternSigns : List Char :=
  ['(', ')', '[', ']', '\x7b', '\x7d', '?', '*', '+', '-', '|', '^', '$', '\\', '.', '&', '~', '#',
    ' ', '\t', '\n', '\r', '\x0b', '\x0c']

def escapePattern (text : List Char) : List Char :=
  text.flatMap fun c => if patternSigns.contains c then ['\\', c] else [c]

def valueList (d : Dialect) (c : Column) : String := join "," (c.values.map d.quoteString)

def namedCheck (d : Dialect) (table : String) (c : Column) (expression : String) :
    Except Error String := do
  let name ← d.quoteIdentifier (constraintName "chk" table c.name)
  return "CONSTRAINT " ++ name ++ " CHECK (" ++ expression ++ ")"

def enumExpression (d : Dialect) (c : Column) : Except Error String := do
  let name ← d.quoteIdentifier c.name
  return name ++ " IN (" ++ valueList d c ++ ")"

def setExpression (d : Dialect) (c : Column) : Except Error String := do
  let name ← d.quoteIdentifier c.name
  let each (text : String → String) : String := join " OR " (c.values.map text)
  match d.setStyle with
  | .array => return name ++ " <@ ARRAY[" ++ valueList d c ++ "]"
  | .orEquals => return each fun v => name ++ " = " ++ d.quoteString v
  | .like => return each fun v => name ++ " LIKE " ++ d.quoteString ("%" ++ v ++ "%")
  | .regexp =>
    let alternatives := join "|" (c.values.map fun v => String.ofList (escapePattern v.toList))
    return "REGEXP_LIKE(" ++ name ++ ", " ++ d.quoteString ("(" ++ alternatives ++ ")") ++ ")"
  | .containing => return each fun v => name ++ " CONTAINING " ++ d.quoteString v
  | .native => throw (.unknownSetStyle "SetStyle.NATIVE")
  | .other style => throw (.unknownSetStyle style)

def enumType (d : Dialect) (table : String) (c : Column) : Except Error String :=
  let base := (d.types .enum).render c.size
  match d.enumStyle with
  | .native => .ok ("ENUM(" ++ valueList d c ++ ")")
  | .inlineCheck => do return base ++ " " ++ (← namedCheck d table c (← enumExpression d c))
  | _ => .ok base

def setType (d : Dialect) (table : String) (c : Column) : Except Error String :=
  let base := (d.types .set).render c.size
  match d.setStyle with
  | .native => .ok ("SET(" ++ valueList d c ++ ")")
  | .array | .orEquals => do return base ++ " " ++ (← namedCheck d table c (← setExpression d c))
  | _ => .ok base

/-- The type of a column. A column that counts by itself may have a type of its own. -/
def columnType (d : Dialect) (table : String) (c : Column) : Except Error String :=
  match c.type with
  | none => .error (.missingColumnType table c.name)
  | some .enum => enumType d table c
  | some .set => setType d table c
  | some type =>
    match if c.auto then (d.serialTypes type).filter (!·.isEmpty) else none with
    | some serial => .ok serial
    | none => .ok ((d.types type).render c.size)

/-- The check that keeps the values of an enumeration or a set, for databases that write it behind
the columns. -/
def emulatedCheck (d : Dialect) (table : String) (c : Column) : Except Error (Option String) :=
  match c.type with
  | some .enum =>
    if d.enumStyle = .namedConstraint then do
      return some (← namedCheck d table c (← enumExpression d c))
    else .ok none
  | some .set =>
    match d.setStyle with
    | .like | .regexp | .containing => do
      return some (← namedCheck d table c (← setExpression d c))
    | _ => .ok none
  | _ => .ok none

def plainLiteral (d : Dialect) (c : Column) : Value → Except Error String
  | .bool b => .ok (d.booleanLiteral b)
  | .int n => .ok (intText n)
  | .float x => .ok x.text
  | .decimal n => .ok n.text
  | .text s => .ok (d.quoteString s)
  | v => .error (.unsupportedDefault v c.name)

def isDeclared (c : Column) : Value → Bool
  | .text s => c.values.contains s
  | _ => false

/-- The literal for a default that is no expression. It has to fit the type of the column. -/
def fittingLiteral (d : Dialect) (c : Column) (v : Value) : Except Error String :=
  match c.type, d.setStyle with
  | some .boolean, _ =>
    match v with
    | .bool b => .ok (d.booleanLiteral b)
    | _ => .error (.booleanDefault c.name v)
  | some .set, .array =>
    match v with
    | .text s => .ok ("ARRAY[" ++ join "," ((splitOn ',' s).map d.quoteString) ++ "]")
    | _ => .error (.setDefaultNotText c.name)
  | some .enum, _ =>
    if isDeclared c v then plainLiteral d c v
    else .error (.defaultOutsideValues v c.values c.name)
  | _, _ => plainLiteral d c v

def defaultLiteral (d : Dialect) (c : Column) : Except Error (Option String) :=
  match c.effectiveDefault with
  | none => .ok none
  | some (.raw expression) => .ok (some expression)
  | some v => (fittingLiteral d c v).map some

/-- The checks of a column: that it is not negative, where the database cannot say so in the type,
and the one that was declared. -/
def columnChecks (d : Dialect) (c : Column) (name : String) : List String :=
  (if c.unsigned && !d.can .unsigned then [name ++ " >= 0"] else []) ++
    (match c.check with
    | some expression => if expression.isEmpty then [] else [expression]
    | none => [])

def Column.commentText (c : Column) : Option String := c.comment.filter (!·.isEmpty)

/-- The words behind the type, given the default's literal. -/
def columnWords (d : Dialect) (b : Blueprint) (c : Column) (default : Option String) :
    List String :=
  let nullable := c.nullable b.composite
  (if c.unsigned && d.can .unsigned then ["UNSIGNED"] else []) ++
    (match default with
    | some literal => ["DEFAULT " ++ literal]
    | none => []) ++
    (if !nullable then ["NOT NULL"] else if d.can .explicitNull then ["NULL"] else []) ++
    (if c.auto && !d.autoIncrement.isEmpty then [d.autoIncrement] else []) ++
    (if c.isKey then ["PRIMARY KEY"] else []) ++
    (match Column.commentText c with
    | some text => if d.can .columnComments then ["COMMENT " ++ d.quoteString text] else []
    | none => [])

def column (d : Dialect) (b : Blueprint) (c : Column) : Except Error String := do
  let name ← d.quoteIdentifier c.name
  let type ← columnType d b.table c
  let default ← defaultLiteral d c
  return join " "
    ([name, type] ++ columnWords d b c default ++
      (columnChecks d c name).map fun expression => "CHECK (" ++ expression ++ ")")

def foreignKey (d : Dialect) (b : Blueprint) (k : ForeignKey) : Except Error String :=
  match k.table with
  | none => .error (.foreignKeyWithoutTable b.table k.columns)
  | some table => do
    let name ← d.quoteIdentifier
      (k.name.getD (constraintName "fk" b.table (join "_" k.columns)))
    let columns ← d.quoteList k.columns
    let table ← d.quoteIdentifier table
    let referenced ← d.quoteList k.referenced
    return "CONSTRAINT " ++ name ++ " FOREIGN KEY (" ++ columns ++ ") REFERENCES " ++ table ++
      " (" ++ referenced ++ ")" ++
      (match k.onDelete with
      | some action => " ON DELETE " ++ action.sql
      | none => "") ++
      (match k.onUpdate with
      | some action => " ON UPDATE " ++ action.sql
      | none => "")

end Definition

end Sqlwright
