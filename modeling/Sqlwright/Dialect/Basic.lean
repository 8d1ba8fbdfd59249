import Sqlwright.Dialect.ColumnType
import Sqlwright.Value

/-!
What distinguishes one database's SQL from another's, as plain data. Statements are compiled by
reading these fields, never by asking for the database's name. A style that has no meaning here is
kept under its name, so that a use of it can be refused with that name.
-/

namespace Sqlwright

open Number Text

/-- How a SELECT is cut to a window of rows. -/
inductive PaginationStyle
  | limitOffset | top | offsetFetch | rowsRange
  | other (name : String)
  deriving DecidableEq, Repr

def PaginationStyle.name : PaginationStyle → String
  | .limitOffset => "limit_offset"
  | .top => "top"
  | .offsetFetch => "offset_fetch"
  | .rowsRange => "rows_range"
  | .other name => name

def PaginationStyle.ofName (word : String) : PaginationStyle :=
  match [PaginationStyle.limitOffset, .top, .offsetFetch, .rowsRange].find? (·.name = word) with
  | some style => style
  | none => .other word

/-- How membership in an enumeration is declared. -/
inductive EnumStyle
  | native | inlineCheck | namedConstraint
  | other (name : String)
  deriving DecidableEq, Repr

def EnumStyle.name : EnumStyle → String
  | .native => "native"
  | .inlineCheck => "inline_check"
  | .namedConstraint => "named_constraint"
  | .other name => name

def EnumStyle.ofName (word : String) : EnumStyle :=
  match [EnumStyle.native, .inlineCheck, .namedConstraint].find? (·.name = word) with
  | some style => style
  | none => .other word

/-- How membership of several values is declared. -/
inductive SetStyle
  | native | array | orEquals | like | regexp | containing
  | other (name : String)
  deriving DecidableEq, Repr

def SetStyle.name : SetStyle → String
  | .native => "native"
  | .array => "array"
  | .orEquals => "or_equals"
  | .like => "like"
  | .regexp => "regexp"
  | .containing => "containing"
  | .other name => name

def SetStyle.ofName (word : String) : SetStyle :=
  match [SetStyle.native, .array, .orEquals, .like, .regexp, .containing].find? (·.name = word) with
  | some style => style
  | none => .other word

/-- How an existing table is spared by CREATE TABLE. -/
inductive CreateGuard
  | ifNotExists | sysobjects | unguarded
  | other (name : String)
  deriving DecidableEq, Repr

def CreateGuard.name : CreateGuard → String
  | .ifNotExists => "if_not_exists"
  | .sysobjects => "sysobjects"
  | .unguarded => "none"
  | .other name => name

def CreateGuard.ofName (word : String) : CreateGuard :=
  match [CreateGuard.ifNotExists, .sysobjects, .unguarded].find? (·.name = word) with
  | some guard => guard
  | none => .other word

/-- How several rows go into one INSERT. -/
inductive InsertStyle
  | values | insertAll | single
  | other (name : String)
  deriving DecidableEq, Repr

def InsertStyle.name : InsertStyle → String
  | .values => "values"
  | .insertAll => "insert_all"
  | .single => "single"
  | .other name => name

def InsertStyle.ofName (word : String) : InsertStyle :=
  match [InsertStyle.values, .insertAll, .single].find? (·.name = word) with
  | some style => style
  | none => .other word

/-- How a driver marks the place of a parameter. -/
inductive ParameterStyle
  | qmark | format | numeric | dollar
  | other (name : String)
  deriving DecidableEq, Repr

def ParameterStyle.name : ParameterStyle → String
  | .qmark => "qmark"
  | .format => "format"
  | .numeric => "numeric"
  | .dollar => "dollar"
  | .other name => name

def ParameterStyle.ofName (word : String) : ParameterStyle :=
  match [ParameterStyle.qmark, .format, .numeric, .dollar].find? (·.name = word) with
  | some style => style
  | none => .other word

/-- What a database may be able to say. -/
inductive Capability
  | unsigned | tableOptions | columnComments | dropIfExists | indexIfNotExists | alterConstraints
  | explicitNull | backslashEscapes
  deriving DecidableEq, Repr

namespace Capability

def name : Capability → String
  | .unsigned => "has_unsigned"
  | .tableOptions => "supports_table_options"
  | .columnComments => "supports_column_comments"
  | .dropIfExists => "supports_drop_if_exists"
  | .indexIfNotExists => "supports_index_if_not_exists"
  | .alterConstraints => "supports_alter_constraints"
  | .explicitNull => "supports_explicit_null"
  | .backslashEscapes => "backslash_escapes"

def all : List Capability :=
  [.unsigned, .tableOptions, .columnComments, .dropIfExists, .indexIfNotExists, .alterConstraints,
    .explicitNull, .backslashEscapes]

end Capability

/-- The size in parentheses behind a type: a count, or a text that is written as it is. -/
inductive Size
  | count (n : Int)
  | text (s : String)
  deriving DecidableEq, Repr

def Size.render : Size → String
  | .count n => intText n
  | .text s => s

/-- A type in one database's spelling, with the size that a column has when it declares none. -/
structure TypeName where
  name : String
  size : Option Size := none
  deriving DecidableEq, Repr

/-- The type with the declared size, else its own. A name that holds a parenthesis takes no size. -/
def TypeName.render (type : TypeName) (declared : Option Size) : String :=
  match declared.or type.size with
  | some size =>
    if type.name.toList.contains '(' then type.name
    else type.name ++ "(" ++ size.render ++ ")"
  | none => type.name

/-- Queries against the system catalog. Each binds the name of a table, and the second the name of a
column after it. -/
structure Catalog where
  tableExists : String
  columnExists : String
  columns : String

/-- The characters around a quoted identifier. -/
structure QuotePair where
  opening : String
  closing : String
  deriving DecidableEq, Repr

/-- The description of one database. -/
structure Dialect where
  name : String
  aliases : List String := []
  quotes : QuotePair
  trueLiteral : String
  falseLiteral : String
  autoIncrement : String
  pagination : PaginationStyle
  capabilities : List Capability
  types : ColumnType → TypeName
  enumStyle : EnumStyle := .namedConstraint
  setStyle : SetStyle := .like
  serialTypes : ColumnType → Option String := fun _ => none
  createGuard : CreateGuard := .ifNotExists
  addColumn : String := "ADD COLUMN"
  insertStyle : InsertStyle := .values
  maxParameters : Int := 65535
  maxInsertRows : Option Int := none
  parameterStyle : ParameterStyle := .qmark
  renameTemplate : Option String := some "ALTER TABLE \x7bold\x7d RENAME TO \x7bnew\x7d;"
  truncateTemplate : String := "TRUNCATE TABLE \x7btable\x7d;"
  catalog : Option Catalog := none

/-- The names under which a dialect is known, its own first. -/
def Dialect.names (d : Dialect) : List String := d.name :: d.aliases

def Dialect.can (d : Dialect) (c : Capability) : Bool := d.capabilities.contains c

def Dialect.booleanLiteral (d : Dialect) (b : Bool) : String :=
  if b then d.trueLiteral else d.falseLiteral

end Sqlwright
