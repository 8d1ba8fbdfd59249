import Sqlwright.Log.Record
import Sqlwright.Schema.Table

/-!
What is reported while table definitions are compiled: what a database cannot say and is left out,
the statements themselves, and warnings about statements that destroy data.
-/

namespace Sqlwright.Report

open Number

def grammar : String := Log.fullName "schema.grammar"

def builder : String := Log.fullName "schema.builder"

def droppedComment (d : Dialect) (b : Blueprint) (c : Column) : List Log.Record :=
  match Definition.column d b c, Definition.Column.commentText c with
  | .ok _, some _ =>
    if d.can .columnComments then []
    else
      [{ level := .debug, logger := grammar,
         message := "Column comment on " ++ b.table ++ "." ++ c.name ++ " ignored for " ++ d.name }]
  | _, _ => []

def droppedComments (d : Dialect) (b : Blueprint) (columnsRequired : Bool) : List Log.Record :=
  match Ddl.prepare b columnsRequired with
  | .ok () =>
    (b.columns.takeWhile fun c => (Definition.column d b c).isOk).flatMap (droppedComment d b)
  | .error _ => []

def droppedOptions (d : Dialect) (b : Blueprint) : List Log.Record :=
  if b.options.isEmpty || d.can .tableOptions then []
  else
    [{ level := .debug, logger := grammar,
       message := "Table options for " ++ b.table ++ " ignored for " ++ d.name }]

def statements (b : Blueprint) (texts : List String) : List Log.Record :=
  texts.map fun text =>
    { level := .debug, logger := grammar, message := "DDL for " ++ b.table ++ ": " ++ text,
      details := [("sql", .text text)] }

def create (d : Dialect) (b : Blueprint) : List Log.Record :=
  droppedComments d b true ++
    match Ddl.create d b with
    | .ok texts => droppedOptions d b ++ statements b texts
    | .error _ => []

def add (d : Dialect) (b : Blueprint) : List Log.Record :=
  droppedComments d b false ++
    match Ddl.add d b with
    | .ok texts => statements b texts
    | .error _ => []

def createTable (d : Dialect) (b : Blueprint) : List Log.Record :=
  create d b ++
    match Ddl.create d b with
    | .ok texts =>
      [{ level := .info, logger := builder,
         message := "Compiled CREATE TABLE for " ++ b.table ++ " (" ++ intText texts.length ++
          " statements, " ++ d.name ++ ")" }]
    | .error _ => []

def destructive (kind : String) (table : Value) : Log.Record where
  level := .warning
  logger := builder
  message := kind ++ " generated for " ++ table.plain ++
    "; confirm destructive migration before applying."

/-- The records about a change to a table as a whole. A warning comes even when the statement is
refused, and the record about a new name only when it is not. -/
def change (d : Dialect) : TableChange → List Log.Record
  | .drop table | .dropIfExists table => [destructive "DROP TABLE" table]
  | .truncate table => [destructive "TRUNCATE" table]
  | .rename old new =>
    match Table.rename d old new with
    | .ok _ =>
      [{ level := .info, logger := builder,
         message := "Compiled RENAME of " ++ old.plain ++ " to " ++ new.plain ++ " (" ++ d.name ++ ")" }]
    | .error _ => []

end Sqlwright.Report
