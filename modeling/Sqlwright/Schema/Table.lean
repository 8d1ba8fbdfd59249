import Sqlwright.Dialect.Template
import Sqlwright.Query.Statement
import Sqlwright.Schema.Ddl

/-!
Statements about whole tables: dropping, emptying and renaming them, and asking the system catalog
about them.
-/

namespace Sqlwright

open Text

namespace Table

def drop (d : Dialect) (table : Value) : Except Error String := do
  return "DROP TABLE " ++ (← d.quoteValue table) ++ ";"

/-- The statement that drops a table if it is there. Where that cannot be said, the table is looked
up first, or dropped as if it were there. -/
def dropIfExists (d : Dialect) (table : Value) : Except Error String := do
  let quoted ← d.quoteValue table
  if d.can .dropIfExists then return "DROP TABLE IF EXISTS " ++ quoted ++ ";"
  else if d.createGuard = .sysobjects then
    return "IF OBJECT_ID(N" ++ d.quoteString table.plain ++ ", N'U') IS NOT NULL DROP TABLE " ++
      quoted ++ ";"
  else return "DROP TABLE " ++ quoted ++ ";"

def rename (d : Dialect) (old new : Value) : Except Error String := do
  let oldQuoted ← d.quoteValue old
  let newQuoted ← d.quoteValue new
  match d.renameTemplate with
  | none => throw (.renameUnsupported d.name)
  | some template =>
    Template.fill template
      [("old", oldQuoted), ("new", newQuoted), ("old_literal", d.quoteString old.plain),
        ("new_literal", d.quoteString (Ddl.bareName new.plain))]

def truncate (d : Dialect) (table : Value) : Except Error String := do
  Template.fill d.truncateTemplate [("table", ← d.quoteValue table)]

end Table

inductive TableChange
  | drop (table : Value)
  | dropIfExists (table : Value)
  | truncate (table : Value)
  | rename (old new : Value)

def TableChange.compile (d : Dialect) : TableChange → Except Error String
  | .drop table => Table.drop d table
  | .dropIfExists table => Table.dropIfExists d table
  | .truncate table => Table.truncate d table
  | .rename old new => Table.rename d old new

namespace Table

/-- The queries against the system catalog. -/
def catalog (d : Dialect) : Except Error Catalog :=
  match d.catalog with
  | some queries => .ok queries
  | none => .error (.noCatalog d.name)

def parameter (table : Value) : Value := .text (Ddl.bareName table.plain)

def tableExists (d : Dialect) (table : Value) : Except Error Statement := do
  let _ ← d.quoteValue table
  return ⟨(← catalog d).tableExists, [parameter table]⟩

def columnExists (d : Dialect) (table column : Value) : Except Error Statement := do
  let _ ← d.quoteValue table
  let _ ← d.quoteValue column
  return ⟨(← catalog d).columnExists, [parameter table, column]⟩

def columns (d : Dialect) (table : Value) : Except Error Statement := do
  let _ ← d.quoteValue table
  return ⟨(← catalog d).columns, [parameter table]⟩

end Table

end Sqlwright
