import Sqlwright.Error
import Sqlwright.Identifier
import Sqlwright.Text.Capital

/-!
Foreign keys of a table definition, and lists of column names as callers give them.
-/

namespace Sqlwright

open Text

/-- Column names that a caller gave: at least one, and each a name. -/
def readNames (given : List Value) : Except Error (List String) :=
  let name : Value → Except Error String
    | .text s =>
      if Identifier.isName s.toList then .ok s else .error (.invalidIdentifier (quoted s))
    | v => .error (.invalidIdentifier v.inspect)
  if given.isEmpty then .error .noColumnNames else given.mapM name

def readTable : Value → Except Error String
  | .text s =>
    if Identifier.isQualified s.toList then .ok s else .error (.invalidIdentifier (quoted s))
  | v => .error (.invalidIdentifier v.inspect)

def readName (s : String) : Except Error String :=
  if Identifier.isName s.toList then .ok s else .error (.invalidIdentifier (quoted s))

inductive ForeignKeyAction
  | cascade | setNull | setDefault | restrict | noAction
  deriving DecidableEq, Repr

namespace ForeignKeyAction

def sql : ForeignKeyAction → String
  | .cascade => "CASCADE"
  | .setNull => "SET NULL"
  | .setDefault => "SET DEFAULT"
  | .restrict => "RESTRICT"
  | .noAction => "NO ACTION"

/-- The action that a value names, in any letter case and with blanks of any width. -/
def ofValue (given : Value) : Except Error ForeignKeyAction :=
  let spelled := join " " ((wordLists (capitals given.plain.toList)).map String.ofList)
  match [cascade, setNull, setDefault, restrict, noAction].find? (·.sql = spelled) with
  | some action => .ok action
  | none => .error (.invalidForeignKeyAction given)

end ForeignKeyAction

/-- One foreign key. Without a table it is not finished. -/
structure ForeignKey where
  columns : List String
  referenced : List String := ["id"]
  table : Option String := none
  onDelete : Option ForeignKeyAction := none
  onUpdate : Option ForeignKeyAction := none
  name : Option String := none

inductive ForeignKeyCall
  | references (columns : List Value)
  | on (table : Value)
  | onDelete (action : Value)
  | onUpdate (action : Value)
  | cascade
  | named (name : String)

def ForeignKey.apply (k : ForeignKey) : ForeignKeyCall → Except Error ForeignKey
  | .references columns => do return { k with referenced := ← readNames columns }
  | .on table => do return { k with table := some (← readTable table) }
  | .onDelete action => do return { k with onDelete := some (← ForeignKeyAction.ofValue action) }
  | .onUpdate action => do return { k with onUpdate := some (← ForeignKeyAction.ofValue action) }
  | .cascade => .ok { k with onDelete := some .cascade, onUpdate := some .cascade }
  | .named name => do return { k with name := some (← readName name) }

end Sqlwright
