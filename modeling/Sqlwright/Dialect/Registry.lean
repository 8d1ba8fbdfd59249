import Sqlwright.Dialect.BuiltIn
import Sqlwright.Dialect.Quoting
import Sqlwright.Keyed
import Sqlwright.Log.Record
import Sqlwright.Text.LowerCase

/-!
Looking up dialects by name. A dialect is known under its own name and its aliases, in any letter
case. Registering refuses names that are taken unless it is told to replace.
-/

namespace Sqlwright

open Text

/-- Dialects by their own names, and for each name in lower case the dialect that holds it. -/
structure Registry where
  dialects : Keyed Dialect := []
  owners : Keyed String := []

namespace Registry

def available (r : Registry) : List String := Error.sortTexts r.dialects.keys

/-- The first of the names that belongs to a dialect other than `owner`, with that dialect. -/
def conflict? (r : Registry) (owner : String) (names : List String) : Option (String × String) :=
  names.findSome? fun name =>
    match r.owners.find? (lower name) with
    | some holder => if holder ≠ owner then some (name, holder) else none
    | none => none

/-- Adds a dialect under all its names. -/
def add (r : Registry) (d : Dialect) : Registry where
  dialects := r.dialects.put d.name d
  owners := d.names.foldl (fun owners name => owners.put (lower name) d.name) r.owners

/-- Registers a dialect. Without `replace`, a name that another dialect holds and a dialect that is
already registered are refused. -/
def register (r : Registry) (d : Dialect) (replace : Bool) : Except Error Registry :=
  if replace then .ok (r.add d)
  else
    match r.conflict? d.name d.names with
    | some (name, holder) => .error (.driverNameTaken name holder)
    | none => if r.dialects.has d.name then .error (.dialectTaken d.name) else .ok (r.add d)

def registered (d : Dialect) : Log.Record where
  level := .debug
  logger := Log.fullName "dialects"
  message := "Registered dialect " ++ d.name ++ " (aliases: " ++
    (Value.tuple (d.aliases.map Value.text)).inspect ++ ")"

/-- Registers dialects one after another, up to the first that is refused, with the records about
those that were not. -/
def registerAll (r : Registry) : List Dialect → Except Error Registry × List Log.Record
  | [] => (.ok r, [])
  | d :: rest =>
    match r.register d false with
    | .error e => (.error e, [])
    | .ok next =>
      let (result, records) := next.registerAll rest
      (result, registered d :: records)

def find? (r : Registry) (name : String) : Option Dialect := do
  r.dialects.find? (← r.owners.find? (lower name))

/-- The dialect that a name belongs to, or an error that tells the known ones. -/
def get (r : Registry) (name : String) : Except Error Dialect :=
  match r.find? name with
  | some d => .ok d
  | none => .error (.unsupportedDriver name r.dialects.keys)

def getValue (r : Registry) : Value → Except Error Dialect
  | .text name => r.get name
  | given => .error (.unsupportedDriver given.plain r.dialects.keys)

def contains (r : Registry) : Value → Bool
  | .text name => r.owners.has (lower name)
  | _ => false

def builtIn : Registry := Dialect.builtIn.foldl add {}

end Registry

end Sqlwright
