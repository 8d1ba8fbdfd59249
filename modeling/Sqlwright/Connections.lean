import Sqlwright.Connection.Config

/-!
Connections by name. A name is given once; it is free again when its connection is removed.
-/

namespace Sqlwright

structure Connections where
  configs : Keyed ConnectionConfig := []

namespace Connections

def registered (name : String) (c : ConnectionConfig) : Log.Record where
  level := .info
  logger := Log.fullName "connection"
  message := "Registered connection " ++ name ++ " -> " ++ c.label

/-- The connections with one more, unless its name is taken. -/
def add (known : Connections) (name : String) (c : ConnectionConfig) : Except Error Connections :=
  if known.configs.has name then .error (.connectionTaken name)
  else .ok { configs := known.configs.put name c }

def get (known : Connections) (name : String) : Except Error ConnectionConfig :=
  match known.configs.find? name with
  | some c => .ok c
  | none => .error (.connectionUnknown name)

def has (known : Connections) (name : String) : Bool := known.configs.has name

def dialectFor (known : Connections) (r : Registry) (name : String) : Except Error Dialect := do
  r.get (← known.get name).dialect

def names (known : Connections) : List String := Error.sortTexts known.configs.keys

def remove (known : Connections) (name : String) : Connections :=
  { configs := known.configs.erase name }

end Connections

end Sqlwright
