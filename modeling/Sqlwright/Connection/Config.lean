import Sqlwright.Connection.Dsn
import Sqlwright.Dialect.Registry
import Sqlwright.Settings

/-!
What is known about a connection: its address, the dialect that it speaks, options, and where the
address came from.
-/

namespace Sqlwright

/-- The description of a connection. Without a parsed address the text of the address is shown as it
is. -/
structure ConnectionConfig where
  url : String
  dialect : String
  dsn : Option Dsn := none
  options : Keyed Value := []
  source : Option String := none

namespace ConnectionConfig

/-- The description that an address gives. Options that the caller names replace the parameters of
the address. -/
def ofDsn (r : Registry) (text : String) (options : Keyed Value) (source : Option String) :
    Except Error ConnectionConfig := do
  let dsn ← Dsn.read text
  match r.find? dsn.driver with
  | none => throw (.unknownScheme dsn.driver r.dialects.keys)
  | some dialect =>
    let fromAddress : Keyed Value := dsn.query.map fun (name, value) => (name, .text value)
    return {
      url := text
      dialect := dialect.name
      dsn := some dsn
      options := options.foldl (fun known (name, value) => known.put name value) fromAddress
      source }

def ofEnvironment (r : Registry) (environment : List (String × String)) (name : String)
    (options : Keyed Value) : Except Error ConnectionConfig :=
  match Settings.setting? environment name with
  | some text => ofDsn r text options (some name)
  | none => .error (.variableNotSet name)

def redacted (c : ConnectionConfig) : String :=
  match c.dsn with
  | some dsn => dsn.redacted
  | none => c.url

def label (c : ConnectionConfig) : String :=
  let source := c.source.getD ""
  if source.isEmpty then c.redacted else source ++ " (" ++ c.redacted ++ ")"

end ConnectionConfig

end Sqlwright
