import Sqlwright.Keyed
import Sqlwright.Value

/-!
What the library reports while it works: records with a level, the name of the part that speaks, a
message, and details of the statement where there is one.
-/

namespace Sqlwright.Log

inductive Level
  | debug | info | warning | error | critical
  deriving DecidableEq, Repr

def Level.name : Level → String
  | .debug => "DEBUG"
  | .info => "INFO"
  | .warning => "WARNING"
  | .error => "ERROR"
  | .critical => "CRITICAL"

def Level.all : List Level := [.debug, .info, .warning, .error, .critical]

/-- The level that a word names. Two levels have a second word. -/
def Level.ofName? (word : String) : Option Level :=
  if word = "WARN" then some .warning
  else if word = "FATAL" then some .critical
  else Level.all.find? (·.name = word)

/-- The lightest level that is let through where a word sets the bound. NOTSET sets none, and then
warnings are the lightest. -/
def Level.bound? (word : String) : Option Level :=
  if word = "NOTSET" then some .warning else Level.ofName? word

def Level.weight : Level → Nat
  | .debug => 10
  | .info => 20
  | .warning => 30
  | .error => 40
  | .critical => 50

def rootName : String := "polysql"

def fullName (part : String) : String := rootName ++ "." ++ part

/-- One record. The message is what was said with the arguments filled in, which are held by the
texts that show them. Details stand under their names. -/
structure Record where
  level : Level
  logger : String
  message : String
  said : Value := .text message
  arguments : List String := []
  details : Keyed Value := []

end Sqlwright.Log
