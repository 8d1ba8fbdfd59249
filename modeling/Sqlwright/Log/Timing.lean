import Sqlwright.Log.Record
import Sqlwright.Log.Redaction
import Sqlwright.Number.Places

/-!
Records about how long a statement took. Parameters are redacted before they are reported.
-/

namespace Sqlwright.Log

open Number Text

/-- The time that a number of 1024ths of a second takes in milliseconds. -/
def elapsedMs (ticks : Int) : Double := .ofRatio (ticks < 0) (ticks.natAbs * 1000) 1024

def reported : Option (List Value) → Value
  | some params => .list (Redaction.redactAll params)
  | none => .null

/-- The record about a statement that took its time: a warning from the bound on. -/
def timed (logger : String) (name bound : Value) (elapsed : Double) (sql : Value)
    (params : Option (List Value)) (fault : Option String) : Record where
  level := if bound.isAtMost elapsed then .warning else .debug
  logger
  message :=
    match fault with
    | none => name.plain ++ " took " ++ elapsed.twoPlaces ++ "ms"
    | some text => name.plain ++ " failed after " ++ elapsed.twoPlaces ++ "ms: " ++ text
  said := .text (if fault.isNone then "%s took %.2fms" else "%s failed after %.2fms: %s")
  arguments :=
    [name.inspect, elapsed.text] ++
      (fault.map fun text => "DriverFault(" ++ quoted text ++ ")").toList
  details := [("sql", sql), ("params", reported params), ("elapsed_ms", .float elapsed)]

end Sqlwright.Log
