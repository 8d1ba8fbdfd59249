import Sqlwright.Keyed
import Sqlwright.Log.Redaction
import Sqlwright.Settings

/-!
A log of statements for each connection, which may be bounded: then only the newest entries stay.
-/

namespace Sqlwright

open Text

structure LogEntry where
  connection : String
  sql : String
  params : List Value
  elapsedMs : Value

/-- Entries by connection. -/
structure QueryLog where
  redact : Bool := true
  maxEntries : Option Int := none
  entries : Keyed (List LogEntry) := []

namespace QueryLog

def get (log : QueryLog) (connection : String) : List LogEntry :=
  (log.entries.find? connection).getD []

def count (log : QueryLog) (connection : String) : Nat := (log.get connection).length

def connections (log : QueryLog) : List String := Error.sortTexts log.entries.keys

/-- The newest entries within the bound. -/
def trim (log : QueryLog) (entries : List LogEntry) : List LogEntry :=
  match log.maxEntries with
  | some most => entries.drop (entries.length - most).toNat
  | none => entries

/-- The entry for a statement: its text in one line and its parameters, redacted if the log says
so. -/
def entry (log : QueryLog) (connection sql : String) (params : List Value) (elapsedMs : Value) :
    LogEntry where
  connection
  sql := squeeze sql
  params := if log.redact then Redaction.redactAll params else params
  elapsedMs

def add (log : QueryLog) (e : LogEntry) : QueryLog :=
  { log with
    entries := log.entries.put e.connection (log.trim (log.get e.connection ++ [e])) }

def clear (log : QueryLog) (connection : String) : QueryLog :=
  { log with entries := log.entries.erase connection }

def clearAll (log : QueryLog) : QueryLog := { log with entries := [] }

theorem get_add (log : QueryLog) (e : LogEntry) (other : String) :
    (log.add e).get other =
      if e.connection = other then log.trim (log.get other ++ [e]) else log.get other := by
  rw [get, add, Keyed.find?_put]
  by_cases same : e.connection = other
  · rw [if_pos same, if_pos same, same]
    rfl
  · rw [if_neg same, if_neg same, get]

end QueryLog

end Sqlwright
