import Sqlwright.Error
import Sqlwright.Identifier
import Sqlwright.Text.LowerCase

/-!
The few choices that queries and table definitions share, with their defaults, and how they are read
from the environment.
-/

namespace Sqlwright

open Number Text

/-- Shared choices: how many rows go into one INSERT, from how many milliseconds on a statement counts
as slow, the column that marks deleted rows, and whether logged values are redacted. -/
structure Settings where
  insertChunkSize : Int := 1000
  slowQueryMs : Value := .float (.ofRatio false 100 1)
  deletedAtColumn : String := "deleted_at"
  redactQueryLog : Bool := true

namespace Settings

def yes : List String := ["1", "true", "yes", "on"]

def no : List String := ["0", "false", "no", "off"]

def parseBool (key text : String) : Except Error Bool :=
  let word := lower (strip text)
  if yes.contains word then .ok true
  else if no.contains word then .ok false
  else .error (.invalidBoolean key text)

def parseInt (key text : String) (minimum : Option Int) : Except Error Int :=
  match Number.parseInt text.toList with
  | none => .error (.invalidInteger key text)
  | some n =>
    match minimum with
    | some least => if n < least then .error (.belowMinimum key least n) else .ok n
    | none => .ok n

def parseFloat (key text : String) : Except Error Double :=
  match Double.parse text.toList with
  | some x => .ok x
  | none => .error (.invalidFloat key text)

def check (s : Settings) : Except Error Settings :=
  if s.insertChunkSize < 1 then .error .chunkSizeNotPositive
  else if Identifier.isQualified s.deletedAtColumn.toList then .ok s
  else .error (.invalidDeletedAtColumn s.deletedAtColumn)

/-- New values for some of the settings, and names that are no settings. -/
structure Changes where
  insertChunkSize : Option Int := none
  slowQueryMs : Option Value := none
  deletedAtColumn : Option String := none
  redactQueryLog : Option Bool := none
  unknown : List String := []

def change (s : Settings) (changes : Changes) : Except Error Settings :=
  if changes.unknown.isEmpty then
    check
      { insertChunkSize := changes.insertChunkSize.getD s.insertChunkSize
        slowQueryMs := changes.slowQueryMs.getD s.slowQueryMs
        deletedAtColumn := changes.deletedAtColumn.getD s.deletedAtColumn
        redactQueryLog := changes.redactQueryLog.getD s.redactQueryLog }
  else .error (.unknownSettings changes.unknown)

/-- The value of a variable, if it is set and not empty. -/
def setting? (environment : List (String × String)) (name : String) : Option String :=
  (environment.lookup name).filter (!·.isEmpty)

/-- Reads the settings from variables whose names begin with `start`. -/
def ofEnvironment (start : String) (environment : List (String × String)) :
    Except Error Settings := do
  let chunk ← (setting? environment (start ++ "INSERT_CHUNK_SIZE")).mapM fun text =>
    parseInt "insert_chunk_size" text (some 1)
  let slow ← (setting? environment (start ++ "SLOW_QUERY_MS")).mapM fun text =>
    parseFloat "slow_query_ms" text
  let column := (setting? environment (start ++ "DELETED_AT_COLUMN")).map strip
  let redact ← (setting? environment (start ++ "REDACT_QUERY_LOG")).mapM fun text =>
    parseBool "redact_query_log" text
  ({} : Settings).change
    { insertChunkSize := chunk
      slowQueryMs := slow.map .float
      deletedAtColumn := column
      redactQueryLog := redact }

end Settings

end Sqlwright
