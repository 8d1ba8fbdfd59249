import Sqlwright.Log.Layout

/-!
Where records are written out. All lines carry the correlation id that is in force; the first record
that needs one while there is none takes a fresh one.
-/

namespace Sqlwright.Log

structure Console where
  threshold : Level := .info
  layout : Layout := .standard
  correlation : Option Value := none

namespace Console

/-- A console as it is asked for by the word for its level and the text of its layout, if it is to
have one of its own. -/
def start (level : String) (layout : Option String) : Except Error Console := do
  let layout ← (layout.map Layout.read).getD (.ok .standard)
  match Level.bound? level with
  | some threshold => return { threshold, layout }
  | none => throw .unknownLevel

/-- The console with a correlation id. An absent or empty one is replaced by the fresh one. -/
def setCorrelation (c : Console) (given : Value) (fresh : String) : Value × Console :=
  let id := if given.isPresent then given else .text fresh
  (id, { c with correlation := some id })

/-- The correlation id in force, after taking the fresh one if there was none. -/
def getCorrelation (c : Console) (fresh : String) : Value × Console :=
  match c.correlation with
  | some id => (id, c)
  | none => c.setCorrelation .null fresh

def write (c : Console) (fresh : String) (r : Record) : String × Console :=
  if r.level.weight < c.threshold.weight then ("", c)
  else
    let (id, after) := c.getCorrelation fresh
    match c.layout.line id r with
    | some line => (line ++ "\n", after)
    | none => ("", after)

end Console

end Sqlwright.Log
