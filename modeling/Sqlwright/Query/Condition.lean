import Sqlwright.Query.Keyword

/-!
Conditions of a WHERE clause as trees, with the text and the parameters of each. A level of the tree
is a list of conditions, each with the connector that joins it to the ones before; the connector of
the first is not written. Columns are held as quoted text.
-/

namespace Sqlwright

open Text

/-- A condition without parts. -/
inductive Atom
  | comparison (column : String) (operator : Comparison) (value : Value)
  | negation (column : String) (operator : Comparison) (value : Value)
  | membership (column : String) (negated : Bool) (values : List Value)
  | nullness (column : String) (negated : Bool)
  | range (column : String) (low high : Value)

namespace Atom

def sql : Atom → String
  | .comparison column operator _ => column ++ " " ++ operator.sql ++ " ?"
  | .negation column operator _ => "NOT (" ++ column ++ " " ++ operator.sql ++ " ?)"
  | .membership column negated values =>
    column ++ (if negated then " NOT IN (" else " IN (") ++ join ", " (values.map fun _ => "?") ++
      ")"
  | .nullness column negated => column ++ (if negated then " IS NOT NULL" else " IS NULL")
  | .range column _ _ => column ++ " BETWEEN ? AND ?"

/-- The parameters of a condition in the order of their marks. -/
def params : Atom → List Value
  | .comparison _ _ value | .negation _ _ value => [value]
  | .membership _ _ values => values
  | .nullness _ _ => []
  | .range _ low high => [low, high]

end Atom

/-- A condition: an atom, or a group of conditions in parentheses. -/
inductive Condition
  | atom (a : Atom)
  | group (members : List (Connector × Condition))

abbrev Level := List (Connector × Condition)

namespace Condition

/-- The text of a condition behind the connector, or without one at the start of a level. -/
def connected (first : Bool) (connector : Connector) (text : String) : String :=
  if first then text else connector.sql ++ " " ++ text

mutual

def sql : Condition → String
  | .atom a => a.sql
  | .group members => "(" ++ join " " (texts true members) ++ ")"

/-- The texts of the conditions of a level, each with its connector in front. `first` says whether
the level begins here. -/
def texts (first : Bool) : List (Connector × Condition) → List String
  | [] => []
  | (connector, condition) :: rest =>
    connected first connector condition.sql :: texts false rest

end

mutual

/-- The parameters of a condition in the order of their marks. -/
def params : Condition → List Value
  | .atom a => a.params
  | .group members => levelParams members

def levelParams : List (Connector × Condition) → List Value
  | [] => []
  | (_, condition) :: rest => condition.params ++ levelParams rest

end

theorem levelParams_append (a b : Level) :
    levelParams (a ++ b) = levelParams a ++ levelParams b := by
  induction a with
  | nil => rfl
  | cons entry rest ih =>
    obtain ⟨connector, condition⟩ := entry
    simp [levelParams, ih]

theorem texts_false_append (a b : Level) :
    texts false (a ++ b) = texts false a ++ texts false b := by
  induction a with
  | nil => rfl
  | cons entry rest ih =>
    obtain ⟨connector, condition⟩ := entry
    simp [texts, ih]

/-- Only the first condition of a level is written without its connector. -/
theorem texts_true_append (a b : Level) (h : a ≠ []) :
    texts true (a ++ b) = texts true a ++ texts false b := by
  cases a with
  | nil => exact absurd rfl h
  | cons entry rest =>
    obtain ⟨connector, condition⟩ := entry
    simp [texts, texts_false_append]

end Condition

end Sqlwright
