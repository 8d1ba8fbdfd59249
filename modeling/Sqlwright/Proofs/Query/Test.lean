import Sqlwright.Query.Basic
import Sqlwright.Query.Reference

/-!
What a condition asks of its column, apart from the column and the values: which operator it has, how
many values a list has. A test is written around the quoted column and has one mark for each value.
-/

namespace Sqlwright

open Text

/-- What is asked of a column. A list has one value more than `more`. -/
inductive Test
  | compared (operator : Comparison)
  | denied (operator : Comparison)
  | listed (negated : Bool) (more : Nat)
  | null (negated : Bool)
  | range
  deriving DecidableEq

namespace Test

def isDenied : Test → Bool
  | .denied _ => true
  | _ => false

def front (denied : Bool) : String := if denied then "NOT (" else ""

def word : Test → String
  | .compared operator => " " ++ operator.sql ++ " ?"
  | .denied operator => " " ++ operator.sql ++ " ?)"
  | .listed negated _ => if negated then " NOT IN (" else " IN ("
  | .null negated => if negated then " IS NOT NULL" else " IS NULL"
  | .range => " BETWEEN ? AND ?"

def marks : Test → String
  | .listed _ more => join ", " (List.replicate (more + 1) "?") ++ ")"
  | _ => ""

def sql (column : String) (t : Test) : String := front t.isDenied ++ column ++ t.word ++ t.marks

/-- The number of values that go with a test. -/
def arity : Test → Nat
  | .compared _ | .denied _ => 1
  | .listed _ more => more + 1
  | .null _ => 0
  | .range => 2

/-- The test that a comparison comes to, if it may be made: with the absent value only equality and
its negation go together. -/
def ofComparison? (operator : Comparison) (absent : Bool) : Option Test :=
  match absent, operator with
  | false, operator => some (.compared operator)
  | true, .equal => some (.null false)
  | true, .unequal | true, .differs => some (.null true)
  | true, _ => none

/-- Equality goes with every value: with the absent one it asks whether there is one. -/
theorem ofComparison?_equal (absent : Bool) :
    ofComparison? .equal absent = some (if absent then .null false else .compared .equal) := by
  cases absent <;> rfl

end Test

/-- The values of a comparison. The absent one is not bound. -/
def boundValues (v : Value) : List Value := if v.isNull then [] else [v]

namespace Atom

def column : Atom → String
  | .comparison column _ _ | .negation column _ _ | .membership column _ _ | .nullness column _
  | .range column _ _ => column

def test : Atom → Test
  | .comparison _ operator _ => .compared operator
  | .negation _ operator _ => .denied operator
  | .membership _ negated values => .listed negated (values.length - 1)
  | .nullness _ negated => .null negated
  | .range .. => .range

def isFilled : Atom → Bool
  | .membership _ _ values => !values.isEmpty
  | _ => true

variable {a : Atom}

/-- A condition is written as the test of its column. An empty list is no test. -/
theorem sql_eq_test (filled : a.isFilled = true) : a.sql = a.test.sql a.column := by
  cases a with
  | membership column negated values =>
    cases values with
    | nil => cases filled
    | cons v values =>
      have marks : ((v :: values).map fun _ => "?") = List.replicate (values.length + 1) "?" := by
        rw [List.map_const', List.length_cons]
      simp [sql, test, Atom.column, Test.sql, Test.front, Test.isDenied, Test.word, Test.marks,
        marks, String.append_assoc]
  | _ =>
    simp [sql, test, Atom.column, Test.sql, Test.front, Test.isDenied, Test.word, Test.marks,
      String.append_assoc]

/-- A condition has as many values as its test has marks for. -/
theorem length_params (filled : a.isFilled = true) : a.params.length = a.test.arity := by
  cases a with
  | membership column negated values =>
    cases values with
    | nil => cases filled
    | cons v values => simp [params, test, Test.arity]
  | _ => rfl

/-- A condition that asks for a test of the column that a text names, with these values. -/
structure Asks (d : Dialect) (a : Atom) (text : String) (t : Test) (values : List Value) :
    Prop where
  quoted : d.column text = .ok a.column
  test : a.test = t
  filled : a.isFilled = true
  params : a.params = values

end Atom

/-- A condition on groups is written as a comparison, also with the absent value. -/
theorem Having.sql_eq_test (entry : Having) :
    entry.sql = (Test.compared entry.operator).sql entry.column := by
  simp [sql, Test.sql, Test.front, Test.isDenied, Test.word, Test.marks, String.append_assoc]

end Sqlwright
