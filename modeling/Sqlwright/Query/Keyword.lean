import Sqlwright.Error
import Sqlwright.Text.Capital

/-!
The closed sets of words that a statement takes from its caller: comparison operators, kinds of
join, directions of order and connectors. Letter case is disregarded, and inside an operator so is
the width of blanks. What is no such word is refused with the value that was given.
-/

namespace Sqlwright

open Text

inductive Comparison
  | equal | unequal | differs | less | atMost | greater | atLeast | like | notLike
  deriving DecidableEq, Repr

namespace Comparison

def sql : Comparison → String
  | .equal => "="
  | .unequal => "!="
  | .differs => "<>"
  | .less => "<"
  | .atMost => "<="
  | .greater => ">"
  | .atLeast => ">="
  | .like => "LIKE"
  | .notLike => "NOT LIKE"

def all : List Comparison :=
  [.equal, .unequal, .differs, .less, .atMost, .greater, .atLeast, .like, .notLike]

def ofText? (text : String) : Option Comparison :=
  let spelled := join " " ((wordLists (capitals text.toList)).map String.ofList)
  all.find? (·.sql = spelled)

def ofValue : Value → Except Error Comparison
  | .text s =>
    match ofText? s with
    | some comparison => .ok comparison
    | none => .error (.invalidOperator (.text s))
  | given => .error (.invalidOperator given)

end Comparison

def Value.keyword (v : Value) : String := String.ofList (capitals v.plain.toList)

inductive JoinKind
  | inner | left | right
  deriving DecidableEq, Repr

namespace JoinKind

def sql : JoinKind → String
  | .inner => "INNER"
  | .left => "LEFT"
  | .right => "RIGHT"

def ofValue (given : Value) : Except Error JoinKind :=
  match [inner, left, right].find? (·.sql = given.keyword) with
  | some kind => .ok kind
  | none => .error (.invalidJoinType given)

end JoinKind

inductive Direction
  | ascending | descending
  deriving DecidableEq, Repr

namespace Direction

def sql : Direction → String
  | .ascending => "ASC"
  | .descending => "DESC"

def ofValue (given : Value) : Except Error Direction :=
  match [ascending, descending].find? (·.sql = given.keyword) with
  | some direction => .ok direction
  | none => .error (.invalidDirection given)

end Direction

inductive Connector
  | and | or
  deriving DecidableEq, Repr

namespace Connector

def sql : Connector → String
  | .and => "AND"
  | .or => "OR"

def ofValue (given : Value) : Except Error Connector :=
  match [and, or].find? (·.sql = given.keyword) with
  | some connector => .ok connector
  | none => .error (.invalidConnector given)

end Connector

end Sqlwright
