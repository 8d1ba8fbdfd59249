import Sqlwright.Dialect.Basic
import Sqlwright.Error

/-!
Cutting a SELECT to a window of rows. A limit comes with an offset when a page was asked for.
Databases that spell the window as OFFSET … FETCH refuse a page of rows in no order.
-/

namespace Sqlwright

open Number

namespace Pagination

def offset (limit page : Int) : Int := (page - 1) * limit

/-- The heads of a SELECT behind which a TOP clause goes, the longer one first. -/
def selectHeads : List String := ["SELECT DISTINCT ", "SELECT "]

/-- The rest of a text behind a head. -/
def behind? (head : String) (text : List Char) : Option (List Char) :=
  if head.toList.isPrefixOf text then some (text.drop head.toList.length) else none

/-- The statement with a TOP clause behind its head. -/
def insertTop (sql : String) (limit : Int) : Except Error String :=
  match selectHeads.findSome? fun head => (behind? head sql.toList).map fun rest => (head, rest) with
  | some (head, rest) =>
    .ok (head ++ "TOP " ++ intText limit ++ " " ++ String.ofList rest)
  | none => .error .topWithoutSelect

def offsetFetch (offset limit : Int) : String :=
  " OFFSET " ++ intText offset ++ " ROWS FETCH NEXT " ++ intText limit ++ " ROWS ONLY"

/-- The statement cut to `limit` rows after the first `offset`; without a limit it stays whole. -/
def apply (d : Dialect) (sql : String) (limit offset : Option Int) (ordered : Bool) :
    Except Error String :=
  match limit with
  | none => .ok sql
  | some limit =>
    match d.pagination, offset with
    | .limitOffset, none => .ok (sql ++ " LIMIT " ++ intText limit)
    | .limitOffset, some offset =>
      .ok (sql ++ " LIMIT " ++ intText limit ++ " OFFSET " ++ intText offset)
    | .top, none => insertTop sql limit
    | .offsetFetch, none => .ok (sql ++ " FETCH FIRST " ++ intText limit ++ " ROWS ONLY")
    | .top, some offset | .offsetFetch, some offset =>
      if ordered then .ok (sql ++ offsetFetch offset limit) else .error (.unorderedPage d.name)
    | .rowsRange, offset =>
      let start := offset.getD 0 + 1
      .ok (sql ++ " ROWS " ++ intText start ++ " TO " ++ intText (start + limit - 1))
    | .other style, _ => .error (.unknownPagination style)

end Pagination

end Sqlwright
