import Sqlwright.Log.QueryLog
import Sqlwright.Log.Timing
import Sqlwright.Query.Call

/-!
A query with a connection behind it. Work for the connection compiles first and sends only then; each
statement that was answered is logged, and the query starts afresh once all are. A statement that
fails is not logged and leaves the query as it was.
-/

namespace Sqlwright

open Number Text

/-- What the connection answers a statement with. Rows are tuples, lists or mappings. -/
structure Cursor where
  rows : List Value := []
  columns : List String := []
  rowCount : Value := .int 0
  lastRowId : Value := .null

/-- The fate of a statement. -/
inductive Reply
  | cursor (c : Cursor)
  | fault (text : String)

/-- A builder at work: its query, the replies that its connection still has to give, the statements
sent, the pages handed to the caller of a chunked read, the log of statements, the durations that the
clock will show in 1024ths of a second, and the records reported. Without a connection there are no
replies at all. -/
structure Session where
  builder : Builder
  connectionName : String := "default"
  query : Query := {}
  replies : Option (List Reply) := none
  sent : List Statement := []
  delivered : List (List Value) := []
  log : QueryLog
  durations : List Int := []
  records : List Log.Record := []

namespace Cursor

/-- A row under column names. A later value under the same name wins. -/
def named (columns : List String) (values : List Value) : List (String × Value) :=
  (columns.zip values).foldl (fun row (name, v) => Keyed.put name v row) []

def rowMap (c : Cursor) : Value → Value
  | .map entries => .map entries
  | row =>
    .map ((named c.columns (row.members?.getD [])).map fun (name, v) => (.text name, v))

def rowMaps (c : Cursor) : List Value := c.rows.map c.rowMap

/-- The first value of a row. A mapping without entries and an absent row have the absent one; another
empty row has none. -/
def firstValue (row : Value) : Except Error Value :=
  match row with
  | .null => .ok .null
  | .map entries => .ok ((entries.head?.map (·.2)).getD .null)
  | row =>
    match row.members?.getD [] with
    | [] => .error .emptyRow
    | v :: _ => .ok v

end Cursor

/-- The whole number that a value counts as. What is absent or empty counts as zero. Octets are read
as ASCII. -/
def Value.toCount (v : Value) : Except Error Int :=
  let orElse (error : Error) : Option Int → Except Error Int
    | some n => .ok n
    | none => .error error
  if v.isPresent then
    match v with
    | .float (.infinite _) | .decimal (.infinite _) => .error .countInfinite
    | .float x => orElse .countNotInteger x.truncate?
    | .decimal d => orElse .countNotInteger d.truncate?
    | .text s => orElse .countNotInteger (parseInt s.toList)
    | .octets bytes =>
      orElse .countNotInteger
        (if bytes.all (· < 128) then parseInt (bytes.map fun octet => Char.ofNat octet.toNat)
        else none)
    | v => orElse .countNotNumber v.integer?
  else .ok 0

inductive Answer
  | rows (rows : List Value)
  | row (row : Value)
  | values (values : List Value)
  | number (n : Int)
  | truth (b : Bool)
  | value (v : Value)
  | cursor (c : Cursor)
  | done

namespace Session

def logger : String := Log.fullName "query.builder"

def reset (s : Session) : Session := { s with query := {} }

/-- Sends one statement: takes the next reply, or an empty one after the last, and reports. Only an
answered statement is logged. -/
def send (s : Session) (operation : String) (statement : Statement) :
    Except Error Cursor × Session :=
  match s.replies with
  | none => (.error (.missingConnection operation), s)
  | some replies =>
    let elapsed := Log.elapsedMs (s.durations.headD 0)
    let record := Log.timed logger (.text ("query." ++ operation)) s.builder.settings.slowQueryMs
      elapsed (.text statement.sql) (some statement.params)
    let sent :=
      { s with
        replies := some replies.tail
        sent := s.sent ++ [statement]
        durations := s.durations.tail }
    match replies.headD (.cursor {}) with
    | .fault text =>
      (.error (.driverFault text), { sent with records := s.records ++ [record (some text)] })
    | .cursor c =>
      (.ok c,
        { sent with
          records := s.records ++ [record none]
          log := s.log.add
            (s.log.entry s.connectionName statement.sql statement.params (.float elapsed)) })

/-- Sends a compiled statement, unless compiling it was refused, and goes on with the cursor. -/
def sendThen {α : Type} (s : Session) (operation : String) (compiled : Except Error Statement)
    (next : Session → Cursor → Except Error α × Session) : Except Error α × Session :=
  match compiled with
  | .error e => (.error e, s)
  | .ok statement =>
    match s.send operation statement with
    | (.error e, after) => (.error e, after)
    | (.ok c, after) => next after c

/-- Sends statements one after another, up to the first that fails. The last cursor is returned. -/
def sendAll (s : Session) (operation : String) (last : Option Cursor) :
    List Statement → Except Error (Option Cursor) × Session
  | [] => (.ok last, s)
  | statement :: rest =>
    match s.send operation statement with
    | (.error e, after) => (.error e, after)
    | (.ok c, after) => after.sendAll operation (some c) rest

/-- The first row, if there is one. A query without a condition and without an order is refused,
because any row could be the first. -/
def first (s : Session) : Except Error (Option Value) × Session :=
  let q := s.query
  if !q.isFiltered && !q.isOrdered then (.error .unfilteredFirst, s)
  else
    s.sendThen "first" ({ q with limit := some 1, page := none }.compileSelect s.builder.dialect)
      fun after c => (.ok c.rowMaps.head?, after.reset)

def change (s : Session) (operation : String) (compiled : Except Error Statement) :
    Except Error Answer × Session :=
  s.sendThen operation compiled fun after c => (.ok (.value c.rowCount), after.reset)

def chunkQuery (base : Query) (size : Int) (page : Nat) : Query :=
  { base with limit := some size, page := some page }

/-- Whether the caller's verdict on a page ends a chunked read. -/
def isRefusal : Value → Bool
  | .bool b => !b
  | _ => false

/-- Reads page after page: up to an empty page, a page that is not full, or a page to which the
caller answers no. Each page uses up a reply, and beyond the last one pages are empty, so that one
step more than there are replies is enough. -/
def readPages (size : Int) (base : Query) :
    (steps page : Nat) → (verdicts : List Value) → Session → Except Error Unit × Session
  | 0, _, _, s => (.ok (), s)
  | steps + 1, page, verdicts, s =>
    s.sendThen "chunk" ((chunkQuery base size page).compileSelect s.builder.dialect) fun after c =>
      let rows := c.rowMaps
      if rows.isEmpty then (.ok (), after)
      else
        let after := { after with delivered := after.delivered ++ [rows] }
        if isRefusal (verdicts.headD .null) || (rows.length : Int) < size then (.ok (), after)
        else readPages size base steps (page + 1) verdicts.tail after

def chunk (s : Session) (size : Value) (verdicts : List Value) : Except Error Unit × Session :=
  match size with
  | .int n =>
    if n < 1 then (.error (.invalidChunkSize size), s)
    else
      match readPages n s.query ((s.replies.getD []).length + 1) 1 verdicts s with
      | (.ok (), after) => (.ok (), after.reset)
      | failed => failed
  | _ => (.error (.invalidChunkSize size), s)

def work (s : Session) : Job → Except Error Answer × Session
  | .get =>
    s.sendThen "select" (s.query.compileSelect s.builder.dialect) fun after c =>
      (.ok (.rows c.rowMaps), after.reset)
  | .first =>
    match s.first with
    | (.ok row, after) => (.ok (.row (row.getD .null)), after)
    | (.error e, after) => (.error e, after)
  | .firstOrFail =>
    match s.first with
    | (.ok (some row), after) => (.ok (.row row), after)
    | (.ok none, after) => (.error (.recordNotFound (s.query.name.getD "")), after)
    | (.error e, after) => (.error e, after)
  | .count column =>
    s.sendThen "count" (s.query.compileCount s.builder.dialect column) fun after c =>
      let counted := do
        let v ← match c.rows.head? with
          | some row => Cursor.firstValue row
          | none => .ok .null
        return Answer.number (← v.toCount)
      (counted, after.reset)
  | .pluck column =>
    let compiled := do
      let column ← s.builder.dialect.column column
      { s.query with columns := [column] }.compileSelect s.builder.dialect
    s.sendThen "pluck" compiled fun after c =>
      match c.rows.mapM Cursor.firstValue with
      | .ok values => (.ok (.values values), after.reset)
      | .error e => (.error e, after)
  | .exists =>
    s.sendThen "exists" (s.query.compileExists s.builder.dialect) fun after c =>
      (.ok (.truth (c.rows.head?.any (!·.isNull))), after.reset)
  | .insert records =>
    match s.builder.compile s.query (.insert records) with
    | .error e => (.error e, s)
    | .ok statements =>
      match s.sendAll "insert" none statements with
      | (.error e, after) => (.error e, after)
      | (.ok last, after) =>
        (.ok (.value ((last.map (·.lastRowId)).getD .null)), after.reset)
  | .update values => s.change "update" (s.query.compileUpdate s.builder.dialect values)
  | .delete => s.change "delete" (s.builder.compileDelete s.query)
  | .restore =>
    s.change "restore"
      (s.query.compileUpdate s.builder.dialect [(.text s.builder.settings.deletedAtColumn, .null)])
  | .increment column amount extra =>
    s.change "increment" (s.query.compileStep s.builder.dialect column amount extra "+")
  | .decrement column amount extra =>
    s.change "decrement" (s.query.compileStep s.builder.dialect column amount extra "-")
  | .chunk size verdicts =>
    match s.chunk size verdicts with
    | (.ok (), after) => (.ok .done, after)
    | (.error e, after) => (.error e, after)
  | .execute sql params =>
    s.sendThen "execute" (.ok ⟨sql, params⟩) fun after c => (.ok (.cursor c), after)

/-- Does a piece of work, which needs a connection. -/
def perform (s : Session) (job : Job) : Except Error Answer × Session :=
  if s.replies.isNone then (.error (.missingConnection job.operation), s) else s.work job

/-- The session after a call. Work goes to the connection; every other call is about the query
alone. -/
def act (s : Session) : Call → Session
  | .job j => (s.perform j).2
  | .tolerated call => s.act call
  | call => { s with query := (s.builder.apply s.query call).2 }

def play (s : Session) (calls : List Call) : Session := calls.foldl act s

end Session

end Sqlwright
