import Sqlwright.Query.Clause
import Sqlwright.Query.Compile
import Sqlwright.Query.Insert

/-!
Everything that a caller can ask of a query under construction: a step, a group of conditions, a
compiled statement, or work for the connection. A group is built by calls of its own on an empty
query over the same table; the first of them that is refused, and not tolerated, refuses the group.
-/

namespace Sqlwright

/-- A statement that is asked for. -/
inductive Request
  | select
  | count (column : String)
  | exists
  | insert (records : Insert.Records)
  | update (values : Row)
  | delete
  | restore
  | step (column : String) (amount : Value) (extra : Row) (operator : String)

/-- Work for the connection. The verdicts are what the caller answers to each page of a chunked
read. -/
inductive Job
  | get
  | first
  | firstOrFail
  | count (column : String)
  | pluck (column : String)
  | exists
  | insert (records : Insert.Records)
  | update (values : Row)
  | delete
  | restore
  | increment (column : String) (amount : Value) (extra : Row)
  | decrement (column : String) (amount : Value) (extra : Row)
  | chunk (size : Value) (verdicts : List Value)
  | execute (sql : String) (params : List Value)

def Job.operation : Job → String
  | .get => "get"
  | .first | .firstOrFail => "first"
  | .count _ => "count"
  | .pluck _ => "pluck"
  | .exists => "exists"
  | .insert _ => "insert"
  | .update _ => "update"
  | .delete => "delete"
  | .restore => "restore"
  | .increment .. => "increment"
  | .decrement .. => "decrement"
  | .chunk .. => "chunk"
  | .execute .. => "execute"

/-- One call. A tolerated call is one whose refusal the caller passes over. -/
inductive Call
  | clause (c : Clause)
  | group (body : List Call) (connector : Value)
  | request (r : Request)
  | job (j : Job)
  | tolerated (call : Call)

namespace Builder

/-- The statement that removes rows, or marks them where deleting is soft. -/
def compileDelete (b : Builder) (q : Query) : Except Error Statement :=
  if q.softDelete then q.compileUpdate b.dialect [(.text b.settings.deletedAtColumn, .text b.now)]
  else q.compileDelete

/-- The statements for a request. Only an INSERT may have several. -/
def compile (b : Builder) (q : Query) : Request → Except Error (List Statement)
  | .select => (q.compileSelect b.dialect).map ([·])
  | .count column => (q.compileCount b.dialect column).map ([·])
  | .exists => (q.compileExists b.dialect).map ([·])
  | .insert records => q.compileInsert b.dialect records b.settings.insertChunkSize
  | .update values => (q.compileUpdate b.dialect values).map ([·])
  | .delete => (b.compileDelete q).map ([·])
  | .restore => (q.compileUpdate b.dialect [(.text b.settings.deletedAtColumn, .null)]).map ([·])
  | .step column amount extra operator =>
    (q.compileStep b.dialect column amount extra operator).map ([·])

mutual

def apply (b : Builder) (q : Query) : Call → Outcome
  | .clause c => c.apply b q
  | .group body connector =>
    match Connector.ofValue connector with
    | .error e => (.error e, q)
    | .ok connector =>
      match b.applyAll { table := q.table } body with
      | (.error e, _) => (.error e, q)
      | (.ok (), nested) =>
        if nested.conditions.isEmpty then (.ok (), q)
        else (.ok (), q.addCondition connector (.group nested.conditions))
  | .request r => ((b.compile q r).map fun _ => (), q)
  | .job j => (.error (.missingConnection j.operation), q)
  | .tolerated call => (.ok (), (b.apply q call).2)

/-- What calls do one after another, up to the first that is refused. -/
def applyAll (b : Builder) (q : Query) : List Call → Outcome
  | [] => (.ok (), q)
  | call :: rest =>
    match b.apply q call with
    | (.ok (), next) => b.applyAll next rest
    | refused => refused

end

def run (b : Builder) (q : Query) (calls : List Call) : Query :=
  calls.foldl (fun q call => (b.apply q call).2) q

end Builder

end Sqlwright
