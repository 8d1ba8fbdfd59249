import Sqlwright.Dialect.BuiltIn
import Sqlwright.Proofs.Query.Chunk

/-!
What work sends, and what it does to the query and to the log, when a connection may fail at any of
its statements. Work is refused before it sends anything, or fails at a statement that it was to send
and has logged those before it, or has sent all that it was to send and ends with a fresh query and
every statement logged. Main statement: `Session.perform_protocol`.
-/

namespace Sqlwright

namespace QueryLog

variable {log next last : QueryLog} {connection : String}

/-- The log has gained entries for one connection and reads as before for every other. -/
structure Grows (log : QueryLog) (connection : String) (entries : List LogEntry)
    (after : QueryLog) : Prop where
  redact : after.redact = log.redact
  maxEntries : after.maxEntries = log.maxEntries
  own : after.get connection = log.get connection ++ entries
  others : ∀ other, other ≠ connection → after.get other = log.get other

theorem Grows.refl (log : QueryLog) (connection : String) : log.Grows connection [] log :=
  ⟨rfl, rfl, (List.append_nil _).symm, fun _ _ => rfl⟩

theorem Grows.trans {entries more : List LogEntry} (first : log.Grows connection entries next)
    (second : next.Grows connection more last) :
    log.Grows connection (entries ++ more) last where
  redact := second.redact.trans first.redact
  maxEntries := second.maxEntries.trans first.maxEntries
  own := by rw [second.own, first.own, List.append_assoc]
  others := fun other apart => (second.others other apart).trans (first.others other apart)

/-- A log without a bound gains every entry that is added, for its own connection. -/
theorem Grows.add (unbounded : log.maxEntries = none) (e : LogEntry) :
    log.Grows e.connection [e] (log.add e) where
  redact := rfl
  maxEntries := rfl
  own := by
    rw [get_add, if_pos rfl, trim, unbounded]
  others := fun other apart => by rw [get_add, if_neg (Ne.symm apart)]

end QueryLog

/-- The rows that the protocol speaks of hold a first value, and where rows are counted that value is
a whole number or absent. -/
structure Job.Reads (j : Job) (c : Cursor) : Prop where
  filled : ∀ row ∈ c.rows, ∃ v rest, row.members? = some (v :: rest)
  counts : ∀ column, j = .count column → ∀ row ∈ c.rows.head?,
    Cursor.firstValue row = .ok .null ∨ ∃ n, Cursor.firstValue row = .ok (.int n)

/-- Whether work has come to its end: with an answer, or for want of the row that had to be there. -/
def Job.Settles (j : Job) : Except Error Answer → Prop
  | .ok _ => True
  | .error (.recordNotFound _) => j = .firstOrFail
  | .error _ => False

/-- From a row that was read there is a first value to take. -/
theorem Job.Reads.firstValue {j : Job} {c : Cursor} (reads : j.Reads c) {row : Value}
    (member : row ∈ c.rows) : ∃ v, Cursor.firstValue row = .ok v := by
  obtain ⟨v, rest, members⟩ := reads.filled row member
  cases row with
  | map entries => exact ⟨_, rfl⟩
  | text | octets | list | tuple =>
    refine ⟨v, ?_⟩
    simp only [Cursor.firstValue, members, Option.getD_some]
  | _ => cases members

/-- Only a record that was demanded settles work with an error. -/
theorem Job.not_settles {j : Job} (h : j ≠ .firstOrFail) (e : Error) : ¬ j.Settles (.error e) := by
  cases e with
  | recordNotFound table => exact h
  | _ => exact id

theorem Job.reads_empty (j : Job) : j.Reads {} where
  filled := fun row member => absurd member List.not_mem_nil
  counts := fun column _ row head => by cases head

theorem Pagination.apply_ne_recordNotFound {d : Dialect} {sql : String} {limit offset : Option Int}
    {ordered : Bool} (name : String) :
    apply d sql limit offset ordered ≠ .error (.recordNotFound name) := by
  intro h
  unfold apply at h
  split at h
  · cases h
  · split at h <;> try cases h
    · unfold insertTop at h
      split at h <;> cases h
    · split at h <;> cases h
    · split at h <;> cases h

/-- That there is no record is never said before a statement was sent. -/
theorem Query.compileSelect_ne_recordNotFound {d : Dialect} {q : Query} (name : String) :
    q.compileSelect d ≠ .error (.recordNotFound name) := by
  intro h
  cases table : q.requireTable with
  | error e =>
    simp only [compileSelect, table, bind, Except.bind] at h
    cases h
    unfold requireTable at table
    split at table
    · split at table <;> cases table
    · cases table
  | ok table' =>
    simp only [compileSelect, table, bind, Except.bind] at h
    split at h
    · rename_i e cut
      cases h
      exact Pagination.apply_ne_recordNotFound name cut
    · cases h

theorem Value.toCount_int (n : Int) : (Value.int n).toCount = .ok n := by
  by_cases zero : n = 0
  · rw [zero]
    rfl
  · have present : (Value.int n).isPresent = true := by simp [isPresent, zero]
    simp [toCount, present, integer?]

/-- What work other than a chunked read has compiled, and of which query. -/
def Job.asked? (d : Dialect) (q : Query) : Job → Option (Query × Request)
  | .get => some (q, .select)
  | .first | .firstOrFail => some ({ q with limit := some 1, page := none }, .select)
  | .count column => some (q, .count column)
  | .pluck column => (d.column column).toOption.map fun text => ({ q with columns := [text] }, .select)
  | .exists => some (q, .exists)
  | .insert records => some (q, .insert records)
  | .update values => some (q, .update values)
  | .delete => some (q, .delete)
  | .restore => some (q, .restore)
  | .increment column amount extra => some (q, .step column amount extra "+")
  | .decrement column amount extra => some (q, .step column amount extra "-")
  | .chunk .. | .execute .. => none

/-- The statements for consecutive pages of a query. -/
def Builder.CompilesPages (b : Builder) (base : Query) (size : Int) (page : Nat)
    (statements : List Statement) : Prop :=
  ∀ k statement, statements[k]? = some statement →
    b.compile (Session.chunkQuery base size (page + k)) .select = .ok [statement]

/-- The statements that work sends if the connection answers them all. A chunked read asks for one
page at least. -/
inductive Job.Sends (b : Builder) (q : Query) : Job → List Statement → Prop
  | request {j : Job} {variant : Query} {r : Request} {statements : List Statement}
    (asked : j.asked? b.dialect q = some (variant, r))
    (compiled : b.compile variant r = .ok statements) : Sends b q j statements
  | pages {size : Int} {verdicts : List Value} {statements : List Statement}
    (present : statements ≠ []) (compiled : b.CompilesPages q size 1 statements) :
    Sends b q (.chunk (.int size) verdicts) statements

namespace Builder

variable {b : Builder} {base : Query} {size : Int} {page : Nat}

theorem CompilesPages.nil : b.CompilesPages base size page [] := by
  intro k statement found
  cases found

theorem CompilesPages.cons {statement : Statement} {statements : List Statement}
    (here : (Session.chunkQuery base size page).compileSelect b.dialect = .ok statement)
    (later : b.CompilesPages base size (page + 1) statements) :
    b.CompilesPages base size page (statement :: statements) := by
  intro k other found
  cases k with
  | zero =>
    cases found
    exact map_eq_ok.mpr ⟨statement, here, rfl⟩
  | succ k =>
    have next := later k other found
    rwa [Nat.add_right_comm] at next

end Builder

/-- Where a request has one statement, that is what the work sends. -/
theorem Job.sends_one {b : Builder} {q variant : Query} {j : Job} {r : Request}
    {compiled : Except Error Statement} {statement : Statement}
    (asked : j.asked? b.dialect q = some (variant, r))
    (same : b.compile variant r = compiled.map ([·])) (h : compiled = .ok statement) :
    j.Sends b q [statement] := by
  rw [h] at same
  exact .request asked same

namespace Session

variable {s before after mid : Session} {statements more : List Statement}

/-- The reply to the statement at a place, counted from the next one to be sent. -/
def replyAt (s : Session) (k : Nat) : Reply := (s.replies.getD []).getD k (.cursor {})

def faultAt? (s : Session) (k : Nat) : Option String :=
  match s.replyAt k with
  | .fault text => some text
  | .cursor _ => none

def entryAt (s : Session) (k : Nat) (statement : Statement) : LogEntry :=
  s.log.entry s.connectionName statement.sql statement.params
    (.float (Log.elapsedMs (s.durations.getD k 0)))

def entries (s : Session) (statements : List Statement) : List LogEntry :=
  statements.mapIdx s.entryAt

/-- Statements were sent and answered, and nothing else happened to the query or to the log. -/
structure Answered (s : Session) (statements : List Statement) (after : Session) : Prop where
  builder : after.builder = s.builder
  connectionName : after.connectionName = s.connectionName
  query : after.query = s.query
  replies : after.replies = s.replies.map (·.drop statements.length)
  durations : after.durations = s.durations.drop statements.length
  sent : after.sent = s.sent ++ statements
  unfailing : ∀ k < statements.length, s.faultAt? k = none
  log : s.log.Grows s.connectionName (s.entries statements) after.log

/-- The last statement was sent and failed. It is not logged. -/
structure Fails (s : Session) (last : Statement) (text : String) (after : Session) : Prop where
  fault : s.faultAt? 0 = some text
  query : after.query = s.query
  sent : after.sent = s.sent ++ [last]
  log : after.log = s.log

theorem Answered.refl (s : Session) : s.Answered [] s where
  builder := rfl
  connectionName := rfl
  query := rfl
  replies := by simp
  durations := rfl
  sent := (List.append_nil _).symm
  unfailing := fun k inside => absurd inside (Nat.not_lt_zero k)
  log := .refl s.log s.connectionName

namespace Answered

variable (answered : s.Answered statements mid)

include answered

theorem replyAt (k : Nat) : mid.replyAt k = s.replyAt (statements.length + k) := by
  unfold Session.replyAt
  rw [answered.replies]
  cases s.replies with
  | none => simp
  | some replies => simp [List.getD_eq_getElem?_getD]

theorem faultAt? (k : Nat) : mid.faultAt? k = s.faultAt? (statements.length + k) := by
  rw [Session.faultAt?, Session.faultAt?, answered.replyAt]

theorem entryAt (k : Nat) (statement : Statement) :
    mid.entryAt k statement = s.entryAt (statements.length + k) statement := by
  simp only [Session.entryAt, QueryLog.entry, answered.connectionName, answered.durations,
    answered.log.redact, List.getD_eq_getElem?_getD, List.getElem?_drop]

/-- The entries of later statements are told by the session after the earlier ones. -/
theorem entries (more : List Statement) :
    s.entries (statements ++ more) = s.entries statements ++ mid.entries more := by
  have later : mid.entryAt = fun k => s.entryAt (k + statements.length) := by
    funext k statement
    rw [answered.entryAt, Nat.add_comm]
  rw [Session.entries, List.mapIdx_append, Session.entries, Session.entries, later]

/-- Statements that were answered one after another were answered together. -/
theorem trans (later : mid.Answered more after) : s.Answered (statements ++ more) after where
  builder := later.builder.trans answered.builder
  connectionName := later.connectionName.trans answered.connectionName
  query := later.query.trans answered.query
  replies := by
    rw [later.replies, answered.replies, Option.map_map]
    congr 1
    funext replies
    simp
  durations := by rw [later.durations, answered.durations, List.drop_drop, List.length_append]
  sent := by rw [later.sent, answered.sent, List.append_assoc]
  unfailing := by
    intro k inside
    by_cases earlier : k < statements.length
    · exact answered.unfailing k earlier
    · rw [List.length_append] at inside
      have next := later.unfailing (k - statements.length) (by omega)
      rwa [answered.faultAt?, Nat.add_sub_cancel' (by omega)] at next
  log := by
    rw [answered.entries]
    refine answered.log.trans ?_
    rw [← answered.connectionName]
    exact later.log

/-- The pages handed over are no part of this. -/
theorem deliver (delivered : List (List Value)) :
    s.Answered statements { mid with delivered := delivered } :=
  { answered with }

theorem connected (h : s.replies ≠ none) : mid.replies ≠ none := by
  rw [answered.replies]
  simpa using h

end Answered

/-- How work that may send statements ends. What it was to send, what it was refused with and how it
ended are left open. -/
inductive Ends {α : Type} (s : Session) (plan : List Statement → Prop) (refusal : Error → Prop)
    (finish : Session → Except Error α × Session → Prop) : Except Error α × Session → Prop
  | refused (e : Error) (h : refusal e) : Ends s plan refusal finish (.error e, s)
  | failed {earlier more : List Statement} {last : Statement} {text : String}
    {before after : Session} (planned : plan (earlier ++ last :: more))
    (answered : s.Answered earlier before) (fails : before.Fails last text after) :
    Ends s plan refusal finish (.error (.driverFault text), after)
  | finished {statements : List Statement} {before : Session} {result : Except Error α × Session}
    (planned : plan statements) (answered : s.Answered statements before)
    (h : finish before result) : Ends s plan refusal finish result

section Ends

variable {α β : Type} {plan : List Statement → Prop} {refusal : Error → Prop}
  {finish : Session → Except Error α × Session → Prop}
  {finish' : Session → Except Error β × Session → Prop} {result : Except Error α × Session}

/-- Statements sent beforehand come in front of the others. Beyond them nothing is refused. -/
theorem Ends.behind (answered : s.Answered statements mid)
    (ends : Ends mid (fun later => plan (statements ++ later)) (fun _ => False) finish result) :
    Ends s plan refusal finish result := by
  cases ends with
  | refused e h => exact h.elim
  | failed planned later fails =>
    rw [← List.append_assoc] at planned
    exact .failed planned (answered.trans later) fails
  | finished planned later h => exact .finished planned (answered.trans later) h

/-- What is made of the outcome afterwards lets errors through. -/
theorem Ends.followed {refusal' : Error → Prop} {made : Except Error β × Session}
    (ends : Ends s plan refusal finish result)
    (through : ∀ e after, result = (.error e, after) → made = (.error e, after))
    (weaker : ∀ e, refusal e → refusal' e)
    (h : ∀ before, finish before result → finish' before made) :
    Ends s plan refusal' finish' made := by
  cases ends with
  | refused e refuses =>
    rw [through e s rfl]
    exact .refused e (weaker e refuses)
  | failed planned answered fails =>
    rw [through _ _ rfl]
    exact .failed planned answered fails
  | finished planned answered done => exact .finished planned answered (h _ done)

end Ends

section Steps

variable {α : Type} {plan : List Statement → Prop} {refusal : Error → Prop}
  {finish : Session → Except Error α × Session → Prop}

/-- A statement is answered or fails. -/
theorem send_cases (connected : s.replies ≠ none) (unbounded : s.log.maxEntries = none)
    (operation : String) (statement : Statement) :
    (∃ c after, s.send operation statement = (.ok c, after) ∧ s.replyAt 0 = .cursor c ∧
      s.Answered [statement] after) ∨
    ∃ text after, s.send operation statement = (.error (.driverFault text), after) ∧
      s.Fails statement text after := by
  obtain ⟨replies, script⟩ := Option.ne_none_iff_exists'.mp connected
  have next : s.replyAt 0 = replies.headD (.cursor {}) := by
    rw [replyAt, script, headD_eq_getD]
    rfl
  unfold send
  simp only [script]
  cases reply : replies.headD (.cursor {}) with
  | cursor c =>
    refine Or.inl ⟨c, _, rfl, next.trans reply, ?_⟩
    exact
      { builder := rfl
        connectionName := rfl
        query := rfl
        replies := by simp [script]
        durations := by simp
        sent := rfl
        unfailing := by
          intro k inside
          obtain rfl : k = 0 := Nat.lt_one_iff.mp inside
          rw [faultAt?, next, reply]
        log := by
          have one := QueryLog.Grows.add unbounded (s.entryAt 0 statement)
          rw [entries, List.mapIdx_cons, List.mapIdx_nil, headD_eq_getD]
          exact one }
  | fault text =>
    refine Or.inr ⟨text, _, rfl, ?_⟩
    exact
      { fault := by rw [faultAt?, next, reply]
        query := rfl
        sent := rfl
        log := rfl }

/-- Work that sends one statement and goes on with the reply to it ends as what comes after does. -/
theorem ends_sendThen (connected : s.replies ≠ none) (unbounded : s.log.maxEntries = none)
    (operation : String) {compiled : Except Error Statement}
    {next : Session → Cursor → Except Error α × Session}
    (refuses : ∀ e, compiled = .error e → refusal e)
    (planned : ∀ statement, compiled = .ok statement → plan [statement])
    (goes : ∀ c after statement, compiled = .ok statement → s.replyAt 0 = .cursor c →
      s.Answered [statement] after → Ends s plan refusal finish (next after c)) :
    Ends s plan refusal finish (s.sendThen operation compiled next) := by
  unfold sendThen
  cases compiled with
  | error e => exact .refused e (refuses e rfl)
  | ok statement =>
    rcases s.send_cases connected unbounded operation statement with
      ⟨c, after, sent, reply, answered⟩ | ⟨text, after, sent, fails⟩
    · simp only [sent]
      exact goes c after statement rfl reply answered
    · simp only [sent]
      exact .failed (planned statement rfl) (.refl s) fails

/-- The induction is on the statements that are left to send. -/
theorem ends_sendAll (connected : s.replies ≠ none) (unbounded : s.log.maxEntries = none)
    (operation : String) (last : Option Cursor) (statements : List Statement)
    (planned : plan statements) :
    Ends s plan (fun _ => False) (fun before result => ∃ last, result = (.ok last, before))
      (s.sendAll operation last statements) := by
  induction statements generalizing s plan last with
  | nil => exact .finished planned (.refl s) ⟨last, rfl⟩
  | cons statement rest ih =>
    unfold sendAll
    rcases s.send_cases connected unbounded operation statement with
      ⟨c, after, sent, -, answered⟩ | ⟨text, after, sent, fails⟩
    · simp only [sent]
      exact .behind answered (ih (answered.connected connected)
        (answered.log.maxEntries.trans unbounded) (some c) planned)
    · simp only [sent]
      exact .failed planned (.refl s) fails

/-- Once one page can be compiled nothing is refused any more. The induction is on the steps; where
there is one, there is a page to send. -/
theorem ends_readPages (connected : s.replies ≠ none) (unbounded : s.log.maxEntries = none)
    {size : Int} {base : Query} (steps page : Nat) (verdicts : List Value)
    (compiles : ∀ page, ∃ statement,
      (chunkQuery base size page).compileSelect s.builder.dialect = .ok statement)
    (planned : ∀ pages, (pages = [] → steps = 0) →
      s.builder.CompilesPages base size page pages → plan pages) :
    Ends s plan (fun _ => False) (fun before result => result = (.ok (), before))
      (readPages size base steps page verdicts s) := by
  induction steps generalizing s plan page verdicts with
  | zero => exact .finished (planned [] (fun _ => rfl) .nil) (.refl s) rfl
  | succ steps ih =>
    unfold readPages
    have one (statement : Statement)
        (made : (chunkQuery base size page).compileSelect s.builder.dialect = .ok statement) :
        plan [statement] := planned _ (by simp) (.cons made .nil)
    refine ends_sendThen connected unbounded "chunk" ?_ one ?_
    · intro e refused
      obtain ⟨statement, compiled⟩ := compiles page
      rw [compiled] at refused
      cases refused
    · intro c after statement made _ answered
      dsimp only
      split
      · exact .finished (one statement made) answered rfl
      · have handed := answered.deliver (after.delivered ++ [c.rowMaps])
        split
        · exact .finished (one statement made) handed rfl
        · refine .behind handed (ih (handed.connected connected)
            (handed.log.maxEntries.trans unbounded) (page + 1) verdicts.tail ?_ ?_)
          · rw [handed.builder]
            exact compiles
          · rw [handed.builder]
            exact fun pages _ later => planned _ (by simp) (.cons made later)

/-- A first row is asked for with one statement, whose query has a limit of one and no page. -/
theorem ends_first (connected : s.replies ≠ none) (unbounded : s.log.maxEntries = none) {j : Job}
    (asked : j.asked? s.builder.dialect s.query =
      some ({ s.query with limit := some 1, page := none }, .select)) :
    Ends s (j.Sends s.builder s.query) (fun e => ∀ name, e ≠ .recordNotFound name)
      (fun before result => before.sent ≠ s.sent ∧ ∃ row, result = (.ok row, before.reset))
      s.first := by
  have planned (statement : Statement)
      (made : ({ s.query with limit := some 1, page := none } : Query).compileSelect
        s.builder.dialect = .ok statement) : j.Sends s.builder s.query [statement] :=
    Job.sends_one asked rfl made
  unfold first
  dsimp only
  split
  · exact .refused _ (fun name => by simp)
  · refine ends_sendThen connected unbounded "first" ?_ planned ?_
    · intro e refused name same
      rw [same] at refused
      exact Query.compileSelect_ne_recordNotFound name refused
    · intro c after statement made _ answered
      refine .finished (planned statement made) answered ⟨?_, _, rfl⟩
      rw [answered.sent]
      simp

/-- A read by pages is refused before its first page or sends page after page. -/
theorem ends_chunk (connected : s.replies ≠ none) (unbounded : s.log.maxEntries = none)
    (size : Value) (verdicts : List Value) :
    Ends s ((Job.chunk size verdicts).Sends s.builder s.query) (fun _ => True)
      (fun before result => result = (.ok (), before.reset)) (s.chunk size verdicts) := by
  unfold chunk
  split
  · rename_i n
    split
    · exact .refused _ trivial
    · cases compiled : (chunkQuery s.query n 1).compileSelect s.builder.dialect with
      | error e =>
        -- The first page cannot be compiled, so the first step ends the read.
        have refused : readPages n s.query ((s.replies.getD []).length + 1) 1 verdicts s =
            (.error e, s) := by
          simp only [readPages, sendThen, compiled]
        rw [refused]
        exact .refused e trivial
      | ok statement =>
        have planned (pages : List Statement)
            (present : pages = [] → (s.replies.getD []).length + 1 = 0)
            (each : s.builder.CompilesPages s.query n 1 pages) :
            (Job.chunk (.int n) verdicts).Sends s.builder s.query pages :=
          .pages (fun none => by cases present none) each
        have read := ends_readPages connected unbounded ((s.replies.getD []).length + 1) 1 verdicts
          (exists_compileSelect_page compiled) planned
        generalize readPages n s.query ((s.replies.getD []).length + 1) 1 verdicts s = result at read
        refine read.followed ?_ ?_ ?_
        · rintro e after rfl
          rfl
        · exact fun _ _ => trivial
        · rintro before rfl
          rfl
  · exact .refused _ trivial

end Steps

variable {j : Job}

/-- Work has come to its end: nothing but the fresh query is left to do, and if the outcome is an
error something was asked for in vain. -/
structure Closes (s : Session) (j : Job) (before : Session)
    (result : Except Error Answer × Session) : Prop where
  settles : j.Settles result.1
  fresh : result.2 = before.reset
  asked : ∀ e, result.1 = .error e → before.sent ≠ s.sent

theorem closes_answer (answer : Answer) : s.Closes j before (.ok answer, before.reset) where
  settles := trivial
  fresh := rfl
  asked := fun e h => by cases h

theorem reads_replyAt (reads : ∀ c, Reply.cursor c ∈ s.replies.getD [] → j.Reads c) {k : Nat}
    {c : Cursor} (reply : s.replyAt k = .cursor c) : j.Reads c := by
  unfold replyAt at reply
  rw [List.getD_eq_getElem?_getD] at reply
  cases found : (s.replies.getD [])[k]? with
  | none =>
    rw [found] at reply
    cases reply
    exact j.reads_empty
  | some r =>
    rw [found] at reply
    cases reply
    exact reads c (List.mem_of_getElem? found)

/-- Work that asks with one statement ends with the answer that is read off the reply. -/
theorem ends_answered (kind : j ≠ .firstOrFail) (connected : s.replies ≠ none)
    (unbounded : s.log.maxEntries = none) (operation : String) {compiled : Except Error Statement}
    (planned : ∀ statement, compiled = .ok statement → j.Sends s.builder s.query [statement])
    {next : Session → Cursor → Except Error Answer × Session}
    (answers : ∀ c after, s.replyAt 0 = .cursor c →
      ∃ answer, next after c = (.ok answer, after.reset)) :
    Ends s (j.Sends s.builder s.query) (fun e => ¬ j.Settles (.error e)) (s.Closes j)
      (s.sendThen operation compiled next) := by
  refine ends_sendThen connected unbounded operation (fun e _ => Job.not_settles kind e) planned ?_
  intro c after statement made reply answered
  obtain ⟨answer, closed⟩ := answers c after reply
  rw [closed]
  exact .finished (planned statement made) answered (closes_answer answer)

/-- A change sends the one statement of its request. -/
theorem ends_changed (kind : j ≠ .firstOrFail) (connected : s.replies ≠ none)
    (unbounded : s.log.maxEntries = none) (operation : String) {compiled : Except Error Statement}
    {r : Request} (asked : j.asked? s.builder.dialect s.query = some (s.query, r))
    (same : s.builder.compile s.query r = compiled.map ([·])) :
    Ends s (j.Sends s.builder s.query) (fun e => ¬ j.Settles (.error e)) (s.Closes j)
      (s.change operation compiled) :=
  ends_answered kind connected unbounded operation (fun _ => Job.sends_one asked same)
    fun _ _ _ => ⟨_, rfl⟩

/-- Every piece of work of the query builder ends in one of the three ways. -/
theorem ends_work (connected : s.replies ≠ none) (unbounded : s.log.maxEntries = none)
    (built : ∀ sql params, j ≠ .execute sql params)
    (reads : ∀ c, Reply.cursor c ∈ s.replies.getD [] → j.Reads c) :
    Ends s (j.Sends s.builder s.query) (fun e => ¬ j.Settles (.error e)) (s.Closes j)
      (s.work j) := by
  cases j with
  | get =>
    exact ends_answered (by simp) connected unbounded "select" (fun _ => Job.sends_one rfl rfl)
      fun _ _ _ => ⟨_, rfl⟩
  | first =>
    have ends := ends_first connected unbounded (j := .first) rfl
    rw [work]
    generalize s.first = result at ends
    refine ends.followed ?_ ?_ ?_
    · rintro e after rfl
      rfl
    · exact fun e _ => Job.not_settles (by simp) e
    · rintro before ⟨-, row, rfl⟩
      exact closes_answer _
  | firstOrFail =>
    have ends := ends_first connected unbounded (j := .firstOrFail) rfl
    rw [work]
    generalize s.first = result at ends
    refine ends.followed ?_ ?_ ?_
    · rintro e after rfl
      rfl
    · intro e other settled
      cases e with
      | recordNotFound name => exact other name rfl
      | _ => exact settled
    · rintro before ⟨asked, row, rfl⟩
      cases row with
      | none => exact ⟨rfl, rfl, fun _ _ => asked⟩
      | some row => exact closes_answer _
  | count column =>
    refine ends_answered (by simp) connected unbounded "count" (fun _ => Job.sends_one rfl rfl) ?_
    intro c after reply
    have counts := (reads_replyAt reads reply).counts column rfl
    cases head : c.rows.head? with
    | none => exact ⟨_, rfl⟩
    | some row =>
      rcases counts row head with absent | ⟨n, number⟩
      · simp only [absent]
        exact ⟨_, rfl⟩
      · simp only [number, bind, Except.bind, Value.toCount_int]
        exact ⟨_, rfl⟩
  | pluck column =>
    have one (statement : Statement)
        (made : (do
          let text ← s.builder.dialect.column column
          { s.query with columns := [text] }.compileSelect s.builder.dialect) = .ok statement) :
        (Job.pluck column).Sends s.builder s.query [statement] := by
      obtain ⟨text, quoted, made⟩ := bind_eq_ok.mp made
      refine Job.sends_one (r := .select) ?_ rfl made
      rw [Job.asked?, quoted]
      rfl
    refine ends_answered (by simp) connected unbounded "pluck" one ?_
    intro c after reply
    have values : ∃ values, c.rows.mapM Cursor.firstValue = .ok values :=
      exists_mapM_eq_ok fun row member => (reads_replyAt reads reply).firstValue member
    obtain ⟨values, plucked⟩ := values
    simp only [plucked]
    exact ⟨_, rfl⟩
  | «exists» =>
    exact ends_answered (by simp) connected unbounded "exists" (fun _ => Job.sends_one rfl rfl)
      fun _ _ _ => ⟨_, rfl⟩
  | insert records =>
    rw [work]
    cases compiled : s.builder.compile s.query (.insert records) with
    | error e => exact .refused e (Job.not_settles (by simp) e)
    | ok statements =>
      have ends := ends_sendAll connected unbounded "insert" none statements
        (Job.Sends.request (j := .insert records) rfl compiled)
      dsimp only
      generalize s.sendAll "insert" none statements = result at ends
      refine ends.followed ?_ ?_ ?_
      · rintro e after rfl
        rfl
      · exact fun _ impossible => impossible.elim
      · rintro before ⟨last, rfl⟩
        exact closes_answer _
  | update values => exact ends_changed (by simp) connected unbounded _ rfl rfl
  | delete => exact ends_changed (by simp) connected unbounded _ rfl rfl
  | restore => exact ends_changed (by simp) connected unbounded _ rfl rfl
  | increment column amount extra => exact ends_changed (by simp) connected unbounded _ rfl rfl
  | decrement column amount extra => exact ends_changed (by simp) connected unbounded _ rfl rfl
  | chunk size verdicts =>
    have ends := ends_chunk connected unbounded size verdicts
    rw [work]
    generalize s.chunk size verdicts = result at ends
    refine ends.followed ?_ ?_ ?_
    · rintro e after rfl
      rfl
    · exact fun e _ => Job.not_settles (by simp) e
    · rintro before rfl
      exact closes_answer _
  | execute sql params => exact absurd rfl (built sql params)

theorem ends_perform (unbounded : s.log.maxEntries = none)
    (built : ∀ sql params, j ≠ .execute sql params)
    (reads : ∀ c, Reply.cursor c ∈ s.replies.getD [] → j.Reads c) :
    Ends s (j.Sends s.builder s.query) (fun e => ¬ j.Settles (.error e)) (s.Closes j)
      (s.perform j) := by
  unfold perform
  cases script : s.replies with
  | none => exact .refused _ id
  | some replies => exact ends_work (by rw [script]; simp) unbounded built reads

/-- The execution protocol. Let the log be unbounded. What work sends is compiled from its request,
in order. Work that fails before it has sent a statement changes nothing at all. If one of its
statements fails, that was the last one sent, its fault is passed on, the query is as before and just
the statements in front of it are logged. Work that comes to its end has sent all of its statements,
leaves a fresh query and has logged every one. There is no fourth way. -/
theorem perform_protocol (unbounded : s.log.maxEntries = none)
    (built : ∀ sql params, j ≠ .execute sql params)
    (reads : ∀ c, Reply.cursor c ∈ s.replies.getD [] → j.Reads c) :
    ∃ outcome after statements, s.perform j = (outcome, after) ∧
      after.sent = s.sent ++ statements ∧
      (statements ≠ [] → ∃ more, j.Sends s.builder s.query (statements ++ more)) ∧
      (∀ e, outcome = .error e → statements = [] → after = s) ∧
      (∀ k text, k < statements.length → s.faultAt? k = some text →
        k + 1 = statements.length ∧ outcome = .error (.driverFault text) ∧
        after.query = s.query ∧
        s.log.Grows s.connectionName (s.entries (statements.take k)) after.log) ∧
      (j.Settles outcome → j.Sends s.builder s.query statements ∧ after.query = {} ∧
        s.log.Grows s.connectionName (s.entries statements) after.log) ∧
      (j.Settles outcome ∨ (∃ e, outcome = .error e ∧ statements = []) ∨
        ∃ k text, k < statements.length ∧ s.faultAt? k = some text) := by
  have ends := ends_perform unbounded built reads
  cases performed : s.perform j with
  | mk outcome after =>
    rw [performed] at ends
    cases ends with
    | refused e refuses =>
      refine ⟨_, _, [], rfl, (List.append_nil _).symm, fun present => absurd rfl present,
        fun _ _ _ => rfl, ?_, ?_, ?_⟩
      · intro k text inside
        cases inside
      · intro settled
        exact absurd settled refuses
      · exact Or.inr (Or.inl ⟨e, rfl, rfl⟩)
    | @failed earlier more last text before _ planned answered fails =>
      have fault : s.faultAt? earlier.length = some text := by
        rw [← fails.fault, answered.faultAt?, Nat.add_zero]
      have sent : after.sent = s.sent ++ (earlier ++ [last]) := by
        rw [fails.sent, answered.sent, List.append_assoc]
      refine ⟨_, _, earlier ++ [last], rfl, sent, ?_, ?_, ?_, ?_, ?_⟩
      · refine fun _ => ⟨more, ?_⟩
        rwa [List.append_assoc]
      · intro e _ nothing
        simp at nothing
      · intro k other inside found
        rw [List.length_append, List.length_singleton] at inside ⊢
        -- The statements in front of the last one have been answered.
        obtain rfl : k = earlier.length := by
          by_contra apart
          rw [answered.unfailing k (by omega)] at found
          cases found
        rw [fault] at found
        cases found
        rw [List.take_left, fails.log]
        exact ⟨rfl, rfl, fails.query.trans answered.query, answered.log⟩
      · intro settled
        exact settled.elim
      · exact Or.inr (Or.inr ⟨earlier.length, text, by simp, fault⟩)
    | @finished statements before _ planned answered done =>
      obtain ⟨settled, rfl, asked⟩ := done
      refine ⟨_, _, statements, rfl, answered.sent, ?_, ?_, ?_, ?_, Or.inl settled⟩
      · refine fun _ => ⟨[], ?_⟩
        rwa [List.append_nil]
      · rintro e failed rfl
        refine absurd ?_ (asked e failed)
        rw [answered.sent, List.append_nil]
      · intro k text inside found
        rw [answered.unfailing k inside] at found
        cases found
      · exact fun _ => ⟨planned, rfl, answered.log⟩

/-- A session whose connection is lost behind the first page of a read. -/
def lostPage : Session :=
  Session.play
    { builder := { dialect := Dialect.mysql }
      replies := some
        [.cursor { rows := [.tuple [.int 1]], columns := ["id"] }, .fault "server has gone away"]
      log := {} }
    [.clause (.table "users"), .clause (.order "id" (.text "ASC")), .clause (.limit (.int 7))]

theorem perform_protocol_lostPage :
    ∃ after, lostPage.perform (.chunk (.int 1) []) =
        (.error (.driverFault "server has gone away"), after) ∧
      after.query = lostPage.query ∧
      (after.log.get "default").length = (lostPage.log.get "default").length + 1 := by
  have reads : ∀ c, Reply.cursor c ∈ lostPage.replies.getD [] →
      (Job.chunk (.int 1) []).Reads c := by
    intro c member
    obtain rfl : c = { rows := [.tuple [.int 1]], columns := ["id"] } := by
      simpa [lostPage, play, act] using member
    refine ⟨?_, fun column chunked => by cases chunked⟩
    intro row member
    obtain rfl := List.mem_singleton.mp member
    exact ⟨_, _, rfl⟩
  obtain ⟨outcome, after, statements, performed, sent, -, -, failed, -, -⟩ :=
    perform_protocol (j := .chunk (.int 1) []) rfl (fun _ _ other => by cases other) reads
  have two : statements.length = 2 := by
    have count : (lostPage.perform (.chunk (.int 1) [])).2.sent.length = 2 := by decide +kernel
    rw [performed, sent] at count
    simpa [lostPage, play, act] using count
  obtain ⟨-, rfl, query, log⟩ := failed 1 "server has gone away" (by omega) (by rfl)
  have own : after.log.get "default" =
      lostPage.log.get "default" ++ lostPage.entries (statements.take 1) := log.own
  refine ⟨after, performed, query, ?_⟩
  rw [own, List.length_append, entries, List.length_mapIdx, List.length_take, two]
  rfl

end Session

end Sqlwright
