import Sqlwright.Dialect.BuiltIn
import Sqlwright.Proofs.Query.Independence

/-!
Bound values never reach the text of a statement. Two sessions that make the same calls but for
bound values (`Call.Alike`), with connections that give the same replies, go on alike: the same calls
are refused with the same errors, the connections are sent the same SQL, and every request compiles to
the same SQL. Main statement: `Session.sql_free_of_values`.
-/

namespace Sqlwright

namespace Session

/-- Sessions over queries of the same text that have sent the same SQL and await the same replies.
Their clocks need not agree. -/
structure Alike (s s' : Session) : Prop where
  dialect : s.builder.dialect = s'.builder.dialect
  settings : s.builder.settings = s'.builder.settings
  query : s.query.SameText s'.query
  replies : s.replies = s'.replies
  sent : s.sent.map (·.sql) = s'.sent.map (·.sql)
  delivered : s.delivered = s'.delivered

/-- Results of work in two sessions: the same answer or error, and sessions that are alike. -/
inductive SameResult {α : Type} : Except Error α × Session → Except Error α × Session → Prop
  | error (e : Error) {s s' : Session} (h : s.Alike s') : SameResult (.error e, s) (.error e, s')
  | ok (a : α) {s s' : Session} (h : s.Alike s') : SameResult (.ok a, s) (.ok a, s')

theorem SameResult.answer {α : Type} {r r' : Except Error α × Session} (h : SameResult r r') :
    r.1 = r'.1 := by
  cases h <;> rfl

theorem SameResult.sessions {α : Type} {r r' : Except Error α × Session} (h : SameResult r r') :
    r.2.Alike r'.2 := by
  cases h with
  | error e sessions => exact sessions
  | ok a sessions => exact sessions

theorem SameResult.of_eq {α : Type} {answer answer' : Except Error α} {s s' : Session}
    (same : answer = answer') (h : s.Alike s') : SameResult (answer, s) (answer', s') := by
  subst same
  cases answer with
  | error e => exact .error e h
  | ok a => exact .ok a h

namespace Alike

variable {s s' : Session}

theorem refl (s : Session) : s.Alike s where
  dialect := rfl
  settings := rfl
  query := .refl s.query
  replies := rfl
  sent := rfl
  delivered := rfl

/-- The builders differ in the time of day at most. -/
theorem builder (h : s.Alike s') : s'.builder = { s.builder with now := s'.builder.now } := by
  change s'.builder = ⟨s.builder.dialect, s.builder.settings, s'.builder.now⟩
  rw [h.dialect, h.settings]

theorem reset (h : s.Alike s') : s.reset.Alike s'.reset := { h with query := .refl {} }

/-- A request of the same shape comes to the same texts in both sessions. -/
theorem compile (h : s.Alike s') {r r' : Request} (alike : r.Alike r') :
    Agree (fun statements statements' => statements.map (·.sql) = statements'.map (·.sql))
      (s.builder.compile s.query r) (s'.builder.compile s'.query r') := by
  rw [h.builder]
  exact Builder.agree_compile h.query alike

theorem send (h : s.Alike s') (operation : String) {statement statement' : Statement}
    (same : Query.SameSql statement statement') :
    SameResult (s.send operation statement) (s'.send operation statement') := by
  have sent : (s.sent ++ [statement]).map (·.sql) = (s'.sent ++ [statement']).map (·.sql) := by
    rw [List.map_append, List.map_append, h.sent]
    exact congrArg _ (congrArg ([·]) same)
  unfold Session.send
  rw [← h.replies]
  cases s.replies with
  | none => exact .error _ h
  | some replies =>
    dsimp only
    cases replies.headD (.cursor {}) with
    | fault text => exact .error _ { h with replies := rfl, sent := sent }
    | cursor c => exact .ok c { h with replies := rfl, sent := sent }

/-- What is sent depends on the SQL alone, and what comes back on the replies. -/
theorem sendThen {α : Type} (h : s.Alike s') (operation : String)
    {compiled compiled' : Except Error Statement} (same : Agree Query.SameSql compiled compiled')
    {next next' : Session → Cursor → Except Error α × Session}
    (go : ∀ after after' c, after.Alike after' → SameResult (next after c) (next' after' c)) :
    SameResult (s.sendThen operation compiled next) (s'.sendThen operation compiled' next') := by
  unfold Session.sendThen
  cases same with
  | error e => exact .error e h
  | @ok statement statement' sql =>
    have result := h.send operation sql
    dsimp only
    generalize s.send operation statement = r at result ⊢
    generalize s'.send operation statement' = r' at result ⊢
    cases result with
    | error e sessions => exact .error e sessions
    | ok c sessions => exact go _ _ c sessions

theorem sendAll (h : s.Alike s') (operation : String) (last : Option Cursor)
    {statements statements' : List Statement}
    (same : statements.map (·.sql) = statements'.map (·.sql)) :
    SameResult (s.sendAll operation last statements) (s'.sendAll operation last statements') := by
  induction statements generalizing s s' last statements' with
  | nil =>
    obtain rfl : statements' = [] := List.map_eq_nil_iff.mp same.symm
    exact .ok last h
  | cons statement rest ih =>
    cases statements' with
    | nil => cases same
    | cons statement' rest' =>
      rw [List.map_cons, List.map_cons, List.cons.injEq] at same
      have result := h.send operation same.1
      unfold Session.sendAll
      generalize s.send operation statement = r at result ⊢
      generalize s'.send operation statement' = r' at result ⊢
      cases result with
      | error e sessions => exact .error e sessions
      | ok c sessions => exact ih sessions (some c) same.2

/-- Work that starts the query afresh once its statement is answered. -/
theorem sendThen_reset {α : Type} (h : s.Alike s') (operation : String)
    {compiled compiled' : Except Error Statement} (same : Agree Query.SameSql compiled compiled')
    (answer : Cursor → Except Error α) :
    SameResult (s.sendThen operation compiled fun after c => (answer c, after.reset))
      (s'.sendThen operation compiled' fun after c => (answer c, after.reset)) :=
  h.sendThen operation same fun _ _ _ sessions => .of_eq rfl sessions.reset

theorem select (h : s.Alike s') {q q' : Query} (same : q.SameText q') :
    Agree Query.SameSql (q.compileSelect s.builder.dialect)
      (q'.compileSelect s'.builder.dialect) := by
  rw [h.dialect]
  exact Query.agree_compileSelect same

theorem update (h : s.Alike s') {values values' : Row} (columns : SameKeys values values') :
    Agree Query.SameSql (s.query.compileUpdate s.builder.dialect values)
      (s'.query.compileUpdate s'.builder.dialect values') := by
  rw [h.dialect]
  exact Query.agree_compileUpdate h.query columns

theorem step (h : s.Alike s') (column operator : String) {amount amount' : Value}
    {extra extra' : Row} (amounts : SameAmount amount amount') (columns : SameKeys extra extra') :
    Agree Query.SameSql (s.query.compileStep s.builder.dialect column amount extra operator)
      (s'.query.compileStep s'.builder.dialect column amount' extra' operator) := by
  rw [h.dialect]
  exact Query.agree_compileStep h.query amounts columns

theorem delete (h : s.Alike s') :
    Agree Query.SameSql (s.builder.compileDelete s.query) (s'.builder.compileDelete s'.query) := by
  unfold Builder.compileDelete
  rw [← h.query.softDelete, ← h.settings]
  split
  · exact h.update rfl
  · exact Query.agree_compileDelete h.query

theorem first (h : s.Alike s') : SameResult s.first s'.first := by
  have filtered : s.query.isFiltered = s'.query.isFiltered := by
    rw [Query.isFiltered, Query.isFiltered, h.query.conditions_isEmpty]
  have limited : Query.SameText { s.query with limit := some 1, page := none }
      { s'.query with limit := some 1, page := none } :=
    { h.query with limit := rfl, page := rfl }
  unfold Session.first
  dsimp only
  rw [filtered, h.query.isOrdered]
  split
  · exact .error _ h
  · exact h.sendThen_reset "first" (h.select limited) fun c => .ok c.rowMaps.head?

/-- A read page by page goes on as long in both sessions, since the replies are the same. -/
theorem readPages (h : s.Alike s') (size : Int) {base base' : Query} (same : base.SameText base')
    (steps page : Nat) (verdicts : List Value) :
    SameResult (Session.readPages size base steps page verdicts s)
      (Session.readPages size base' steps page verdicts s') := by
  induction steps generalizing page verdicts s s' with
  | zero => exact .ok () h
  | succ steps ih =>
    have paged : (chunkQuery base size page).SameText (chunkQuery base' size page) :=
      { same with limit := rfl, page := rfl }
    refine h.sendThen "chunk" (h.select paged) ?_
    intro after after' c sessions
    have handed : Alike { after with delivered := after.delivered ++ [c.rowMaps] }
        { after' with delivered := after'.delivered ++ [c.rowMaps] } :=
      { sessions with delivered := by rw [sessions.delivered] }
    dsimp only
    split
    · exact .ok () sessions
    · split
      · exact .ok () handed
      · exact ih handed (page + 1) verdicts.tail

theorem chunk (h : s.Alike s') (size : Value) (verdicts : List Value) :
    SameResult (s.chunk size verdicts) (s'.chunk size verdicts) := by
  unfold Session.chunk
  split
  · rename_i n
    split
    · exact .error _ h
    · have result := h.readPages n h.query ((s.replies.getD []).length + 1) 1 verdicts
      rw [← h.replies]
      generalize Session.readPages n s.query _ 1 verdicts s = r at result ⊢
      generalize Session.readPages n s'.query _ 1 verdicts s' = r' at result ⊢
      cases result with
      | error e sessions => exact .error e sessions
      | ok done sessions => exact .ok done sessions.reset
  · exact .error _ h

theorem insert (h : s.Alike s') {records others : Insert.Records}
    (rows : List.Forall₂ (Option.Rel SameKeys) records others) :
    SameResult (s.work (.insert records)) (s'.work (.insert others)) := by
  have same := h.compile (.insert rows)
  unfold Session.work
  dsimp only
  generalize s.builder.compile s.query (.insert records) = compiled at same ⊢
  generalize s'.builder.compile s'.query (.insert others) = compiled' at same ⊢
  cases same with
  | error e => exact .error e h
  | @ok statements statements' texts =>
    have result := h.sendAll "insert" none texts
    dsimp only
    generalize s.sendAll "insert" none statements = r at result ⊢
    generalize s'.sendAll "insert" none statements' = r' at result ⊢
    cases result with
    | error e sessions => exact .error e sessions
    | ok last sessions => exact .ok _ sessions.reset

/-- Work that differs in bound values alone has the same result. -/
theorem work (h : s.Alike s') {j j' : Job} (alike : j.Alike j') :
    SameResult (s.work j) (s'.work j') := by
  cases alike with
  | get => exact h.sendThen_reset "select" (h.select h.query) _
  | first =>
    have result := h.first
    unfold Session.work
    dsimp only
    generalize s.first = r at result ⊢
    generalize s'.first = r' at result ⊢
    cases result with
    | error e sessions => exact .error e sessions
    | ok row sessions => exact .ok _ sessions
  | firstOrFail =>
    have result := h.first
    unfold Session.work
    dsimp only
    rw [h.query.name]
    generalize s.first = r at result ⊢
    generalize s'.first = r' at result ⊢
    cases result with
    | error e sessions => exact .error e sessions
    | ok row sessions =>
      cases row with
      | none => exact .error _ sessions
      | some row => exact .ok _ sessions
  | @count column =>
    have same : Agree Query.SameSql (s.query.compileCount s.builder.dialect column)
        (s'.query.compileCount s'.builder.dialect column) := by
      rw [h.dialect]
      exact Query.agree_compileCount h.query column
    exact h.sendThen_reset "count" same _
  | @pluck column =>
    have same : Agree Query.SameSql
        (do
          let column ← s.builder.dialect.column column
          { s.query with columns := [column] }.compileSelect s.builder.dialect)
        (do
          let column ← s'.builder.dialect.column column
          { s'.query with columns := [column] }.compileSelect s'.builder.dialect) := by
      rw [h.dialect]
      exact .after _ fun column => Query.agree_compileSelect { h.query with columns := rfl }
    refine h.sendThen "pluck" same ?_
    intro after after' c sessions
    split
    · exact .ok _ sessions.reset
    · exact .error _ sessions
  | «exists» =>
    have same : Agree Query.SameSql (s.query.compileExists s.builder.dialect)
        (s'.query.compileExists s'.builder.dialect) := by
      rw [h.dialect]
      exact Query.agree_compileExists h.query
    exact h.sendThen_reset "exists" same _
  | insert rows => exact h.insert rows
  | update columns => exact h.sendThen_reset "update" (h.update columns) _
  | delete => exact h.sendThen_reset "delete" h.delete _
  | restore =>
    have same : SameKeys [(.text s.builder.settings.deletedAtColumn, .null)]
        [(.text s'.builder.settings.deletedAtColumn, .null)] := by rw [h.settings]; rfl
    exact h.sendThen_reset "restore" (h.update same) _
  | increment amounts columns =>
    exact h.sendThen_reset "increment" (h.step _ "+" amounts columns) _
  | decrement amounts columns =>
    exact h.sendThen_reset "decrement" (h.step _ "-" amounts columns) _
  | @chunk size verdicts =>
    have result := h.chunk size verdicts
    unfold Session.work
    dsimp only
    generalize s.chunk size verdicts = r at result ⊢
    generalize s'.chunk size verdicts = r' at result ⊢
    cases result with
    | error e sessions => exact .error e sessions
    | ok done sessions => exact .ok _ sessions
  | @execute sql params others =>
    have same : Agree Query.SameSql (.ok ⟨sql, params⟩ : Except Error Statement)
        (.ok ⟨sql, others⟩) := .ok rfl
    exact h.sendThen "execute" same fun _ _ c sessions => .ok (Answer.cursor c) sessions

/-- Every piece of work ends alike and leaves sessions that are alike. -/
theorem perform (h : s.Alike s') {j j' : Job} (alike : j.Alike j') :
    SameResult (s.perform j) (s'.perform j') := by
  unfold Session.perform
  rw [← h.replies, alike.operation]
  split
  · exact .error _ h
  · exact h.work alike

/-- A call that is about the query alone. -/
theorem apply (h : s.Alike s') {call call' : Call} (alike : call.Alike call') :
    Outcome.Alike (s.builder.apply s.query call) (s'.builder.apply s'.query call') := by
  rw [h.builder]
  exact Builder.alike_apply h.query call alike

theorem act (h : s.Alike s') (call : Call) {call' : Call} (alike : call.Alike call') :
    (s.act call).Alike (s'.act call') := by
  cases alike with
  | clause alike => exact { h with query := (h.apply (.clause alike)).query }
  | group alike connector => exact { h with query := (h.apply (.group alike connector)).query }
  | request alike => exact { h with query := (h.apply (.request alike)).query }
  | job alike => exact (h.perform alike).sessions
  | @tolerated call _ alike =>
    have same := h.act call alike
    exact same

/-- However long they go on, two sessions with the same calls but for bound values stay alike. -/
theorem play (h : s.Alike s') {calls calls' : List Call} (alike : Call.AllAlike calls calls') :
    (s.play calls).Alike (s'.play calls') := by
  induction calls generalizing s s' calls' with
  | nil =>
    cases alike
    exact h
  | cons call rest ih =>
    obtain _ | ⟨here, later⟩ := alike
    exact ih (h.act call here) later

end Alike

/-- Whether a call is accepted, or the error that it is refused with. -/
def outcome (s : Session) : Call → Except Error Unit
  | .job j => (s.perform j).1.map fun _ => ()
  | .tolerated _ => .ok ()
  | call => (s.builder.apply s.query call).1

/-- Calls of the same shape are accepted alike, or refused with the same error. -/
theorem Alike.outcome {s s' : Session} (h : s.Alike s') {call call' : Call}
    (alike : call.Alike call') : s.outcome call = s'.outcome call' := by
  cases alike with
  | clause same => exact (h.apply (.clause same)).result
  | group same connector => exact (h.apply (.group same connector)).result
  | request same => exact (h.apply (.request same)).result
  | job same => exact congrArg (Except.map fun _ => ()) (h.perform same).answer
  | tolerated same => rfl

/-- In two sessions with the same calls but for bound values, and with connections that give the same
replies, the same SQL is sent, each next call is accepted in both or refused in both with the same
error, and each request compiles to the same SQL in both or is refused in both with the same
error. -/
theorem sql_free_of_values {s s' : Session} (start : s.Alike s') {calls calls' : List Call}
    (alike : Call.AllAlike calls calls') :
    (s.play calls).sent.map (·.sql) = (s'.play calls').sent.map (·.sql) ∧
    (∀ call call', Call.Alike call call' →
      (s.play calls).outcome call = (s'.play calls').outcome call') ∧
    ∀ r r', Request.Alike r r' →
      Agree (fun statements statements' => statements.map (·.sql) = statements'.map (·.sql))
        ((s.play calls).builder.compile (s.play calls).query r)
        ((s'.play calls').builder.compile (s'.play calls').query r') := by
  have same := start.play alike
  exact ⟨same.sent, fun _ _ => same.outcome, fun _ _ => same.compile⟩

/-- Calls whose values come from outside: in a condition given without an operator, in a mapping, in
parentheses, in a list, for groups, and for a row that is sent to the connection. -/
def outsideCalls (name owner city total : String) : List Call :=
  [.clause (.table "cities"), .job (.insert [some [(.text "name", .text city)]]),
    .clause (.table "users u"),
    .clause (.compare "u.name" (.equalTo (.text name)) (.text "AND")),
    .clause (.compareAll [(.text "a", .text name), (.text "b", .null)] (.text "AND")),
    .group
      [.clause (.compare "owner" (.by (.text "<>") (.text owner)) (.text "AND")),
        .clause (.membership "city" [.text city, .null] false (.text "OR"))] (.text "OR"),
    .clause (.having "COUNT(u.id)" (.by (.text ">") (.text total)))]

def connectedAt (now : String) : Session :=
  { builder := { dialect := Dialect.mysql, now }, replies := some [.cursor {}], log := {} }

def mildSession : Session := (connectedAt "noon").play (outsideCalls "alice" "bob" "Bern" "7")

def wildSession : Session :=
  (connectedAt "night").play (outsideCalls "x' OR '1'='1" "; --" "`" "?")

theorem sql_free_of_values_outsideCalls :
    mildSession.sent.length = 1 ∧ mildSession.sent.map (·.sql) = wildSession.sent.map (·.sql) ∧
      ∃ statements statements',
        mildSession.builder.compile mildSession.query .select = .ok statements ∧
        wildSession.builder.compile wildSession.query .select = .ok statements' ∧
        statements.map (·.sql) = statements'.map (·.sql) := by
  have start : (connectedAt "noon").Alike (connectedAt "night") :=
    { Alike.refl (connectedAt "noon") with }
  have alike : Call.AllAlike (outsideCalls "alice" "bob" "Bern" "7")
      (outsideCalls "x' OR '1'='1" "; --" "`" "?") := by
    refine .cons (.clause (.same _)) (.cons (.job (.insert (.cons (.some rfl) .nil)))
      (.cons (.clause (.same _)) (.cons (.clause (.compare ⟨rfl, rfl⟩)) (.cons ?_
        (.cons (.group ?_ _) (.cons (.clause (.having rfl)) .nil))))))
    · exact .clause (.compareAll (.cons ⟨rfl, rfl⟩ (.cons ⟨rfl, rfl⟩ .nil)))
    · exact .cons (.clause (.compare ⟨rfl, rfl⟩)) (.cons (.clause (.membership rfl)) .nil)
  have accepted : (mildSession.builder.compile mildSession.query .select).isOk = true := by
    decide +kernel
  obtain ⟨statements, compiled⟩ := exists_of_isOk accepted
  obtain ⟨sent, -, compiles⟩ := sql_free_of_values start alike
  have agree := compiles _ _ .select
  change Agree _ (mildSession.builder.compile mildSession.query .select) _ at agree
  rw [compiled] at agree
  obtain ⟨statements', compiled', texts⟩ := agree.exists_ok
  exact ⟨by decide +kernel, sent, statements, statements', compiled, compiled', texts⟩

end Session

end Sqlwright
