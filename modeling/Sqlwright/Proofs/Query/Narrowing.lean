import Sqlwright.Proofs.Query.Mutation

/-!
What a statement that changes rows makes of the other clauses that narrow a SELECT. Beside a join it
is refused; groups, conditions on groups, a limit and a page are neither written nor refused, so the
statement is the one without them. Main statement: `Session.mutation_heeds_joins_alone`.
-/

namespace Sqlwright

/-- The steps that leave a SELECT fewer rows by something else than a condition or a join. -/
def Clause.Narrows : Clause → Prop
  | .groupBy _ | .having _ _ | .limit _ | .page _ => True
  | _ => False

namespace Query

def widened (q : Query) : Query :=
  { q with groups := [], havings := [], limit := none, page := none }

/-- Queries that agree in all that a statement to change rows is made of. -/
structure SameTarget (q other : Query) : Prop where
  table : other.table = q.table
  conditions : other.conditions = q.conditions
  joins : other.joins = q.joins
  softDelete : other.softDelete = q.softDelete

variable {q next other : Query}

theorem SameTarget.refl (q : Query) : q.SameTarget q := ⟨rfl, rfl, rfl, rfl⟩

theorem SameTarget.trans (first : q.SameTarget next) (second : next.SameTarget other) :
    q.SameTarget other where
  table := second.table.trans first.table
  conditions := second.conditions.trans first.conditions
  joins := second.joins.trans first.joins
  softDelete := second.softDelete.trans first.softDelete

theorem sameTarget_widened (q : Query) : q.SameTarget q.widened := ⟨rfl, rfl, rfl, rfl⟩

namespace SameTarget

variable {d : Dialect} (same : q.SameTarget other)

include same

theorem guardMutation (operation : String) :
    other.guardMutation operation = q.guardMutation operation := by
  simp only [Query.guardMutation, requireTable, same.table, same.conditions, same.joins]

theorem whereSql : other.whereSql = q.whereSql := by
  simp only [Query.whereSql, whereTexts, same.conditions]

theorem whereParams : other.whereParams = q.whereParams := by
  simp only [Query.whereParams, same.conditions]

theorem compileUpdate (values : Row) : other.compileUpdate d values = q.compileUpdate d values := by
  simp only [Query.compileUpdate, updateSql, same.guardMutation, same.whereSql, same.whereParams]

theorem compileStep (column : String) (amount : Value) (extra : Row) (operator : String) :
    other.compileStep d column amount extra operator =
      q.compileStep d column amount extra operator := by
  simp only [Query.compileStep, updateSql, same.guardMutation, same.whereSql, same.whereParams]

theorem compileDelete : other.compileDelete = q.compileDelete := by
  simp only [Query.compileDelete, same.guardMutation, same.whereSql, same.whereParams]

/-- A request to change rows compiles to the same statement, or is refused for the same reason. -/
theorem compile {b : Builder} {r : Request} {guard : String} (changes : r.guardName q = some guard) :
    b.compile other r = b.compile q r := by
  cases r with
  | select | count column | «exists» | insert records => cases changes
  | update values | restore => simp only [Builder.compile, same.compileUpdate]
  | delete =>
    simp only [Builder.compile, Builder.compileDelete, same.softDelete, same.compileUpdate,
      same.compileDelete]
  | step column amount extra operator => simp only [Builder.compile, same.compileStep]

end SameTarget

end Query

namespace Clause

variable {b : Builder} {q : Query} {c : Clause}

/-- A narrowing step, accepted or refused, touches nothing of what rows are changed by. -/
theorem Narrows.sameTarget (h : c.Narrows) : q.SameTarget (c.apply b q).2 := by
  cases c with
  | groupBy columns =>
    refine addEach_keeps (.refl q) fun middle column _ next kept added => ?_
    obtain ⟨text, -, rfl⟩ := addGroup_eq_ok added
    have here : middle.SameTarget { middle with groups := middle.groups ++ [text] } :=
      ⟨rfl, rfl, rfl, rfl⟩
    exact kept.trans here
  | having column comparand =>
    refine attempt_keeps (.refl q) fun next added => ?_
    obtain ⟨operator, text, -, -, rfl⟩ := addHaving_eq_ok added
    exact ⟨rfl, rfl, rfl, rfl⟩
  | limit given =>
    refine attempt_keeps (.refl q) fun next set => ?_
    obtain ⟨n, -, rfl⟩ := setLimit_eq_ok set
    exact ⟨rfl, rfl, rfl, rfl⟩
  | page given =>
    refine attempt_keeps (.refl q) fun next set => ?_
    obtain ⟨n, -, -, rfl⟩ := setPage_eq_ok set
    exact ⟨rfl, rfl, rfl, rfl⟩
  | _ => exact h.elim

end Clause

namespace Session

variable {s : Session} {j : Job} {r : Request} {guard : String}

/-- Steps that narrow what is selected leave the table, the conditions and the joins as they are. -/
theorem sameTarget_play {steps : List Clause} (narrowing : ∀ c ∈ steps, c.Narrows) :
    s.query.SameTarget (s.play (steps.map .clause)).query := by
  induction steps generalizing s with
  | nil => exact .refl s.query
  | cons c rest ih =>
    have here : s.query.SameTarget (s.act (.clause c)).query :=
      (narrowing c (by simp)).sameTarget
    have later := ih (s := s.act (.clause c)) fun other member => narrowing other (by simp [member])
    exact here.trans later

/-- Steps change nothing of a session but its query. -/
theorem play_clauses (s : Session) (steps : List Clause) :
    s.play (steps.map .clause) = { s with query := (s.play (steps.map .clause)).query } := by
  induction steps generalizing s with
  | nil => rfl
  | cons c rest ih => exact ih (s.act (.clause c))

/-- What is sent does not depend on the query, which is handed through. -/
theorem send_query (s : Session) (q : Query) (operation : String) (statement : Statement) :
    { s with query := q }.send operation statement =
      ((s.send operation statement).1, { (s.send operation statement).2 with query := q }) := by
  cases connected : s.replies with
  | none => simp only [send, connected]
  | some replies =>
    cases reply : replies.headD (.cursor {}) with
    | fault text => simp only [send, connected, reply]
    | cursor c => simp only [send, connected, reply]

/-- What a change answers and sends does not depend on the query that is left. -/
theorem change_query (s : Session) (q : Query) (operation : String)
    (compiled : Except Error Statement) :
    ({ s with query := q }.change operation compiled).1 = (s.change operation compiled).1 ∧
      ({ s with query := q }.change operation compiled).2.sent =
        (s.change operation compiled).2.sent := by
  cases compiled with
  | error e => exact ⟨rfl, rfl⟩
  | ok statement =>
    simp only [change, sendThen, send_query]
    cases s.send operation statement with
    | mk outcome after =>
      cases outcome with
      | error e => exact ⟨rfl, rfl⟩
      | ok c => exact ⟨rfl, rfl⟩

/-- Work that changes rows does the same for queries that agree in what rows are changed by. -/
theorem perform_sameTarget {other : Query} (same : s.query.SameTarget other)
    (asked : j.request? = some r) :
    ({ s with query := other }.perform j).1 = (s.perform j).1 ∧
      ({ s with query := other }.perform j).2.sent = (s.perform j).2.sent := by
  have work : ∃ compiled, s.work j = s.change j.operation compiled ∧
      { s with query := other }.work j =
        { s with query := other }.change j.operation compiled := by
    cases j with
    | update values =>
      refine ⟨_, rfl, ?_⟩
      rw [Session.work, same.compileUpdate]
      rfl
    | delete =>
      refine ⟨_, rfl, ?_⟩
      rw [Session.work, Builder.compileDelete, same.softDelete, same.compileUpdate,
        same.compileDelete]
      rfl
    | restore =>
      refine ⟨_, rfl, ?_⟩
      rw [Session.work, same.compileUpdate]
      rfl
    | increment column amount extra =>
      refine ⟨_, rfl, ?_⟩
      rw [Session.work, same.compileStep]
      rfl
    | decrement column amount extra =>
      refine ⟨_, rfl, ?_⟩
      rw [Session.work, same.compileStep]
      rfl
    | _ => cases asked
  obtain ⟨compiled, here, there⟩ := work
  unfold perform
  dsimp only
  split
  · exact ⟨rfl, rfl⟩
  · rw [here, there]
    exact s.change_query other _ compiled

/-- Of all clauses that narrow a SELECT beside its conditions, a request to change rows heeds the
joins alone: beside one it is refused. Without groups, conditions on groups, limit and page it
compiles to the same statement; however steps add to them, it compiles to the same one as before, and
the work for it sends the same and has the same answer. -/
theorem mutation_heeds_joins_alone (reached : s.Reachable)
    (changes : r.guardName s.query = some guard) :
    (s.query.table ≠ none → s.query.conditions ≠ [] → s.query.joins ≠ [] →
      s.builder.compile s.query r = .error (.joinedMutation guard)) ∧
    (∀ statements, s.builder.compile s.query r = .ok statements → s.query.joins = []) ∧
    s.builder.compile s.query.widened r = s.builder.compile s.query r ∧
    ∀ steps : List Clause, (∀ c ∈ steps, c.Narrows) →
      let after := s.play (steps.map .clause)
      s.builder.compile after.query r = s.builder.compile s.query r ∧
      ∀ j, j.request? = some r →
        (after.perform j).1 = (s.perform j).1 ∧ (after.perform j).2.sent = (s.perform j).2.sent := by
  refine ⟨?_, ?_, s.query.sameTarget_widened.compile changes, ?_⟩
  · intro present filtered joined
    obtain ⟨table, named⟩ := Option.ne_none_iff_exists'.mp present
    have usable := reached.wellFormed.requireTable named
    exact Builder.compile_guarded changes (Query.guardMutation_joined usable filtered joined)
  · intro statements compiled
    obtain ⟨table, assignments, guarded, -, -⟩ := Builder.compile_mutation changes compiled
    exact (Query.guardMutation_eq_ok.mp guarded).2.2
  · intro steps narrowing after
    have same : s.query.SameTarget after.query := sameTarget_play narrowing
    refine ⟨same.compile changes, ?_⟩
    intro j asked
    have kept : after = { s with query := after.query } := s.play_clauses steps
    rw [kept]
    exact perform_sameTarget same asked

/-- A session in which rows with a high number are to be deleted, but at most one of them. -/
def oneOfMany : Session :=
  Session.play { builder := { dialect := Dialect.sqlite }, replies := some [], log := {} }
    [.clause (.table "users"), .clause (.compare "id" (.by (.text ">") (.int 5)) (.text "AND")),
      .clause (.groupBy ["team"]), .clause (.having "COUNT(*)" (.by (.text ">") (.int 1))),
      .clause (.limit (.int 1)), .clause (.page (.int 1))]

theorem mutation_heeds_joins_alone_oneOfMany :
    oneOfMany.builder.compile oneOfMany.query.widened .delete =
        oneOfMany.builder.compile oneOfMany.query .delete ∧
      ((oneOfMany.act (.clause (.limit (.int 0)))).perform .delete).2.sent =
        (oneOfMany.perform .delete).2.sent := by
  have reached : oneOfMany.Reachable := ⟨_, _, rfl, rfl⟩
  have changes : Request.delete.guardName oneOfMany.query = some "delete" := by decide +kernel
  obtain ⟨-, -, widened, steps⟩ := mutation_heeds_joins_alone reached changes
  have narrowing : ∀ c ∈ [Clause.limit (.int 0)], c.Narrows := by simp [Clause.Narrows]
  exact ⟨widened, ((steps _ narrowing).2 .delete rfl).2⟩

/-- The limit is forgotten: every row that fulfils the condition is deleted. -/
theorem mutation_unbounded_oneOfMany :
    oneOfMany.Reachable ∧ oneOfMany.query.limit = some 1 ∧ oneOfMany.query.page = some 1 ∧
      oneOfMany.query.groups = ["\"team\""] ∧ oneOfMany.query.havings.length = 1 ∧
      (oneOfMany.builder.compile oneOfMany.query .delete).toOption.map (·.map (·.sql)) =
        some ["DELETE FROM \"users\" WHERE \"id\" > ?"] := by
  refine ⟨⟨_, _, rfl, rfl⟩, ?_⟩
  decide +kernel

end Session

end Sqlwright
