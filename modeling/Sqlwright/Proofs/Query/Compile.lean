import Sqlwright.Proofs.Query.Change

/-!
What a compiled statement consists of, one lemma for each way to compile. The four ways to change
rows are treated as one: a guard, a list of assignments that is empty only where rows are removed,
and the WHERE clause of the query (`Builder.compile_mutation`).
-/

namespace Sqlwright

open Text

namespace Query

variable {d : Dialect} {q : Query} {s : Statement} {table : String}

theorem requireTable_eq_ok : q.requireTable = .ok table ↔ q.table = some table ∧ table ≠ "" := by
  unfold requireTable
  cases q.table with
  | none => simp
  | some text =>
    simp only [Option.some.injEq, String.isEmpty_iff]
    split
    · rename_i empty
      constructor
      · intro h
        cases h
      · rintro ⟨rfl, h⟩
        exact absurd empty h
    · rename_i present
      constructor
      · intro h
        cases h
        exact ⟨rfl, present⟩
      · rintro ⟨rfl, -⟩
        rfl

/-- The guard passes exactly the queries over a table that have a condition and no join. -/
theorem guardMutation_eq_ok {operation : String} :
    q.guardMutation operation = .ok table ↔
      q.requireTable = .ok table ∧ q.conditions ≠ [] ∧ q.joins = [] := by
  unfold guardMutation
  rw [bind_eq_ok]
  cases conditions : q.conditions with
  | nil => simp
  | cons first rest =>
    cases joins : q.joins with
    | nil => simp
    | cons j others => simp

theorem compileSelect_eq_ok (h : q.compileSelect d = .ok s) :
    ∃ table sql, q.requireTable = .ok table ∧
      Pagination.apply d (q.selectSql (join ", " q.columns) table ++ q.orderSql) q.limit q.offset
        q.isOrdered = .ok sql ∧
      s = ⟨sql, q.params⟩ := by
  obtain ⟨table, htable, h⟩ := bind_eq_ok.mp h
  obtain ⟨sql, hsql, h⟩ := bind_eq_ok.mp h
  cases h
  exact ⟨table, sql, htable, hsql, rfl⟩

theorem selectOne_eq_ok {expression label sql : String}
    (h : q.selectOne d expression label = .ok sql) :
    ∃ name table, d.quoteIdentifier label = .ok name ∧ q.requireTable = .ok table ∧
      sql = "SELECT " ++ expression ++ " AS " ++ name ++ " FROM " ++ table ++ q.joinsSql ++
        q.whereSql ++ q.groupingSql := by
  obtain ⟨name, hname, h⟩ := bind_eq_ok.mp h
  obtain ⟨table, htable, h⟩ := bind_eq_ok.mp h
  cases h
  exact ⟨name, table, hname, htable, rfl⟩

theorem countExpression_eq_ok {column expression : String}
    (h : q.countExpression d column = .ok expression) :
    ∃ inner keyword : String, (inner = "*" ∨ d.quoteIdentifier column = .ok inner) ∧
      (keyword = "" ∨ keyword = "DISTINCT ") ∧
      expression = "COUNT(" ++ keyword ++ inner ++ ")" := by
  unfold countExpression at h
  split at h
  · cases h
    exact ⟨"*", "", Or.inl rfl, Or.inl rfl, rfl⟩
  · obtain ⟨inner, hinner, h⟩ := bind_eq_ok.mp h
    cases h
    refine ⟨inner, if q.distinct then "DISTINCT " else "", Or.inr hinner, ?_, rfl⟩
    cases q.distinct with
    | true => exact Or.inr rfl
    | false => exact Or.inl rfl

theorem compileCount_eq_ok {column : String} (h : q.compileCount d column = .ok s) :
    ∃ expression sql, q.countExpression d column = .ok expression ∧
      q.selectOne d expression "aggregate" = .ok sql ∧ s = ⟨sql, q.params⟩ := by
  obtain ⟨expression, hexpression, h⟩ := bind_eq_ok.mp h
  obtain ⟨sql, hsql, h⟩ := bind_eq_ok.mp h
  cases h
  exact ⟨expression, sql, hexpression, hsql, rfl⟩

/-- A test for rows asks for one row at most. -/
theorem compileExists_eq_ok (h : q.compileExists d = .ok s) :
    ∃ whole sql, q.selectOne d "1" "found" = .ok whole ∧
      Pagination.apply d whole (some 1) none false = .ok sql ∧ s = ⟨sql, q.params⟩ := by
  obtain ⟨whole, hwhole, h⟩ := bind_eq_ok.mp h
  obtain ⟨sql, hsql, h⟩ := bind_eq_ok.mp h
  cases h
  exact ⟨whole, sql, hwhole, hsql, rfl⟩

/-- The text of the assignment for an entry: a mark, or the column itself changed by a mark. -/
inductive Assigns (d : Dialect) (operator : String) (entry : Key × Value) : String → Prop
  | plain {name} (h : d.quoteKey entry.1 = .ok name) : Assigns d operator entry (name ++ " = ?")
  | step {name} (h : d.quoteKey entry.1 = .ok name) :
    Assigns d operator entry (name ++ " = " ++ name ++ " " ++ operator ++ " ?")

/-- The assignments for the columns that are set, in order. A change by an amount is that of the
first column. -/
inductive Assigned (d : Dialect) : Option String → Row → List String → Prop
  | nil : Assigned d none [] []
  | plain {entry : Key × Value} {sets : Row} {name : String} {texts : List String}
    (h : d.quoteKey entry.1 = .ok name) (later : Assigned d none sets texts) :
    Assigned d none (entry :: sets) ((name ++ " = ?") :: texts)
  | step {operator : String} {entry : Key × Value} {sets : Row} {name : String}
    {texts : List String} (h : d.quoteKey entry.1 = .ok name) (later : Assigned d none sets texts) :
    Assigned d (some operator) (entry :: sets)
      ((name ++ " = " ++ name ++ " " ++ operator ++ " ?") :: texts)

theorem Assigned.plain_each {sets : Row} {texts : List String} (operator : String)
    (h : Assigned d none sets texts) : List.Forall₂ (Assigns d operator) sets texts := by
  generalize absent : (none : Option String) = step at h
  induction h with
  | nil => exact .nil
  | plain h _ ih => exact .cons (.plain h) (ih rfl)
  | step => cases absent

/-- One by one, the columns that are set are assigned. -/
theorem Assigned.each {step : Option String} {sets : Row} {texts : List String}
    (h : Assigned d step sets texts) :
    List.Forall₂ (Assigns d (step.getD "+")) sets texts := by
  cases h with
  | nil => exact .nil
  | plain h later => exact .cons (.plain h) (later.plain_each "+")
  | step h later => exact .cons (.step h) (later.plain_each _)

/-- What was assigned entry by entry is the list of assignments. -/
theorem assigned_of_mapM {values : Row} {assignments : List String}
    (h : (values.mapM fun entry => assignment d entry.1) = .ok assignments) :
    Assigned d none values assignments := by
  have each := mapM_eq_ok.mp h
  clear h
  induction each with
  | nil => exact .nil
  | cons here _ ih =>
    obtain ⟨name, hname, here⟩ := bind_eq_ok.mp here
    cases here
    exact .plain hname ih

/-- The part of a statement in front of its WHERE clause. Without assignments rows are removed. -/
def mutationHead (table : String) (assignments : List String) : String :=
  if assignments.isEmpty then "DELETE FROM " ++ table
  else "UPDATE " ++ table ++ " SET " ++ join ", " assignments

theorem updateSql_eq {assignments : List String} (h : assignments ≠ []) :
    q.updateSql table assignments = mutationHead table assignments ++ q.whereSql := by
  rw [mutationHead, if_neg (by simpa using h)]
  rfl

theorem compileUpdate_eq_ok {values : Row} (h : q.compileUpdate d values = .ok s) :
    ∃ table assignments, q.guardMutation "update" = .ok table ∧
      Assigned d none values assignments ∧
      s = ⟨mutationHead table assignments ++ q.whereSql, values.map (·.2) ++ q.whereParams⟩ := by
  obtain ⟨table, htable, h⟩ := bind_eq_ok.mp h
  split at h
  · cases h
  · rename_i present
    obtain ⟨assignments, hassignments, h⟩ := bind_eq_ok.mp h
    cases h
    have assigned := assigned_of_mapM hassignments
    have some : assignments ≠ [] := by
      rintro rfl
      cases assigned
      exact present rfl
    exact ⟨table, assignments, htable, assigned, by rw [updateSql_eq some]⟩

/-- The column that changes by an amount is assigned in front of the others. -/
theorem compileStep_eq_ok {column operator : String} {amount : Value} {extra : Row}
    (h : q.compileStep d column amount extra operator = .ok s) :
    ∃ table assignments, q.guardMutation (stepName operator) = .ok table ∧
      Assigned d (some operator) ((.text column, amount) :: extra) assignments ∧
      s = ⟨mutationHead table assignments ++ q.whereSql,
        amount :: extra.map (·.2) ++ q.whereParams⟩ := by
  obtain ⟨table, htable, h⟩ := bind_eq_ok.mp h
  split at h
  · obtain ⟨name, hname, h⟩ := bind_eq_ok.mp h
    obtain ⟨others, hothers, h⟩ := bind_eq_ok.mp h
    cases h
    exact ⟨table, _, htable, .step hname (assigned_of_mapM hothers),
      by rw [updateSql_eq (by simp)]⟩
  · cases h

theorem compileDelete_eq_ok (h : q.compileDelete = .ok s) :
    ∃ table, q.guardMutation "delete" = .ok table ∧
      s = ⟨mutationHead table [] ++ q.whereSql, q.whereParams⟩ := by
  obtain ⟨table, htable, h⟩ := bind_eq_ok.mp h
  cases h
  exact ⟨table, htable, rfl⟩

end Query

namespace Request

/-- The name under which the guard refuses a request to change rows; other requests have none. -/
def guardName (q : Query) : Request → Option String
  | .update _ | .restore => some "update"
  | .delete => some (if q.softDelete then "update" else "delete")
  | .step _ _ _ operator => some (Query.stepName operator)
  | _ => none

/-- The columns that a request sets, with their values. -/
def sets (b : Builder) (q : Query) : Request → Row
  | .update values => values
  | .delete => if q.softDelete then [(.text b.settings.deletedAtColumn, .text b.now)] else []
  | .restore => [(.text b.settings.deletedAtColumn, .null)]
  | .step column amount extra _ => (.text column, amount) :: extra
  | _ => []

/-- The operator of a change by an amount. -/
def step? : Request → Option String
  | .step _ _ _ operator => some operator
  | _ => none

/-- The operator, of which only a change by an amount has one of its own. -/
def operator : Request → String
  | .step _ _ _ operator => operator
  | _ => "+"

theorem assigns_each {d : Dialect} {r : Request} {sets : Row} {texts : List String}
    (h : Query.Assigned d r.step? sets texts) :
    List.Forall₂ (Query.Assigns d r.operator) sets texts := by
  have same : r.step?.getD "+" = r.operator := by cases r <;> rfl
  rw [← same]
  exact h.each

end Request

namespace Builder

variable {b : Builder} {q : Query} {r : Request} {statements : List Statement}

/-- Whatever changes rows passes the guard, sets its columns and ends with the WHERE clause of the
query. -/
theorem compile_mutation {guard : String} (changes : r.guardName q = some guard)
    (h : b.compile q r = .ok statements) :
    ∃ table assignments, q.guardMutation guard = .ok table ∧
      Query.Assigned b.dialect r.step? (r.sets b q) assignments ∧
      statements = [⟨Query.mutationHead table assignments ++ q.whereSql,
        (r.sets b q).map (·.2) ++ q.whereParams⟩] := by
  cases r with
  | select | count column | «exists» | insert records => cases changes
  | update values =>
    cases changes
    obtain ⟨s, hs, rfl⟩ := map_eq_ok.mp h
    obtain ⟨table, assignments, htable, hassigned, rfl⟩ := Query.compileUpdate_eq_ok hs
    exact ⟨table, assignments, htable, hassigned, rfl⟩
  | delete =>
    cases changes
    obtain ⟨s, hs, rfl⟩ := map_eq_ok.mp h
    unfold compileDelete at hs
    cases soft : q.softDelete with
    | true =>
      rw [soft, if_pos rfl] at hs
      obtain ⟨table, assignments, htable, hassigned, rfl⟩ := Query.compileUpdate_eq_ok hs
      simp only [Request.sets, soft, if_true]
      exact ⟨table, assignments, htable, hassigned, rfl⟩
    | false =>
      rw [soft, if_neg (by simp)] at hs
      obtain ⟨table, htable, rfl⟩ := Query.compileDelete_eq_ok hs
      simp only [Request.sets, soft]
      exact ⟨table, [], htable, .nil, rfl⟩
  | restore =>
    cases changes
    obtain ⟨s, hs, rfl⟩ := map_eq_ok.mp h
    obtain ⟨table, assignments, htable, hassigned, rfl⟩ := Query.compileUpdate_eq_ok hs
    exact ⟨table, assignments, htable, hassigned, rfl⟩
  | step column amount extra operator =>
    cases changes
    obtain ⟨s, hs, rfl⟩ := map_eq_ok.mp h
    obtain ⟨table, assignments, htable, hassigned, rfl⟩ := Query.compileStep_eq_ok hs
    exact ⟨table, assignments, htable, hassigned, rfl⟩

/-- What the guard refuses is refused under the guard's error. -/
theorem compile_guarded {guard : String} (changes : r.guardName q = some guard) {e : Error}
    (h : q.guardMutation guard = .error e) : b.compile q r = .error e := by
  cases r with
  | select | count column | «exists» | insert records => cases changes
  | update values | restore =>
    cases changes
    simp [compile, Query.compileUpdate, h, bind, Except.bind, Except.map]
  | delete =>
    cases changes
    cases soft : q.softDelete <;>
      simp_all [compile, compileDelete, Query.compileUpdate, Query.compileDelete, bind,
        Except.bind, Except.map]
  | step column amount extra operator =>
    cases changes
    simp [compile, Query.compileStep, h, bind, Except.bind, Except.map]

end Builder

end Sqlwright
