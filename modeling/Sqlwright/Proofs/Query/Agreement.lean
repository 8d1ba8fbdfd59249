import Mathlib.Data.List.Forall2
import Mathlib.Data.Option.Basic
import Sqlwright.Query.Compile
import Sqlwright.Query.Insert

/-!
Queries that differ in the values of their conditions alone (`Query.SameText`) compile to statements
with the same SQL, and to the same errors. Of the rows of an INSERT or UPDATE the SQL shows the
columns and how many rows there are.
-/

namespace Sqlwright

open Text

/-- Two computations that fail with the same error or give related results. -/
inductive Agree {ε α β : Type} (R : α → β → Prop) : Except ε α → Except ε β → Prop
  | error (e : ε) : Agree R (.error e) (.error e)
  | ok {a : α} {b : β} (h : R a b) : Agree R (.ok a) (.ok b)

namespace Agree

variable {ε α β γ δ : Type} {R : α → β → Prop} {S : γ → δ → Prop} {x : Except ε α}
  {y : Except ε β}

theorem same (x : Except ε α) : Agree Eq x x := by
  cases x with
  | error e => exact .error e
  | ok a => exact .ok rfl

theorem bind (h : Agree R x y) {f : α → Except ε γ} {g : β → Except ε δ}
    (next : ∀ a b, R a b → Agree S (f a) (g b)) : Agree S (x >>= f) (y >>= g) := by
  cases h with
  | error e => exact .error e
  | ok related => exact next _ _ related

/-- Two computations that begin with the same one. -/
theorem after (x : Except ε α) {f : α → Except ε γ} {g : α → Except ε δ}
    (next : ∀ a, Agree S (f a) (g a)) : Agree S (x >>= f) (x >>= g) := by
  refine (same x).bind ?_
  rintro a _ rfl
  exact next a

theorem map (h : Agree R x y) {f : α → γ} {g : β → δ} (next : ∀ a b, R a b → S (f a) (g b)) :
    Agree S (x.map f) (y.map g) := by
  cases h with
  | error e => exact .error e
  | ok related => exact .ok (next _ _ related)

theorem exists_ok {a : α} (h : Agree R (.ok a) y) : ∃ b, y = .ok b ∧ R a b := by
  cases h with
  | ok related => exact ⟨_, rfl, related⟩

/-- Without their results the computations are the same. -/
theorem map_unit (h : Agree R x y) : x.map (fun _ => ()) = y.map fun _ => () := by
  cases h with
  | error e => rfl
  | ok related => rfl

end Agree

/-- Rows with the same keys in the same order. -/
def SameKeys (row other : Row) : Prop := Insert.columnsOf row = Insert.columnsOf other

/-- Amounts of which both are numbers, or the same amount twice. -/
def SameAmount (amount other : Value) : Prop :=
  amount = other ∨ amount.isNumber = true ∧ other.isNumber = true

def SameCondition (entry other : Connector × Condition) : Prop :=
  entry.1 = other.1 ∧ entry.2.sql = other.2.sql

/-- Queries that differ in the values of their conditions alone. -/
structure Query.SameText (q q' : Query) : Prop where
  name : q.name = q'.name
  table : q.table = q'.table
  columns : q.columns = q'.columns
  distinct : q.distinct = q'.distinct
  joins : q.joins = q'.joins
  conditions : List.Forall₂ SameCondition q.conditions q'.conditions
  groups : q.groups = q'.groups
  havings : q.havings.map Having.sql = q'.havings.map Having.sql
  orders : q.orders = q'.orders
  limit : q.limit = q'.limit
  page : q.page = q'.page
  softDelete : q.softDelete = q'.softDelete

namespace Condition

theorem texts_congr (first : Bool) {level other : Level}
    (h : List.Forall₂ SameCondition level other) : texts first level = texts first other := by
  induction h generalizing first with
  | nil => rfl
  | cons here _ ih => rw [texts, texts, here.1, here.2, ih]

theorem sql_group_congr {level other : Level}
    (h : List.Forall₂ SameCondition level other) : (group level).sql = (group other).sql := by
  rw [sql, sql, texts_congr true h]

end Condition

namespace Query

variable {d : Dialect} {q q' : Query}

namespace SameText

theorem refl (q : Query) : q.SameText q where
  name := rfl
  table := rfl
  columns := rfl
  distinct := rfl
  joins := rfl
  conditions := List.forall₂_same.mpr fun _ _ => ⟨rfl, rfl⟩
  groups := rfl
  havings := rfl
  orders := rfl
  limit := rfl
  page := rfl
  softDelete := rfl

theorem addCondition (same : q.SameText q') (connector : Connector) {c c' : Condition}
    (h : c.sql = c'.sql) :
    (q.addCondition connector c).SameText (q'.addCondition connector c') :=
  { same with conditions := List.rel_append same.conditions (.cons ⟨rfl, h⟩ .nil) }

theorem conditions_isEmpty (same : q.SameText q') :
    q.conditions.isEmpty = q'.conditions.isEmpty := by
  have count := same.conditions.length_eq
  rw [Bool.eq_iff_iff, List.isEmpty_iff_length_eq_zero, List.isEmpty_iff_length_eq_zero, count]

theorem requireTable (same : q.SameText q') : q.requireTable = q'.requireTable := by
  rw [Query.requireTable, Query.requireTable, same.table]

theorem joinsSql (same : q.SameText q') : q.joinsSql = q'.joinsSql := by
  rw [Query.joinsSql, Query.joinsSql, same.joins]

theorem whereSql (same : q.SameText q') : q.whereSql = q'.whereSql := by
  rw [Query.whereSql, Query.whereSql, same.conditions_isEmpty, whereTexts, whereTexts,
    Condition.texts_congr true same.conditions]

theorem groupingSql (same : q.SameText q') : q.groupingSql = q'.groupingSql := by
  have none : q.havings.isEmpty = q'.havings.isEmpty := by
    have := congrArg List.isEmpty same.havings
    simpa using this
  rw [Query.groupingSql, Query.groupingSql, same.groups, none, same.havings]

theorem orderSql (same : q.SameText q') : q.orderSql = q'.orderSql := by
  rw [Query.orderSql, Query.orderSql, same.orders]

theorem selectSql (same : q.SameText q') (columns table : String) :
    q.selectSql columns table = q'.selectSql columns table := by
  unfold Query.selectSql
  rw [same.distinct, same.joinsSql, same.whereSql, same.groupingSql]

theorem offset (same : q.SameText q') : q.offset = q'.offset := by
  rw [Query.offset, Query.offset, same.page, same.limit]

theorem isOrdered (same : q.SameText q') : q.isOrdered = q'.isOrdered := by
  rw [Query.isOrdered, Query.isOrdered, same.orders]

theorem selectOne (same : q.SameText q') (expression label : String) :
    q.selectOne d expression label = q'.selectOne d expression label := by
  rw [Query.selectOne, Query.selectOne, same.requireTable, same.joinsSql, same.whereSql,
    same.groupingSql]

theorem guardMutation (same : q.SameText q') (operation : String) :
    q.guardMutation operation = q'.guardMutation operation := by
  rw [Query.guardMutation, Query.guardMutation, same.requireTable, same.conditions_isEmpty,
    same.joins]

theorem updateSql (same : q.SameText q') (table : String) (assignments : List String) :
    q.updateSql table assignments = q'.updateSql table assignments := by
  rw [Query.updateSql, Query.updateSql, same.whereSql]

end SameText

/-- Statements with the same SQL. -/
abbrev SameSql (s s' : Statement) : Prop := s.sql = s'.sql

/-- Queries of the same text come to a SELECT of the same text, or are refused alike. -/
theorem agree_compileSelect (same : q.SameText q') :
    Agree SameSql (q.compileSelect d) (q'.compileSelect d) := by
  unfold compileSelect
  rw [same.requireTable, same.columns, same.orderSql, same.limit, same.offset, same.isOrdered]
  refine .after _ fun table => ?_
  simp only [same.selectSql]
  exact .after _ fun sql => .ok rfl

theorem agree_compileCount (same : q.SameText q') (column : String) :
    Agree SameSql (q.compileCount d column) (q'.compileCount d column) := by
  unfold compileCount countExpression
  rw [same.distinct]
  refine .after _ fun expression => ?_
  rw [same.selectOne]
  exact .after _ fun sql => .ok rfl

theorem agree_compileExists (same : q.SameText q') :
    Agree SameSql (q.compileExists d) (q'.compileExists d) := by
  unfold compileExists
  rw [same.selectOne]
  exact .after _ fun whole => .after _ fun sql => .ok rfl

/-- What is assigned for an entry depends on its column alone. -/
theorem mapM_assignment (d : Dialect) (values : Row) :
    (values.mapM fun entry => assignment d entry.1) =
      (Insert.columnsOf values).mapM (assignment d) := by
  rw [Insert.columnsOf, List.mapM_map]
  rfl

theorem agree_compileUpdate (same : q.SameText q') {values values' : Row}
    (columns : SameKeys values values') :
    Agree SameSql (q.compileUpdate d values) (q'.compileUpdate d values') := by
  have none := congrArg List.isEmpty columns
  rw [Insert.columnsOf, Insert.columnsOf, List.isEmpty_map, List.isEmpty_map] at none
  unfold compileUpdate
  rw [same.guardMutation, none, mapM_assignment, mapM_assignment, columns]
  refine .after _ fun table => ?_
  split
  · exact .error _
  · exact .after _ fun assignments => .ok (same.updateSql table assignments)

/-- The amounts may differ if both are numbers. -/
theorem agree_compileStep (same : q.SameText q') {column operator : String}
    {amount amount' : Value} {extra extra' : Row}
    (amounts : SameAmount amount amount') (columns : SameKeys extra extra') :
    Agree SameSql (q.compileStep d column amount extra operator)
      (q'.compileStep d column amount' extra' operator) := by
  unfold compileStep
  rw [same.guardMutation, mapM_assignment, mapM_assignment, columns]
  refine .after _ fun table => ?_
  have set : Agree SameSql
      (do
        let name ← d.quoteIdentifier column
        let others ← (Insert.columnsOf extra').mapM (assignment d)
        let assignments := (name ++ " = " ++ name ++ " " ++ operator ++ " ?") :: others
        return ⟨q.updateSql table assignments, amount :: extra.map (·.2) ++ q.whereParams⟩)
      (do
        let name ← d.quoteIdentifier column
        let others ← (Insert.columnsOf extra').mapM (assignment d)
        let assignments := (name ++ " = " ++ name ++ " " ++ operator ++ " ?") :: others
        return ⟨q'.updateSql table assignments, amount' :: extra'.map (·.2) ++ q'.whereParams⟩) :=
    .after _ fun name => .after _ fun others => .ok (same.updateSql table _)
  rcases amounts with rfl | ⟨number, number'⟩
  · split
    · exact set
    · exact .error _
  · rw [if_pos number, if_pos number']
    exact set

theorem agree_compileDelete (same : q.SameText q') :
    Agree SameSql q.compileDelete q'.compileDelete := by
  unfold compileDelete
  rw [same.guardMutation, same.whereSql]
  exact .after _ fun table => .ok rfl

end Query

namespace Insert

/-- Lists of one length are divided into runs of the same lengths. -/
theorem map_length_runs {α β : Type} (size : Nat) {items : List α} {others : List β}
    (h : items.length = others.length) :
    (runs size items).map List.length = (runs size others).map List.length := by
  induction items using runs.induct size generalizing others with
  | case1 =>
    obtain rfl : others = [] := List.length_eq_zero_iff.mp h.symm
    rw [runs, runs]
    rfl
  | case2 a rest ih =>
    cases others with
    | nil => cases h
    | cons b more =>
      rw [List.length_cons, List.length_cons, Nat.succ.injEq] at h
      have left : (rest.drop (size - 1)).length = (more.drop (size - 1)).length := by
        rw [List.length_drop, List.length_drop, h]
      have later := ih left
      rw [runs, runs, List.map_cons, List.map_cons, later, List.length_cons, List.length_cons,
        List.length_take, List.length_take, h]

theorem hasColumns_congr {columns : List Key} {row row' : Row} (h : SameKeys row row') :
    hasColumns columns row = hasColumns columns row' := by
  rw [hasColumns, hasColumns, h]

theorem agree_firstRow {records others : Records}
    (h : List.Forall₂ (Option.Rel SameKeys) records others) :
    Agree SameKeys (firstRow records) (firstRow others) := by
  cases h with
  | nil => exact .error _
  | cons here _ =>
    cases here with
    | none => exact .error _
    | some same =>
      have none := congrArg List.isEmpty same
      rw [columnsOf, columnsOf, List.isEmpty_map, List.isEmpty_map] at none
      rw [firstRow, firstRow, none]
      split
      · exact .error _
      · exact .ok same

/-- Which record is the first to disagree depends on the columns alone. -/
theorem agree_alike (columns : List Key) (index : Nat) {records others : Records}
    (h : List.Forall₂ (Option.Rel SameKeys) records others) :
    Agree (fun rows rows' => rows.length = rows'.length) (alike columns index records)
      (alike columns index others) := by
  induction h generalizing index with
  | nil => exact .ok rfl
  | cons here _ ih =>
    cases here with
    | none => exact .error _
    | some same =>
      rw [alike, alike, hasColumns_congr same, same]
      split
      · exact (ih (index + 1)).bind fun rows rows' count => .ok (congrArg (· + 1) count)
      · exact .error _

end Insert

namespace Query

/-- The values of the records leave the texts of the statements as they are. -/
theorem agree_compileInsert {d : Dialect} {q q' : Query} (same : q.SameText q')
    {records others : Insert.Records}
    (h : List.Forall₂ (Option.Rel SameKeys) records others) (chunkSize : Int) :
    Agree (fun statements statements' => statements.map (·.sql) = statements'.map (·.sql))
      (q.compileInsert d records chunkSize) (q'.compileInsert d others chunkSize) := by
  unfold compileInsert
  rw [same.requireTable]
  refine .after _ fun table => (Insert.agree_firstRow h).bind fun row row' columns => ?_
  rw [columns]
  refine (Insert.agree_alike _ 0 h).bind fun rows rows' count => .after _ fun names => ?_
  dsimp only
  split
  · exact .ok rfl
  · refine .ok ?_
    -- The text of a statement tells of its rows no more than how many there are.
    have texts (rows : List Row) (target : String) (columns : List Key) (size : Nat) :
        ((Insert.runs size rows).map (Insert.statement d target columns)).map (·.sql) =
          ((Insert.runs size rows).map List.length).map
            (Insert.sql d target columns.length) := by
      rw [List.map_map, List.map_map]
      rfl
    rw [texts, texts, Insert.map_length_runs _ count]

end Query

end Sqlwright
