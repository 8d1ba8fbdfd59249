import Sqlwright.Proofs.Query.Ledger
import Sqlwright.Proofs.Query.Partition

/-!
Marks and parameters of compiled statements stay in step. A statement is laid out as texts without
marks around three lists of texts with marks: assignments, conditions and conditions on groups. Each
of these texts has as many marks as values, names the column that it was asked for, and stands where
the values do: in column order, then in call order. Main statement: `Builder.params_follow_marks`.
-/

namespace Sqlwright

open Text

/-- A clause of texts behind its keyword. Without texts there is no clause. -/
def clauseText (keyword separator : String) (texts : List String) : String :=
  if texts.isEmpty then "" else keyword ++ join separator texts

/-- A statement taken apart. -/
structure Layout where
  start : String
  assignments : List String := []
  conditions : List String := []
  between : String := ""
  groupConditions : List String := []
  rest : String := ""

def Layout.sql (l : Layout) : String :=
  l.start ++ join ", " l.assignments ++ clauseText " WHERE " " " l.conditions ++ l.between ++
    clauseText " HAVING " " AND " l.groupConditions ++ l.rest

/-- The marks of a statement are those of its assignments, its conditions and its conditions on
groups; the values for them are its parameters, text by text. -/
structure Layout.Aligns (l : Layout) (s : Statement) (sets : List Value)
    (filters havings : List (List Value)) : Prop where
  sql : s.sql = l.sql
  params : s.params = sets ++ filters.flatten ++ havings.flatten
  start : marks l.start = 0
  between : marks l.between = 0
  rest : marks l.rest = 0
  assignments : List.Forall₂ (fun text _ => marks text = 1) l.assignments sets
  conditions : List.Forall₂ (fun text values => marks text = values.length) l.conditions filters
  groupConditions :
    List.Forall₂ (fun text values => marks text = values.length) l.groupConditions havings

/-- Beyond that, each text is about the column for which its values were handed over: the
assignments those of the columns that are set, the conditions as they were asked. -/
structure Layout.Binds (l : Layout) (d : Dialect) (s : Statement) (step : Option String)
    (sets : Row) (filters : List (Connector × Asked)) (havings : List Asked) : Prop where
  aligns : l.Aligns s (sets.map (·.2)) (filters.map (·.2.values)) (havings.map (·.values))
  assigned : Query.Assigned d step sets l.assignments
  filtered : Asked.AllSpelled d true filters l.conditions
  grouped : List.Forall₂ (Asked.Spelled d) havings l.groupConditions

theorem sum_marks {α : Type} (weight : α → Nat) {texts : List String} {items : List α}
    (h : List.Forall₂ (fun text item => marks text = weight item) texts items) :
    (texts.map marks).sum = (items.map weight).sum := by
  induction h with
  | nil => rfl
  | cons here _ ih => simp [here, ih]

theorem marks_clauseText (keyword separator : String) (hkeyword : marks keyword = 0)
    (hseparator : marks separator = 0) (texts : List String) :
    marks (clauseText keyword separator texts) = (texts.map marks).sum := by
  unfold clauseText
  cases texts with
  | nil => rfl
  | cons first others =>
    rw [if_neg (by simp), marks_append, marks_join hseparator, hkeyword, Nat.zero_add]

/-- A statement that is laid out so has as many marks as parameters. -/
theorem Layout.Aligns.markCount {l : Layout} {s : Statement} {sets : List Value}
    {filters havings : List (List Value)} (h : l.Aligns s sets filters havings) :
    s.markCount = s.params.length := by
  have comma : marks ", " = 0 := rfl
  have assignments : (l.assignments.map marks).sum = sets.length := by
    rw [sum_marks (fun _ => 1) h.assignments]
    simp
  have conditions : (l.conditions.map marks).sum = filters.flatten.length := by
    rw [sum_marks List.length h.conditions, List.length_flatten]
  have groupConditions : (l.groupConditions.map marks).sum = havings.flatten.length := by
    rw [sum_marks List.length h.groupConditions, List.length_flatten]
  have count : s.markCount = marks l.sql := by rw [← h.sql]; rfl
  rw [count, Layout.sql, h.params]
  simp only [marks_append, marks_join comma, h.start, h.between, h.rest, assignments,
    marks_clauseText " WHERE " " " rfl rfl, conditions,
    marks_clauseText " HAVING " " AND " rfl rfl, groupConditions, List.length_append]
  omega

namespace Query

variable {d : Dialect} {q : Query} {l : Ledger}

theorem whereSql_eq (q : Query) : q.whereSql = clauseText " WHERE " " " q.whereTexts := by
  unfold whereSql clauseText whereTexts
  cases q.conditions with
  | nil => rfl
  | cons entry rest => rfl

def groupBySql (q : Query) : String := clauseText " GROUP BY " ", " q.groups

theorem groupingSql_eq (q : Query) :
    q.groupingSql = q.groupBySql ++ clauseText " HAVING " " AND " (q.havings.map Having.sql) := by
  unfold groupingSql groupBySql clauseText
  rw [List.isEmpty_map]

/-- Each condition of a query has a mark for each of its parameters. -/
theorem WellFormed.marked_whereTexts (wf : q.WellFormed d) :
    List.Forall₂ d.Marked q.whereTexts (q.conditions.map fun entry => entry.2.params) :=
  Condition.marked_texts true wf.atoms

/-- Each condition on groups has a mark for its value. -/
theorem WellFormed.marked_havings (wf : q.WellFormed d) :
    List.Forall₂ (fun text value => d.Marked text [value]) (q.havings.map Having.sql)
      q.havingParams := by
  rw [havingParams, List.forall₂_map_left_iff, List.forall₂_map_right_iff, List.forall₂_same]
  intro entry member
  have mark : marks " ?" = 1 := rfl
  refine ⟨[entry.column], List.forall_mem_singleton.mpr (wf.havings entry member), ?_⟩
  simp [Having.sql, mark, entry.operator.marks_sql, Nat.add_comm]

theorem WellFormed.aligned_conditions (wf : q.WellFormed d) (free : d.Markless) :
    List.Forall₂ (fun text values => marks text = values.length) q.whereTexts
      (q.conditions.map fun entry => entry.2.params) :=
  wf.marked_whereTexts.imp fun _ _ => free.marked

theorem WellFormed.aligned_havings (wf : q.WellFormed d) (free : d.Markless) :
    List.Forall₂ (fun text values => marks text = values.length) (q.havings.map Having.sql)
      (q.havings.map fun entry => [entry.value]) := by
  have each := wf.marked_havings.imp fun _ _ => free.marked
  rw [havingParams, List.forall₂_map_right_iff] at each
  rw [List.forall₂_map_right_iff]
  exact each

theorem flatten_havings (q : Query) :
    (q.havings.map fun entry => [entry.value]).flatten = q.havingParams := by
  rw [havingParams]
  induction q.havings with
  | nil => rfl
  | cons entry rest ih => rw [List.map_cons, List.map_cons, List.flatten_cons, ih]; rfl

theorem WellFormed.marks_columns (wf : q.WellFormed d) (free : d.Markless) :
    marks (join ", " q.columns) = 0 :=
  marks_join_eq_zero rfl fun text member => free.column (wf.columns text member)

theorem WellFormed.marks_joinsSql (wf : q.WellFormed d) (free : d.Markless) :
    marks q.joinsSql = 0 := by
  refine marks_join_eq_zero rfl ?_
  intro text member
  obtain ⟨j, hj, rfl⟩ := List.mem_map.mp member
  obtain ⟨table, left, right⟩ := wf.joins j hj
  have kind : marks j.kind.sql = 0 := by cases j.kind <;> rfl
  simp [Join.sql, kind, free.table table, free.column left, free.column right,
    j.operator.marks_sql]

theorem WellFormed.marks_groupBySql (wf : q.WellFormed d) (free : d.Markless) :
    marks q.groupBySql = 0 := by
  unfold groupBySql clauseText
  split
  · rfl
  · have listed : marks (join ", " q.groups) = 0 :=
      marks_join_eq_zero rfl fun text member => free.column (wf.groups text member)
    simp [listed]

theorem WellFormed.marks_orderSql (wf : q.WellFormed d) (free : d.Markless) :
    marks q.orderSql = 0 := by
  unfold orderSql
  split
  · rfl
  · have listed : marks (join ", " (q.orders.map Ordering.sql)) = 0 := by
      refine marks_join_eq_zero rfl ?_
      intro text member
      obtain ⟨entry, hentry, rfl⟩ := List.mem_map.mp member
      have direction : marks entry.direction.sql = 0 := by cases entry.direction <;> rfl
      simp [Ordering.sql, direction, free.column (wf.orders entry hentry)]
    simp [listed]

theorem WellFormed.marks_table (wf : q.WellFormed d) (free : d.Markless) {table : String}
    (h : q.requireTable = .ok table) : marks table = 0 :=
  free.table (wf.table table (requireTable_eq_ok.mp h).1)

/-- A statement that reads rows: the conditions and the groups of the query between texts without
marks, of which the last begins with no digit. -/
structure Reads (q : Query) (s : Statement) : Prop where
  params : s.params = q.params
  split : ∃ front rest, s.sql = front ++ q.whereSql ++ q.groupingSql ++ rest ∧
    marks front = 0 ∧ marks rest = 0 ∧ Detached rest

variable {s : Statement}

/-- The layout of a statement that reads rows: the conditions, the groups with their conditions, and
what has no marks. -/
def readingLayout (q : Query) (front rest : String) : Layout where
  start := front
  conditions := q.whereTexts
  between := q.groupBySql
  groupConditions := q.havings.map Having.sql
  rest := rest

/-- A statement that reads rows has its conditions in front of those on groups, and their values
too. -/
theorem Reads.aligns (reads : q.Reads s) (wf : q.WellFormed d) (free : d.Markless) :
    ∃ front rest, (q.readingLayout front rest).Aligns s []
      (q.conditions.map fun entry => entry.2.params) (q.havings.map fun entry => [entry.value]) := by
  obtain ⟨front, rest, split, quiet, after, -⟩ := reads.split
  refine ⟨front, rest, ?_, ?_, quiet, wf.marks_groupBySql free, after, .nil,
    wf.aligned_conditions free, wf.aligned_havings free⟩
  · rw [Layout.sql, split, whereSql_eq, groupingSql_eq]
    simp [readingLayout, join, String.append_assoc]
  · rw [reads.params, flatten_havings, ← Condition.levelParams_eq_flatten]
    rfl

/-- A SELECT reads rows wherever pagination cuts it. -/
theorem reads_select (wf : q.WellFormed d) (free : d.Markless)
    {whole columns table order sql : String} {limit offset : Option Int} {ordered : Bool}
    (cut : Pagination.apply d whole limit offset ordered = .ok sql)
    (hcolumns : marks columns = 0) (htable : q.requireTable = .ok table) (horder : marks order = 0)
    (apart : Detached order)
    (text : whole = "SELECT " ++ columns ++ " FROM " ++
      (table ++ q.joinsSql ++ q.whereSql ++ q.groupingSql ++ order)) :
    q.Reads ⟨sql, q.params⟩ := by
  subst text
  obtain ⟨front, rest, split, quiet, after, behind⟩ := Pagination.apply_split rfl cut
  refine ⟨rfl, front ++ table ++ q.joinsSql, order ++ rest, ?_, ?_, ?_, apart.append behind⟩
  · rw [split]
    simp [String.append_assoc]
  · simp [quiet, hcolumns, wf.marks_table free htable, wf.marks_joinsSql free]
  · simp [horder, after]

theorem reads_of_compileSelect (wf : q.WellFormed d) (free : d.Markless)
    (h : q.compileSelect d = .ok s) : q.Reads s := by
  obtain ⟨table, sql, htable, cut, rfl⟩ := compileSelect_eq_ok h
  have hcolumns : marks ((if q.distinct then "DISTINCT " else "") ++ join ", " q.columns) = 0 := by
    cases q.distinct <;> simp [wf.marks_columns free]
  have apart : Detached q.orderSql := by
    unfold orderSql
    split
    · rfl
    · simp [Detached]
  refine reads_select wf free cut hcolumns htable (wf.marks_orderSql free) apart ?_
  simp only [selectSql, String.append_assoc]

/-- A count and a test for rows read rows like a SELECT. -/
theorem reads_of_selectOne (wf : q.WellFormed d) (free : d.Markless)
    {expression label whole sql : String} {limit : Option Int} (hexpression : marks expression = 0)
    (h : q.selectOne d expression label = .ok whole)
    (cut : Pagination.apply d whole limit none false = .ok sql) : q.Reads ⟨sql, q.params⟩ := by
  obtain ⟨name, table, hname, htable, rfl⟩ := selectOne_eq_ok h
  have hcolumns : marks (expression ++ " AS " ++ name) = 0 := by
    simp [hexpression, free.name hname]
  have nothing : marks "" = 0 := rfl
  refine reads_select wf free cut hcolumns htable nothing rfl ?_
  simp [String.append_assoc]

theorem reads_of_compileCount (wf : q.WellFormed d) (free : d.Markless) {column : String}
    (h : q.compileCount d column = .ok s) : q.Reads s := by
  obtain ⟨expression, sql, hexpression, hsql, rfl⟩ := compileCount_eq_ok h
  obtain ⟨inner, keyword, hinner, hkeyword, rfl⟩ := countExpression_eq_ok hexpression
  have quietInner : marks inner = 0 := by
    rcases hinner with rfl | hinner
    · rfl
    · exact free.name hinner
  have quietKeyword : marks keyword = 0 := by
    rcases hkeyword with rfl | rfl <;> rfl
  have quiet : marks ("COUNT(" ++ keyword ++ inner ++ ")") = 0 := by
    simp [quietInner, quietKeyword]
  have whole : Pagination.apply d sql none none false = .ok sql := rfl
  exact reads_of_selectOne wf free quiet hsql whole

theorem reads_of_compileExists (wf : q.WellFormed d) (free : d.Markless)
    (h : q.compileExists d = .ok s) : q.Reads s := by
  obtain ⟨whole, sql, hwhole, cut, rfl⟩ := compileExists_eq_ok h
  exact reads_of_selectOne wf free rfl hwhole cut

/-- Every assignment has one mark, also that of a change by an amount. -/
theorem Assigns.marks_eq_one (free : d.Markless) {operator text : String} {entry : Key × Value}
    (quiet : marks operator = 0) (h : Assigns d operator entry text) : marks text = 1 := by
  cases h with
  | plain h =>
    have mark : marks " = ?" = 1 := rfl
    simp [free.key h, mark]
  | step h =>
    have mark : marks " ?" = 1 := rfl
    simp [free.key h, quiet, mark]

def changingLayout (q : Query) (start : String) (assignments : List String) : Layout where
  start := start
  assignments := assignments
  conditions := q.whereTexts

/-- In a statement that changes rows the assignments come before the conditions. -/
theorem aligns_mutation (wf : q.WellFormed d) (free : d.Markless) {table operator : String}
    {sets : Row} {assignments : List String} (htable : q.requireTable = .ok table)
    (quiet : marks operator = 0) (assigned : List.Forall₂ (Assigns d operator) sets assignments) :
    ∃ start, (q.changingLayout start assignments).Aligns
      ⟨mutationHead table assignments ++ q.whereSql, sets.map (·.2) ++ q.whereParams⟩
      (sets.map (·.2)) (q.conditions.map fun entry => entry.2.params) [] := by
  have named := wf.marks_table free htable
  have start : ∃ start, marks start = 0 ∧
      mutationHead table assignments = start ++ join ", " assignments := by
    unfold mutationHead
    cases assignments with
    | nil => exact ⟨"DELETE FROM " ++ table, by simp [named], by simp [join]⟩
    | cons first others => exact ⟨"UPDATE " ++ table ++ " SET ", by simp [named], by simp⟩
  obtain ⟨start, silent, split⟩ := start
  have marked : List.Forall₂ (fun text (_ : Value) => marks text = 1) assignments
      (sets.map (·.2)) := by
    rw [List.forall₂_map_right_iff]
    exact (assigned.imp fun entry text h => h.marks_eq_one free quiet).flip
  refine ⟨start, ?_, ?_, silent, rfl, rfl, marked, wf.aligned_conditions free, .nil⟩
  · rw [Layout.sql, split, whereSql_eq]
    simp [changingLayout, clauseText]
  · rw [← Condition.levelParams_eq_flatten, List.flatten_nil, List.append_nil]
    rfl

namespace Binds

theorem filtered (binds : q.Binds d l) : Asked.AllSpelled d true l.filters q.whereTexts :=
  Condition.allSpelled_texts true binds.filters

/-- The conditions on groups are spelled as they were asked for. -/
theorem grouped (binds : q.Binds d l) :
    List.Forall₂ (Asked.Spelled d) l.havings (q.havings.map Having.sql) := by
  rw [List.forall₂_map_right_iff]
  exact (binds.havings.imp fun _ _ answers => answers.spelled).flip

end Binds

end Query

namespace Insert

/-- An INSERT has one mark for each column of each row, and none elsewhere. -/
theorem Written.marks {d : Dialect} {named text : String} {columns rows : Nat}
    (quiet : marks named = 0) (h : Written d named columns rows text) :
    marks text = rows * columns := by
  have comma : Sqlwright.marks ", " = 0 := rfl
  have blank : Sqlwright.marks " " = 0 := rfl
  cases h with
  | once _ => simp [quiet, marks_join_replicate comma, marks_rowMarks]
  | each _ _ => simp [quiet, marks_join_replicate blank, marks_rowMarks]

theorem Spells.markCount {d : Dialect} {named : String} {columns : List Key} {rows : List Row}
    {s : Statement} (quiet : marks named = 0) (h : Spells d named columns rows s) :
    s.markCount = s.params.length := by
  have count : s.markCount = rows.length * columns.length := h.sql.marks quiet
  rw [count, h.params]
  simp [List.length_flatMap]

end Insert

namespace Builder

open Sqlwright.Query

variable {b : Builder} {q : Query} {l : Ledger} {r : Request} {statements : List Statement}

theorem marks_operator (signed : r.operator = "+" ∨ r.operator = "-") : marks r.operator = 0 := by
  rcases signed with plus | minus
  · rw [plus]
    rfl
  · rw [minus]
    rfl

/-- A request that changes no rows and inserts none sets no columns and reads rows. -/
theorem reads_of_compile (free : b.dialect.Markless) (wf : q.WellFormed b.dialect)
    (reads : r.guardName q = none) (other : ∀ records, r ≠ .insert records)
    (h : b.compile q r = .ok statements) :
    ∃ s, statements = [s] ∧ q.Reads s ∧ r.sets b q = [] := by
  cases r with
  | select =>
    obtain ⟨s, hs, rfl⟩ := map_eq_ok.mp h
    exact ⟨s, rfl, reads_of_compileSelect wf free hs, rfl⟩
  | count column =>
    obtain ⟨s, hs, rfl⟩ := map_eq_ok.mp h
    exact ⟨s, rfl, reads_of_compileCount wf free hs, rfl⟩
  | «exists» =>
    obtain ⟨s, hs, rfl⟩ := map_eq_ok.mp h
    exact ⟨s, rfl, reads_of_compileExists wf free hs, rfl⟩
  | insert records => exact absurd rfl (other records)
  | update values | delete | restore | step column amount extra operator => cases reads

/-- A request that inserts no rows is laid out around its assignments and conditions. -/
theorem aligns_of_compile (free : b.dialect.Markless) (wf : q.WellFormed b.dialect)
    (signed : r.operator = "+" ∨ r.operator = "-") (other : ∀ records, r ≠ .insert records)
    (h : b.compile q r = .ok statements) :
    ∃ s, statements = [s] ∧ ∃ layout : Layout,
      layout.Aligns s ((r.sets b q).map (·.2)) (q.conditions.map fun entry => entry.2.params)
        (if (r.guardName q).isSome then [] else q.havings.map fun entry => [entry.value]) ∧
      Assigned b.dialect r.step? (r.sets b q) layout.assignments ∧
      layout.conditions = q.whereTexts ∧
      layout.groupConditions =
        if (r.guardName q).isSome then [] else q.havings.map Having.sql := by
  cases guard : r.guardName q with
  | none =>
    obtain ⟨s, rfl, reads, none⟩ := reads_of_compile free wf guard other h
    obtain ⟨front, rest, aligned⟩ := reads.aligns wf free
    have unchanged : r.step? = Option.none := by
      cases r with
      | step column amount extra operator => cases guard
      | _ => rfl
    rw [none, unchanged]
    exact ⟨s, rfl, q.readingLayout front rest, aligned, .nil, rfl, rfl⟩
  | some name =>
    obtain ⟨table, assignments, guarded, assigned, rfl⟩ := compile_mutation guard h
    obtain ⟨start, aligned⟩ := aligns_mutation wf free (guardMutation_eq_ok.mp guarded).1
      (marks_operator signed) (Request.assigns_each assigned)
    exact ⟨_, rfl, q.changingLayout start assignments, aligned, assigned, rfl, rfl⟩

/-- The statements of an INSERT name the columns of the first row and spell consecutive rows. -/
theorem exists_spells_insert (free : b.dialect.Markless) (wf : q.WellFormed b.dialect)
    {records : Insert.Records} (h : b.compile q (.insert records) = .ok statements) :
    ∃ table first rest names, q.table = some table ∧ records = (first :: rest).map some ∧
      (Insert.columnsOf first).mapM b.dialect.quoteKey = .ok names ∧
      marks (Insert.target table names) = 0 ∧
      ∀ s ∈ statements, ∃ run, run <:+: first :: rest ∧
        Insert.Spells b.dialect (Insert.target table names) (Insert.columnsOf first) run s := by
  obtain ⟨table, first, rest, names, htable, -, rfl, -, hnames, rfl⟩ := compileInsert_eq_ok.mp h
  refine ⟨table, first, rest, names, (requireTable_eq_ok.mp htable).1, rfl, hnames,
    Insert.marks_target free (wf.marks_table free htable) hnames, ?_⟩
  intro s member
  split at member
  · cases member
  · obtain ⟨run, inside, rfl⟩ := List.mem_map.mp member
    refine ⟨run, ?_, Insert.spells_statement b.dialect _ _ run⟩
    have whole := List.infix_of_mem_flatten inside
    rwa [Insert.flatten_runs] at whole

/-- Every statement for a well-formed query has as many marks as parameters. -/
theorem markCount_compile (free : b.dialect.Markless) (wf : q.WellFormed b.dialect)
    (signed : r.operator = "+" ∨ r.operator = "-") (compiled : b.compile q r = .ok statements) :
    ∀ s ∈ statements, s.markCount = s.params.length := by
  by_cases insert : ∃ records, r = .insert records
  · obtain ⟨records, rfl⟩ := insert
    obtain ⟨table, first, rest, names, -, -, -, quiet, each⟩ := exists_spells_insert free wf compiled
    intro s member
    obtain ⟨run, -, spelled⟩ := each s member
    exact spelled.markCount quiet
  · obtain ⟨s, rfl, layout, aligned, -⟩ := aligns_of_compile free wf signed
      (fun records same => insert ⟨records, same⟩) compiled
    exact List.forall_mem_singleton.mpr aligned.markCount

end Builder

end Sqlwright
