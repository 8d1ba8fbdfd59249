import Sqlwright.Dialect.BuiltIn
import Sqlwright.Proofs.Query.Partition
import Sqlwright.Proofs.Query.Reach
import Sqlwright.Proofs.Query.Tidy

/-!
Statements are free of foreign text. Whatever a caller gives for tables, columns, aliases, operators,
kinds, directions and connectors, what is accepted leaves clean SQL (`QuotePair.Clean`) in every
statement for a database known from the start. Main statement: `Session.compile_clean`.
-/

namespace Sqlwright

open Dialect Text

variable {d : Dialect}

namespace Pagination

variable {limit offset : Option Int} {ordered : Bool} {sql cut : String}

/-- A TOP clause stands behind one of the heads of a SELECT. -/
theorem insertTop_eq_ok {limit : Int} (h : insertTop sql limit = .ok cut) :
    ∃ head ∈ selectHeads, ∃ rest, sql = head ++ rest ∧
      cut = head ++ "TOP " ++ Number.intText limit ++ " " ++ rest := by
  unfold insertTop at h
  split at h
  · rename_i head rest found
    cases h
    obtain ⟨_, member, found⟩ := List.exists_of_findSome?_eq_some found
    obtain ⟨_, behind, same⟩ := Option.map_eq_some_iff.mp found
    cases same
    unfold behind? at behind
    split at behind
    · rename_i starts
      obtain ⟨after, split⟩ := List.isPrefixOf_iff_prefix.mp starts
      rw [← split, List.drop_left, Option.some.injEq] at behind
      subst behind
      refine ⟨head, member, String.ofList after, ?_, rfl⟩
      rw [← String.toList_inj, String.toList_append, String.toList_ofList, split]
    · cases behind
  · cases h

/-- The clause for a window is plain, and a TOP clause goes behind plain characters. -/
theorem tidy_apply {opening closing : Char} (apart : d.quotes.Apart opening closing)
    (hlimit : ∀ n, limit = some n → 0 ≤ n) (hoffset : ∀ n, offset = some n → 0 ≤ n)
    (h : d.Tidy sql) (made : apply d sql limit offset ordered = .ok cut) : d.Tidy cut := by
  cases limit with
  | none =>
    cases made
    exact h
  | some limit =>
    have nonneg := hlimit limit rfl
    have number : d.Tidy (Number.intText limit) := tidy_intText nonneg
    have fetched {n : Int} (start : 0 ≤ n)
        (made : (if ordered = true then .ok (sql ++ offsetFetch n limit)
          else .error (.unorderedPage d.name) : Except Error String) = .ok cut) : d.Tidy cut := by
      split at made
      · cases made
        have skipped : d.Tidy (" OFFSET " ++ Number.intText n) :=
          tidy_literal_append (by decide) (tidy_intText start)
        have clause : d.Tidy (offsetFetch n limit) :=
          ((skipped.append_literal (by decide)).append number).append_literal (by decide)
        exact h.append clause
      · cases made
    cases style : d.pagination with
    | limitOffset =>
      cases offset with
      | none =>
        simp only [apply, style, Except.ok.injEq] at made
        rw [← made]
        exact (h.append_literal (by decide)).append number
      | some offset =>
        simp only [apply, style, Except.ok.injEq] at made
        rw [← made]
        exact (((h.append_literal (by decide)).append number).append_literal (by decide)).append
          (tidy_intText (hoffset offset rfl))
    | top =>
      cases offset with
      | none =>
        simp only [apply, style] at made
        obtain ⟨head, known, rest, rfl, rfl⟩ := insertTop_eq_ok made
        have plain : ∀ head ∈ selectHeads, head.toList.all isPlain = true := by decide
        have start : d.Tidy head := tidy_literal (plain head known)
        rw [Tidy, String.toList_append] at h
        have behind : d.Tidy rest := h.behind apart (List.all_eq_true.mp (plain head known))
        exact (((start.append_literal (by decide)).append number).append_literal
          (by decide)).append behind
      | some offset =>
        simp only [apply, style] at made
        exact fetched (hoffset offset rfl) made
    | offsetFetch =>
      cases offset with
      | none =>
        simp only [apply, style, Except.ok.injEq] at made
        rw [← made]
        exact ((h.append_literal (by decide)).append number).append_literal (by decide)
      | some offset =>
        simp only [apply, style] at made
        exact fetched (hoffset offset rfl) made
    | rowsRange =>
      simp only [apply, style, Except.ok.injEq] at made
      rw [← made]
      have start : 0 ≤ offset.getD 0 := by
        cases offset with
        | none => exact Int.le_refl 0
        | some n => exact hoffset n rfl
      have first : d.Tidy (Number.intText (offset.getD 0 + 1)) := tidy_intText (by omega)
      have last : d.Tidy (Number.intText (offset.getD 0 + 1 + limit - 1)) :=
        tidy_intText (by omega)
      exact (((h.append_literal (by decide)).append first).append_literal (by decide)).append last
    | other name =>
      simp only [apply, style] at made
      cases made

end Pagination

namespace Query

variable {q : Query} {s : Statement}

theorem WellFormed.offset_nonneg (wf : q.WellFormed d) : ∀ n, q.offset = some n → 0 ≤ n := by
  intro n found
  unfold offset at found
  split at found
  · rename_i page limit hpage hlimit
    cases found
    exact Pagination.offset_nonneg (wf.limit limit hlimit) (wf.page page hpage).1
  · cases found

theorem WellFormed.tidy_compileSelect (wf : q.WellFormed d) {opening closing : Char}
    (apart : d.quotes.Apart opening closing) (h : q.compileSelect d = .ok s) : d.Tidy s.sql := by
  obtain ⟨table, sql, htable, made, rfl⟩ := compileSelect_eq_ok h
  have keyword : d.Tidy (if q.distinct then "DISTINCT " else "") := by
    cases q.distinct <;> exact tidy_literal (by decide)
  have head : d.Tidy ("SELECT " ++ (if q.distinct then "DISTINCT " else "") ++
      join ", " q.columns ++ " FROM " ++ table) :=
    (((tidy_literal_append (by decide) keyword).append wf.tidy_columns).append_literal
      (by decide)).append (wf.tidy_table htable)
  have whole : d.Tidy (q.selectSql (join ", " q.columns) table ++ q.orderSql) :=
    (((head.append wf.tidy_joinsSql).append wf.tidy_whereSql).append wf.tidy_groupingSql).append
      wf.tidy_orderSql
  exact Pagination.tidy_apply apart wf.limit wf.offset_nonneg whole made

theorem WellFormed.tidy_selectOne (wf : q.WellFormed d) {expression label sql : String}
    (counted : d.Tidy expression) (h : q.selectOne d expression label = .ok sql) : d.Tidy sql := by
  obtain ⟨name, table, hname, htable, rfl⟩ := selectOne_eq_ok h
  have named : d.Tidy ("SELECT " ++ expression ++ " AS " ++ name) :=
    ((tidy_literal_append (by decide) counted).append_literal (by decide)).append
      (tidy_quoteIdentifier hname)
  have head : d.Tidy ("SELECT " ++ expression ++ " AS " ++ name ++ " FROM " ++ table) :=
    (named.append_literal (by decide)).append (wf.tidy_table htable)
  exact ((head.append wf.tidy_joinsSql).append wf.tidy_whereSql).append wf.tidy_groupingSql

theorem WellFormed.tidy_compileCount (wf : q.WellFormed d) {column : String}
    (h : q.compileCount d column = .ok s) : d.Tidy s.sql := by
  obtain ⟨expression, sql, hexpression, hsql, rfl⟩ := compileCount_eq_ok h
  obtain ⟨inner, keyword, hinner, hkeyword, rfl⟩ := countExpression_eq_ok hexpression
  have column : d.Tidy inner := by
    rcases hinner with rfl | quoted
    · exact tidy_literal (by decide)
    · exact tidy_quoteIdentifier quoted
  have distinct : d.Tidy keyword := by
    rcases hkeyword with rfl | rfl <;> exact tidy_literal (by decide)
  have counted : d.Tidy ("COUNT(" ++ keyword ++ inner ++ ")") :=
    ((tidy_literal_append (by decide) distinct).append column).append_literal (by decide)
  exact wf.tidy_selectOne counted hsql

theorem WellFormed.tidy_compileExists (wf : q.WellFormed d) {opening closing : Char}
    (apart : d.quotes.Apart opening closing) (h : q.compileExists d = .ok s) : d.Tidy s.sql := by
  obtain ⟨whole, sql, hwhole, made, rfl⟩ := compileExists_eq_ok h
  have one : d.Tidy "1" := tidy_literal (by decide)
  refine Pagination.tidy_apply apart ?_ (by simp) (wf.tidy_selectOne one hwhole) made
  intro n found
  cases found
  decide

/-- An assignment is tidy, a minus included: it stands in front of a blank. -/
theorem Assigns.tidy {operator text : String} {entry : Key × Value}
    (signed : operator = "+" ∨ operator = "-") (h : Assigns d operator entry text) :
    d.Tidy text := by
  have change : d.Tidy (operator ++ " ?") := by
    rcases signed with rfl | rfl
    · exact tidy_literal (by decide)
    · have mark : d.Tidy "?" := tidy_literal (by decide)
      exact .minus mark
  cases h with
  | plain hname => exact (tidy_quoteKey hname).append_literal (by decide)
  | step hname =>
    have name := tidy_quoteKey hname
    rw [String.append_assoc]
    exact (((name.append_literal (by decide)).append name).append_literal (by decide)).append change

theorem WellFormed.tidy_mutation (wf : q.WellFormed d) {guard operator table : String}
    (signed : operator = "+" ∨ operator = "-") (guarded : q.guardMutation guard = .ok table)
    {values : Row} {assignments : List String}
    (assigned : List.Forall₂ (Assigns d operator) values assignments) :
    d.Tidy (mutationHead table assignments ++ q.whereSql) := by
  have target := wf.tidy_table (guardMutation_eq_ok.mp guarded).1
  have each : ∀ text ∈ assignments, d.Tidy text := by
    clear guarded
    induction assigned with
    | nil => simp
    | cons here _ ih => exact List.forall_mem_cons.mpr ⟨here.tidy signed, ih⟩
  refine .append ?_ wf.tidy_whereSql
  unfold mutationHead
  split
  · exact tidy_literal_append (by decide) target
  · exact ((tidy_literal_append (by decide) target).append_literal (by decide)).append
      (tidy_join (by decide) each)

theorem tidy_rowMarks (columns : Nat) : d.Tidy (Insert.rowMarks columns) := by
  have marks : d.Tidy (join ", " (List.replicate columns "?")) :=
    tidy_join_replicate (by decide) (tidy_literal (by decide)) columns
  exact (tidy_literal_append (by decide) marks).append_literal (by decide)

/-- An INSERT repeats the marks of its rows, and where the database wants it the table as well. -/
theorem tidy_insertSql {target : String} (h : d.Tidy target) (columns rows : Nat) :
    d.Tidy (Insert.sql d target columns rows) := by
  have marks : d.Tidy (Insert.rowMarks columns) := tidy_rowMarks columns
  unfold Insert.sql
  split
  · have row : d.Tidy ("INTO " ++ target ++ " VALUES " ++ Insert.rowMarks columns) :=
      ((tidy_literal_append (by decide) h).append_literal (by decide)).append marks
    exact (tidy_literal_append (by decide) (tidy_join_replicate (by decide) row
      rows)).append_literal (by decide)
  · have head : d.Tidy ("INSERT INTO " ++ target ++ " VALUES ") :=
      (tidy_literal_append (by decide) h).append_literal (by decide)
    exact head.append (tidy_join_replicate (by decide) marks rows)

theorem WellFormed.tidy_compileInsert (wf : q.WellFormed d) {records : Insert.Records}
    {chunkSize : Int} {statements : List Statement}
    (h : q.compileInsert d records chunkSize = .ok statements) :
    ∀ s ∈ statements, d.Tidy s.sql := by
  obtain ⟨table, first, rest, names, htable, -, -, -, hnames, rfl⟩ :=
    Query.compileInsert_eq_ok.mp h
  have each : ∀ name ∈ names, d.Tidy name := by
    intro name member
    obtain ⟨key, -, quoted⟩ := exists_of_mem_mapM hnames member
    exact tidy_quoteKey quoted
  have target : d.Tidy (Insert.target table names) :=
    (((wf.tidy_table htable).append_literal (by decide)).append
      (tidy_join (by decide) each)).append_literal (by decide)
  intro s member
  split at member
  · cases member
  · obtain ⟨run, -, rfl⟩ := List.mem_map.mp member
    exact tidy_insertSql target _ _

end Query

/-- Every statement for a well-formed query is tidy. -/
theorem Builder.tidy_compile {b : Builder} {q : Query} (wf : q.WellFormed b.dialect)
    {opening closing : Char} (apart : b.dialect.quotes.Apart opening closing) {r : Request}
    (signed : r.operator = "+" ∨ r.operator = "-") {statements : List Statement}
    (compiled : b.compile q r = .ok statements) :
    ∀ s ∈ statements, b.dialect.Tidy s.sql := by
  cases guard : r.guardName q with
  | some name =>
    obtain ⟨table, assignments, guarded, assigned, rfl⟩ := compile_mutation guard compiled
    exact List.forall_mem_singleton.mpr (wf.tidy_mutation signed guarded
      (Request.assigns_each assigned))
  | none =>
    cases r with
    | select =>
      obtain ⟨s, hs, rfl⟩ := map_eq_ok.mp compiled
      exact List.forall_mem_singleton.mpr (wf.tidy_compileSelect apart hs)
    | count column =>
      obtain ⟨s, hs, rfl⟩ := map_eq_ok.mp compiled
      exact List.forall_mem_singleton.mpr (wf.tidy_compileCount hs)
    | «exists» =>
      obtain ⟨s, hs, rfl⟩ := map_eq_ok.mp compiled
      exact List.forall_mem_singleton.mpr (wf.tidy_compileExists apart hs)
    | insert records => exact wf.tidy_compileInsert compiled
    | update values | delete | restore | step column amount extra operator => cases guard

namespace Session

/-- Whatever was called before, refused or not, the SQL of every request is clean for a database
known from the start. -/
theorem compile_clean {s : Session} (reached : s.Reachable)
    (known : s.builder.dialect ∈ Dialect.builtIn) {r : Request}
    (signed : r.operator = "+" ∨ r.operator = "-") {statements : List Statement}
    (compiled : s.builder.compile s.query r = .ok statements) :
    ∀ statement ∈ statements, s.builder.dialect.quotes.Clean statement.sql := by
  obtain ⟨opening, closing, apart⟩ := Dialect.apart_of_mem_builtIn known
  intro statement member
  have tidy := Builder.tidy_compile reached.wellFormed apart signed compiled statement member
  exact tidy.clean apart

def hostileSession : Session :=
  Session.play { builder := { dialect := Dialect.sqlServer }, log := {} }
    [.clause (.table "users; DROP TABLE users"), .clause (.table "users AS u"),
      .clause (.select ["u.id", "MAX(age) AS oldest", "1 -- "]),
      .clause (.select ["u.id", "MAX(age) AS oldest"]),
      .clause (.join "orders o" "u.id" (.text "= 1 OR") "o.user_id" (.text "INNER")),
      .clause (.join "orders o" "u.id" (.text "=") "o.user_id" (.text "left")),
      .clause (.compare "u.name" (.by (.text "not  like") (.text "x'; --")) (.text "AND")),
      .clause (.compare "u].name" (.equalTo (.int 1)) (.text "AND")),
      .clause (.limit (.int 5))]

theorem compile_clean_hostileSession :
    ∃ statements, hostileSession.builder.compile hostileSession.query .select = .ok statements ∧
      statements.length = 1 ∧
      ∀ statement ∈ statements, Dialect.sqlServer.quotes.Clean statement.sql := by
  have reached : hostileSession.Reachable := ⟨_, _, rfl, rfl⟩
  have known : hostileSession.builder.dialect ∈ Dialect.builtIn := by
    change Dialect.sqlServer ∈ Dialect.builtIn
    exact .tail _ (.tail _ (.tail _ (.head _)))
  have accepted : (hostileSession.builder.compile hostileSession.query .select).isOk = true := by
    decide +kernel
  obtain ⟨statements, compiled⟩ := exists_of_isOk accepted
  have single : statements.length = 1 := by
    obtain ⟨s, -, rfl⟩ := map_eq_ok.mp compiled
    rfl
  exact ⟨statements, compiled, single, compile_clean reached known (Or.inl rfl) compiled⟩

end Session

end Sqlwright
