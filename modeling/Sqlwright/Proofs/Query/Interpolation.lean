import Sqlwright.Proofs.Query.Alignment

/-!
A statement with its values written in. It is the parts of the text between its marks, with the
values between them in turn; what stands inside a value is never taken for a mark. A compiled
statement has a mark for each of its parameters, whatever the quotation marks of the database are,
so each of them is shown. Main statement: `Statement.interpolation_weaves`.
-/

namespace Sqlwright

open Text

namespace Statement

/-- What is shown at a mark: its value, or the mark itself behind the last value. -/
def shownAt (values : List Value) (place : Nat) : String :=
  match values[place]? with
  | some value => value.shown
  | none => "?"

/-- Parts with a text between any two of them, which goes by the place. -/
def weave (between : Nat → String) : List String → String
  | [] => ""
  | [part] => part
  | part :: next :: rest =>
    part ++ between 0 ++ weave (fun place => between (place + 1)) (next :: rest)

variable {parts : List String} {values : List Value} {part : List Char}

/-- Only the texts at the places between the parts matter. -/
theorem weave_congr {between between' : Nat → String}
    (same : ∀ place, place + 1 < parts.length → between place = between' place) :
    weave between parts = weave between' parts := by
  induction parts generalizing between between' with
  | nil => rfl
  | cons part others ih =>
    cases others with
    | nil => rfl
    | cons next rest =>
      have here := same 0 (by simp)
      have later : weave (fun place => between (place + 1)) (next :: rest) =
          weave (fun place => between' (place + 1)) (next :: rest) :=
        ih fun place inside => same (place + 1) (by simpa using inside)
      rw [weave, weave, here, later]

/-- A part without marks takes no value. -/
theorem interpolateFrom_part (free : mark ∉ part) (text : List Char) (values : List Value) :
    interpolateFrom (part ++ text) values = part ++ interpolateFrom text values := by
  induction part with
  | nil => rfl
  | cons c rest ih =>
    obtain ⟨other, later⟩ := not_or.mp (List.mem_cons.not.mp free)
    cases values with
    | nil => simp [interpolateFrom, ih later]
    | cons value others => simp [interpolateFrom, Ne.symm other, ih later]

/-- A mark takes the next value, if there is one. -/
theorem interpolateFrom_mark (text : List Char) (values : List Value) :
    interpolateFrom (mark :: text) values =
      (shownAt values 0).toList ++ interpolateFrom text values.tail := by
  cases values with
  | nil => rfl
  | cons value others => simp [interpolateFrom, shownAt]

/-- The values stand between the parts in turn. The induction is on the parts; each of them but the
last uses up one value. -/
theorem interpolate_join (free : ∀ part ∈ parts, mark ∉ part.toList) (values : List Value) :
    interpolate (join "?" parts) values = weave (shownAt values) parts := by
  induction parts using join.induct generalizing values with
  | case1 => rfl
  | case2 part =>
    have whole := interpolateFrom_part (free part (by simp)) [] values
    rw [List.append_nil] at whole
    rw [join, weave, interpolate, whole]
    simp [interpolateFrom]
  | case3 part next rest ih =>
    obtain ⟨here, later⟩ := List.forall_mem_cons.mp free
    have text : (join "?" (part :: next :: rest)).toList =
        part.toList ++ mark :: (join "?" (next :: rest)).toList := by
      simp [join, mark]
    have shifted : (fun place => shownAt values (place + 1)) = shownAt values.tail := by
      funext place
      simp [shownAt]
    rw [interpolate, text, interpolateFrom_part here, interpolateFrom_mark, weave, shifted,
      ← ih later values.tail, interpolate]
    simp [String.append_assoc]

theorem join_splitOn (sql : String) : join "?" (splitOn mark sql) = sql :=
  String.toList_inj.mp (join_pieces rfl sql.toList)

theorem not_mem_of_mem_splitOn {sql part : String} (member : part ∈ splitOn mark sql) :
    mark ∉ part.toList := by
  obtain ⟨piece, inside, rfl⟩ := List.mem_map.mp member
  intro marked
  have uncut := uncut_of_mem_pieces inside mark (by simpa using marked)
  simp at uncut

/-- There is one part more than there are marks. -/
theorem length_splitOn (sql : String) : (splitOn mark sql).length = marks sql + 1 := by
  rw [splitOn, List.length_map, length_pieces]
  rfl

/-- A text is interpolated between its marks. -/
theorem interpolate_eq_weave (sql : String) (values : List Value) :
    interpolate sql values = weave (shownAt values) (splitOn mark sql) := by
  have woven : interpolate (join "?" (splitOn mark sql)) values = _ :=
    interpolate_join (fun part => not_mem_of_mem_splitOn) values
  rwa [join_splitOn] at woven

end Statement

namespace Query

variable {d : Dialect} {q : Query} {s : Statement}

theorem length_whereParams_le (q : Query) : q.whereParams.length ≤ marks q.whereSql := by
  have texts := Condition.marks_texts true q.conditions
  rw [whereSql_eq, marks_clauseText " WHERE " " " rfl rfl, whereTexts, texts, whereParams]
  exact Nat.le_add_right _ _

theorem length_le_sum_marks {α : Type} {items : List α} {texts : List String}
    (h : List.Forall₂ (fun _ text => 1 ≤ marks text) items texts) :
    items.length ≤ (texts.map marks).sum := by
  induction h with
  | nil => exact Nat.le_refl 0
  | cons here _ ih =>
    simp only [List.length_cons, List.map_cons, List.sum_cons]
    omega

theorem length_havings_le (q : Query) : q.havings.length ≤ marks q.groupingSql := by
  have marked :
      List.Forall₂ (fun _ text => 1 ≤ marks text) q.havings (q.havings.map Having.sql) := by
    rw [List.forall₂_map_right_iff, List.forall₂_same]
    intro entry _
    have mark : marks " ?" = 1 := rfl
    simp [Having.sql, mark]
  have total := length_le_sum_marks marked
  rw [groupingSql_eq, marks_append, marks_clauseText " HAVING " " AND " rfl rfl]
  omega

/-- What reads rows keeps the marks of its conditions and groups, wherever pagination cuts it. -/
theorem length_params_le (columns front order : String) {whole sql : String}
    {limit offset : Option Int} {ordered : Bool}
    (cut : Pagination.apply d whole limit offset ordered = .ok sql)
    (text : whole = "SELECT " ++ columns ++ " FROM " ++
      (front ++ q.whereSql ++ q.groupingSql ++ order)) :
    q.params.length ≤ marks sql := by
  subst text
  obtain ⟨head, rest, rfl, -⟩ := Pagination.apply_split rfl cut
  have conditions := length_whereParams_le q
  have groups := length_havings_le q
  simp only [params, havingParams, List.length_append, List.length_map, marks_append]
  omega

/-- A SELECT has a mark at least for each parameter, whatever the quotation marks are. -/
theorem length_params_le_of_select (h : q.compileSelect d = .ok s) :
    s.params.length ≤ s.markCount := by
  obtain ⟨table, sql, -, cut, rfl⟩ := compileSelect_eq_ok h
  refine length_params_le ((if q.distinct then "DISTINCT " else "") ++ join ", " q.columns)
    (table ++ q.joinsSql) q.orderSql cut ?_
  simp only [selectSql, String.append_assoc]

theorem length_params_le_of_selectOne {expression label whole sql : String} {limit : Option Int}
    (h : q.selectOne d expression label = .ok whole)
    (cut : Pagination.apply d whole limit none false = .ok sql) : q.params.length ≤ marks sql := by
  obtain ⟨name, table, -, -, rfl⟩ := selectOne_eq_ok h
  refine length_params_le (expression ++ " AS " ++ name) (table ++ q.joinsSql) "" cut ?_
  simp [String.append_assoc]

theorem Assigns.one_le_marks {operator text : String} {entry : Key × Value}
    (h : Assigns d operator entry text) : 1 ≤ marks text := by
  cases h with
  | plain _ =>
    have mark : marks " = ?" = 1 := rfl
    simp [mark]
  | step _ =>
    have mark : marks " ?" = 1 := rfl
    simp [mark]

theorem length_sets_le {operator : String} {sets : Row} {assignments : List String}
    (assigned : List.Forall₂ (Assigns d operator) sets assignments) (table : String) :
    sets.length ≤ marks (mutationHead table assignments) := by
  have comma : marks ", " = 0 := rfl
  have total := length_le_sum_marks (assigned.imp fun _ _ => Assigns.one_le_marks)
  unfold mutationHead
  split
  · rename_i empty
    rw [List.isEmpty_iff.mp empty] at total
    exact total.trans (Nat.zero_le _)
  · rw [marks_append, marks_join comma]
    omega

end Query

namespace Builder

open Sqlwright.Query

variable {b : Builder} {q : Query} {r : Request} {statements : List Statement}

/-- A compiled statement has a mark for each of its parameters. -/
theorem length_params_le_markCount (compiled : b.compile q r = .ok statements) :
    ∀ s ∈ statements, s.params.length ≤ s.markCount := by
  cases changes : r.guardName q with
  | some guard =>
    obtain ⟨table, assignments, -, assigned, rfl⟩ := compile_mutation changes compiled
    have sets := length_sets_le (Request.assigns_each assigned) table
    have conditions := length_whereParams_le q
    simp only [List.forall_mem_singleton, Statement.markCount]
    change _ ≤ marks _
    simp only [List.length_append, List.length_map, marks_append]
    omega
  | none =>
    cases r with
    | select =>
      obtain ⟨s, hs, rfl⟩ := map_eq_ok.mp compiled
      exact List.forall_mem_singleton.mpr (length_params_le_of_select hs)
    | count column =>
      obtain ⟨s, hs, rfl⟩ := map_eq_ok.mp compiled
      obtain ⟨expression, sql, -, hsql, rfl⟩ := compileCount_eq_ok hs
      have whole : Pagination.apply b.dialect sql none none false = .ok sql := rfl
      exact List.forall_mem_singleton.mpr (length_params_le_of_selectOne hsql whole)
    | «exists» =>
      obtain ⟨s, hs, rfl⟩ := map_eq_ok.mp compiled
      obtain ⟨whole, sql, hwhole, cut, rfl⟩ := compileExists_eq_ok hs
      exact List.forall_mem_singleton.mpr (length_params_le_of_selectOne hwhole cut)
    | insert records =>
      obtain ⟨table, first, rest, names, -, -, -, -, -, rfl⟩ := compileInsert_eq_ok.mp compiled
      intro s member
      split at member
      · cases member
      · obtain ⟨run, -, rfl⟩ := List.mem_map.mp member
        rw [Insert.length_params_statement, Insert.markCount_statement]
        exact Nat.le_add_right _ _
    | update values | delete | restore | step column amount extra operator => cases changes

end Builder

namespace Statement

/-- A text falls into parts at its marks. Interpolated, it is these parts with the shown values
between them in turn, and a mark wherever there is no value for it; values beyond the marks are left
out. A compiled statement has a mark for each of its parameters and is shown in this way. -/
theorem interpolation_weaves :
    (∀ (sql : String) (values : List Value),
      join "?" (splitOn mark sql) = sql ∧ (∀ part ∈ splitOn mark sql, mark ∉ part.toList) ∧
      (splitOn mark sql).length = marks sql + 1 ∧
      interpolate sql values = weave (shownAt values) (splitOn mark sql) ∧
      interpolate sql (values.take (marks sql)) = interpolate sql values) ∧
    ∀ (b : Builder) (q : Query) (r : Request) (statements : List Statement),
      b.compile q r = .ok statements → ∀ s ∈ statements,
        s.params.length ≤ s.markCount ∧
          s.debug = weave (shownAt s.params) (splitOn mark s.sql) := by
  constructor
  · intro sql values
    have count : (splitOn mark sql).length = marks sql + 1 := length_splitOn sql
    refine ⟨join_splitOn sql, fun part => not_mem_of_mem_splitOn, count,
      interpolate_eq_weave sql values, ?_⟩
    rw [interpolate_eq_weave, interpolate_eq_weave]
    refine weave_congr fun place inside => ?_
    rw [shownAt, shownAt, List.getElem?_take_of_lt (by omega)]
  · intro b q r statements compiled s member
    exact ⟨Builder.length_params_le_markCount compiled s member,
      interpolate_eq_weave s.sql s.params⟩

/-- A condition on a text that holds marks, quotes and backslashes, and one behind it. -/
def hostileCalls : List Call :=
  [.clause (.table "t"),
    .clause (.compare "a" (.equalTo (.text "?'\\")) (.text "AND")),
    .clause (.compare "b" (.equalTo (.int 7)) (.text "AND"))]

theorem interpolation_weaves_hostileCalls :
    interpolate "a = ? OR b = ? OR c = ?" [.text "?'\\", .int 7] =
        "a = '?\\'\\\\' OR b = 7 OR c = ?" ∧
      ∃ statements,
        Builder.compile { dialect := Dialect.pgsql }
          (Builder.run { dialect := Dialect.pgsql } {} hostileCalls) .select = .ok statements ∧
        ∀ s ∈ statements, s.params.length ≤ s.markCount ∧
          s.debug = weave (shownAt s.params) (splitOn mark s.sql) := by
  obtain ⟨texts, compiled⟩ := interpolation_weaves
  obtain ⟨-, -, -, woven, -⟩ := texts "a = ? OR b = ? OR c = ?" [.text "?'\\", .int 7]
  refine ⟨woven, ?_⟩
  have accepted : (Builder.compile { dialect := Dialect.pgsql }
      (Builder.run { dialect := Dialect.pgsql } {} hostileCalls) .select).isOk = true := by
    decide +kernel
  obtain ⟨statements, made⟩ := exists_of_isOk accepted
  exact ⟨statements, made, compiled _ _ _ _ made⟩

end Statement

end Sqlwright
