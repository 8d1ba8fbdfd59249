import Mathlib.Data.List.Chain
import Sqlwright.Proofs.Query.Alignment

/-!
No digit stands right behind a mark of a compiled statement. A mark ends an assignment or a
condition, or a comma, a blank or a parenthesis follows; what comes behind conditions and
assignments begins with a keyword. Main statement: `Builder.spaced_compile`.
-/

namespace Sqlwright

open Text

/-- No mark has a digit right behind it. -/
def Spaced (text : String) : Prop :=
  text.toList.IsChain fun c next => c = Statement.mark → next.isDigit = false

instance (text : String) : Decidable (Spaced text) :=
  inferInstanceAs (Decidable (List.IsChain _ text.toList))

/-- A text that parts others: it is not empty, has no marks, and begins with no digit. -/
def Parting (text : String) : Prop := text ≠ "" ∧ marks text = 0 ∧ Detached text

instance (text : String) : Decidable (Parting text) :=
  inferInstanceAs (Decidable (_ ∧ _ ∧ (_ : Bool) = true))

namespace Spaced

variable {a b text separator : String}

theorem of_marks (h : marks text = 0) : Spaced text := by
  rw [marks, List.count_eq_zero] at h
  unfold Spaced
  generalize text.toList = letters at h ⊢
  induction letters with
  | nil => exact .nil
  | cons c rest ih =>
    rw [List.mem_cons, not_or] at h
    exact List.isChain_cons.mpr ⟨fun _ _ mark => absurd mark.symm h.1, ih h.2⟩

/-- A text may follow another one if it does not begin with a digit. -/
theorem append (ha : Spaced a) (hb : Spaced b) (apart : Detached b) : Spaced (a ++ b) := by
  rw [Spaced, String.toList_append, List.isChain_append]
  refine ⟨ha, hb, fun _ _ next first _ => ?_⟩
  unfold Detached at apart
  rw [Option.mem_def.mp first] at apart
  simpa using apart

/-- Behind a text without marks anything may stand. -/
theorem behind (quiet : marks a = 0) (hb : Spaced b) : Spaced (a ++ b) := by
  rw [Spaced, String.toList_append, List.isChain_append]
  refine ⟨of_marks quiet, hb, fun _ last _ _ mark => ?_⟩
  rw [marks, List.count_eq_zero] at quiet
  exact absurd (mark ▸ List.mem_of_getLast? last) quiet

theorem join (parting : Parting separator) {parts : List String}
    (each : ∀ part ∈ parts, Spaced part) : Spaced (Text.join separator parts) := by
  obtain ⟨present, quiet, apart⟩ := parting
  induction parts using Text.join.induct with
  | case1 => exact .nil
  | case2 part => exact each part (by simp)
  | case3 part next rest ih =>
    have later := ih fun other member => each other (by simp [List.mem_cons.mp member])
    rw [Text.join, String.append_assoc]
    exact (each part (by simp)).append (.behind quiet later) (apart.append_of_ne present _)

theorem join_replicate (parting : Parting separator) (n : Nat) (h : Spaced text) :
    Spaced (Text.join separator (List.replicate n text)) :=
  join parting fun _ member => List.eq_of_mem_replicate member ▸ h

/-- A clause behind its keyword. -/
theorem clauseText {keyword : String} (quiet : marks keyword = 0) (parting : Parting separator)
    {texts : List String} (each : ∀ text ∈ texts, Spaced text) :
    Spaced (Sqlwright.clauseText keyword separator texts) := by
  unfold Sqlwright.clauseText
  split
  · exact .nil
  · exact .behind quiet (join parting each)

end Spaced

theorem detached_clauseText {keyword separator : String} (parting : Parting keyword)
    (texts : List String) : Detached (clauseText keyword separator texts) := by
  unfold clauseText
  split
  · rfl
  · exact parting.2.2.append_of_ne parting.1 _

theorem Atom.spaced_sql {a : Atom} (h : marks a.column = 0) : Spaced a.sql := by
  cases a with
  | comparison column operator value =>
    rw [Atom.column] at h
    exact .behind (by simp [h, operator.marks_sql]) (by decide)
  | negation column operator value =>
    rw [Atom.column] at h
    exact .behind (by simp [h, operator.marks_sql]) (by decide)
  | membership column negated values =>
    rw [Atom.column] at h
    have listed : Spaced (join ", " (values.map fun _ => "?")) := by
      rw [List.map_const']
      exact .join_replicate (by decide) _ (by decide)
    have front : marks (column ++ if negated then " NOT IN (" else " IN (") = 0 := by
      cases negated <;> simp [h]
    exact (Spaced.behind front listed).append (by decide) rfl
  | nullness column negated =>
    rw [Atom.column] at h
    exact .of_marks (by cases negated <;> simp [Atom.sql, h])
  | range column low high =>
    rw [Atom.column] at h
    exact .behind h (by decide)

namespace Condition

theorem spaced_connected (first : Bool) (connector : Connector) {text : String} (h : Spaced text) :
    Spaced (connected first connector text) := by
  cases first with
  | true => exact h
  | false => exact .behind (by cases connector <;> rfl) h

mutual

/-- The induction is on the tree. -/
theorem spaced_sql : (c : Condition) → (∀ a ∈ c.atoms, marks a.column = 0) → Spaced c.sql
  | .atom a, h => a.spaced_sql (h a (by simp [atoms]))
  | .group members, h => by
    have inner : Spaced (join " " (texts true members)) :=
      .join (by decide) (spaced_texts true members h)
    exact (Spaced.behind rfl inner).append (by decide) rfl

theorem spaced_texts (first : Bool) : (level : List (Connector × Condition)) →
    (∀ a ∈ levelAtoms level, marks a.column = 0) → ∀ text ∈ texts first level, Spaced text
  | [], _ => by simp [texts]
  | (connector, condition) :: rest, h => by
    have here := spaced_sql condition fun a member => h a (by simp [levelAtoms, member])
    have later := spaced_texts false rest fun a member => h a (by simp [levelAtoms, member])
    rw [texts]
    exact List.forall_mem_cons.mpr ⟨spaced_connected first connector here, later⟩

end

end Condition

namespace Query

variable {d : Dialect} {q : Query} {s : Statement}

theorem WellFormed.spaced_whereSql (wf : q.WellFormed d) (free : d.Markless) :
    Spaced q.whereSql := by
  rw [whereSql_eq]
  exact .clauseText rfl (by decide)
    (Condition.spaced_texts true q.conditions fun a member => free.column (wf.atoms a member))

theorem detached_whereSql (q : Query) : Detached q.whereSql := by
  rw [whereSql_eq]
  exact detached_clauseText (by decide) _

theorem WellFormed.spaced_groupingSql (wf : q.WellFormed d) (free : d.Markless) :
    Spaced q.groupingSql := by
  rw [groupingSql_eq]
  refine .behind (wf.marks_groupBySql free) (.clauseText rfl (by decide) ?_)
  intro text member
  obtain ⟨entry, hentry, rfl⟩ := List.mem_map.mp member
  have column := free.column (wf.havings entry hentry)
  exact .behind (by simp [column, entry.operator.marks_sql]) (by decide)

theorem detached_groupingSql (q : Query) : Detached q.groupingSql := by
  rw [groupingSql_eq]
  exact (detached_clauseText (by decide) _).append (detached_clauseText (by decide) _)

/-- In a statement that reads rows no digit stands behind a mark. -/
theorem Reads.spaced (reads : q.Reads s) (wf : q.WellFormed d) (free : d.Markless) :
    Spaced s.sql := by
  obtain ⟨front, rest, split, quiet, after, apart⟩ := reads.split
  have conditions : Spaced (front ++ q.whereSql) := .behind quiet (wf.spaced_whereSql free)
  have groups : Spaced (front ++ q.whereSql ++ q.groupingSql) :=
    conditions.append (wf.spaced_groupingSql free) q.detached_groupingSql
  rw [split]
  exact groups.append (.of_marks after) apart

theorem Assigns.spaced (free : d.Markless) {operator text : String} {entry : Key × Value}
    (quiet : marks operator = 0) (h : Assigns d operator entry text) : Spaced text := by
  cases h with
  | plain h => exact .behind (free.key h) (by decide)
  | step h => exact .behind (by simp [free.key h, quiet]) (by decide)

theorem spaced_mutation (wf : q.WellFormed d) (free : d.Markless) {table operator : String}
    {sets : Row} {assignments : List String} (htable : q.requireTable = .ok table)
    (quiet : marks operator = 0) (assigned : List.Forall₂ (Assigns d operator) sets assignments) :
    Spaced (mutationHead table assignments ++ q.whereSql) := by
  have named := wf.marks_table free htable
  have each : ∀ text ∈ assignments, Spaced text := by
    induction assigned with
    | nil => simp
    | cons here _ ih => exact List.forall_mem_cons.mpr ⟨here.spaced free quiet, ih⟩
  refine .append ?_ (wf.spaced_whereSql free) q.detached_whereSql
  unfold mutationHead
  split
  · exact .of_marks (by simp [named])
  · exact .behind (by simp [named]) (.join (by decide) each)

end Query

namespace Insert

theorem spaced_rowMarks (columns : Nat) : Spaced (rowMarks columns) := by
  have listed : Spaced (join ", " (List.replicate columns "?")) :=
    .join_replicate (by decide) columns (by decide)
  exact (Spaced.behind rfl listed).append (by decide) rfl

theorem spaced_sql (d : Dialect) {named : String} (quiet : marks named = 0) (columns rows : Nat) :
    Spaced (sql d named columns rows) := by
  have row := spaced_rowMarks columns
  unfold sql
  split
  · have each : Spaced ("INTO " ++ named ++ " VALUES " ++ rowMarks columns) :=
      .behind (by simp [quiet]) row
    have listed : Spaced (join " " (List.replicate rows
        ("INTO " ++ named ++ " VALUES " ++ rowMarks columns))) :=
      .join_replicate (by decide) rows each
    exact (Spaced.behind rfl listed).append (by decide) rfl
  · exact .behind (by simp [quiet]) (.join_replicate (by decide) rows row)

end Insert

namespace Builder

open Sqlwright.Query

variable {b : Builder} {q : Query} {r : Request} {statements : List Statement}

/-- Every statement for a well-formed query keeps digits away from its marks. -/
theorem spaced_compile (free : b.dialect.Markless) (wf : q.WellFormed b.dialect)
    (signed : r.operator = "+" ∨ r.operator = "-") (compiled : b.compile q r = .ok statements) :
    ∀ s ∈ statements, Spaced s.sql := by
  cases guard : r.guardName q with
  | some name =>
    obtain ⟨table, assignments, guarded, assigned, rfl⟩ := compile_mutation guard compiled
    exact List.forall_mem_singleton.mpr (spaced_mutation wf free (guardMutation_eq_ok.mp guarded).1
      (marks_operator signed) (Request.assigns_each assigned))
  | none =>
    by_cases insert : ∃ records, r = .insert records
    · obtain ⟨records, rfl⟩ := insert
      obtain ⟨table, first, rest, names, htable, -, -, -, hnames, rfl⟩ :=
        compileInsert_eq_ok.mp compiled
      intro s member
      split at member
      · cases member
      · obtain ⟨run, -, rfl⟩ := List.mem_map.mp member
        exact Insert.spaced_sql b.dialect
          (Insert.marks_target free (wf.marks_table free htable) hnames) _ _
    · obtain ⟨s, rfl, reads, -⟩ := reads_of_compile free wf guard
        (fun records same => insert ⟨records, same⟩) compiled
      exact List.forall_mem_singleton.mpr (reads.spaced wf free)

end Builder

end Sqlwright
