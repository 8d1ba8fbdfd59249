import Sqlwright.Proofs.Query.Change

/-!
Where the texts of a reachable query come from. Every text that ends up in a statement is the
quotation of a column or table reference, no parentheses of a condition are empty, and a page never
stands without a limit. Main statement: `run_wellFormed`.
-/

namespace Sqlwright

namespace Condition

mutual

/-- The conditions without parts inside a condition, in the order of their marks. -/
def atoms : Condition → List Atom
  | .atom a => [a]
  | .group members => levelAtoms members

def levelAtoms : List (Connector × Condition) → List Atom
  | [] => []
  | (_, condition) :: rest => condition.atoms ++ levelAtoms rest

end

theorem levelAtoms_append (a b : Level) : levelAtoms (a ++ b) = levelAtoms a ++ levelAtoms b := by
  induction a with
  | nil => rfl
  | cons entry rest ih => simp [levelAtoms, ih]

/-- A condition that holds a comparison wherever it has parentheses. -/
inductive Solid : Condition → Prop
  | atom (a : Atom) : Solid (.atom a)
  | group {members : List (Connector × Condition)} (present : members ≠ [])
    (each : ∀ entry ∈ members, Solid entry.2) : Solid (.group members)

end Condition

namespace Query

/-- What holds of every query that calls lead to. -/
structure WellFormed (d : Dialect) (q : Query) : Prop where
  table : ∀ text, q.table = some text → d.IsTable text
  present : q.columns ≠ []
  columns : ∀ text ∈ q.columns, d.IsColumn text
  joins : ∀ j ∈ q.joins, d.IsTable j.table ∧ d.IsColumn j.left ∧ d.IsColumn j.right
  atoms : ∀ a ∈ Condition.levelAtoms q.conditions, d.IsColumn a.column
  solid : ∀ entry ∈ q.conditions, entry.2.Solid
  groups : ∀ text ∈ q.groups, d.IsColumn text
  havings : ∀ entry ∈ q.havings, d.IsColumn entry.column
  orders : ∀ entry ∈ q.orders, d.IsColumn entry.column
  limit : ∀ n, q.limit = some n → 0 ≤ n
  page : ∀ n, q.page = some n → 1 ≤ n ∧ q.limit.isSome

variable {d : Dialect} {q next : Query}

/-- A query over a table at which nothing else has been set. -/
theorem wellFormed_start {name table : Option String}
    (h : ∀ text, table = some text → d.IsTable text) :
    WellFormed d { name, table } where
  table := h
  present := by simp
  columns text member := by
    obtain rfl : text = "*" := by simpa using member
    exact ⟨"*", d.column_star⟩
  joins := by simp
  atoms := by simp [Condition.levelAtoms]
  solid := by simp
  groups := by simp
  havings := by simp
  orders := by simp
  limit := by simp
  page := by simp

theorem WellFormed.addCondition (wf : q.WellFormed d) (connector : Connector)
    {condition : Condition} (named : ∀ a ∈ condition.atoms, d.IsColumn a.column)
    (solid : condition.Solid) : (q.addCondition connector condition).WellFormed d :=
  { wf with
    atoms := by
      intro a member
      simp only [Query.addCondition, Condition.levelAtoms_append, Condition.levelAtoms,
        List.append_nil, List.mem_append] at member
      rcases member with old | new
      · exact wf.atoms a old
      · exact named a new
    solid := by
      intro entry member
      simp only [Query.addCondition, List.mem_append, List.mem_singleton] at member
      rcases member with old | rfl
      · exact wf.solid entry old
      · exact solid }

/-- Each single change keeps a query well formed. -/
theorem Change.wellFormed (change : q.Change d next) (wf : q.WellFormed d) :
    next.WellFormed d := by
  cases change with
  | fresh => exact wellFormed_start (by simp)
  | table h =>
    refine wellFormed_start ?_
    intro text found
    cases found
    exact h
  | columns present h => exact { wf with present := present, columns := h }
  | distinct => exact { wf with }
  | join table left right =>
    refine { wf with joins := ?_ }
    intro j member
    rcases List.mem_append.mp member with old | new
    · exact wf.joins j old
    · obtain rfl := List.mem_singleton.mp new
      exact ⟨table, left, right⟩
  | condition h =>
    refine wf.addCondition _ ?_ (.atom _)
    intro a member
    obtain rfl : a = _ := by simpa [Condition.atoms] using member
    exact h
  | group h =>
    refine { wf with groups := ?_ }
    intro text member
    rcases List.mem_append.mp member with old | new
    · exact wf.groups text old
    · exact List.mem_singleton.mp new ▸ h
  | having h =>
    refine { wf with havings := ?_ }
    intro entry member
    rcases List.mem_append.mp member with old | new
    · exact wf.havings entry old
    · exact List.mem_singleton.mp new ▸ h
  | order h =>
    refine { wf with orders := ?_ }
    intro entry member
    rcases List.mem_append.mp member with old | new
    · exact wf.orders entry old
    · exact List.mem_singleton.mp new ▸ h
  | limit h =>
    refine { wf with limit := ?_, page := ?_ }
    · intro n found
      cases found
      exact h
    · intro n found
      exact ⟨(wf.page n found).1, rfl⟩
  | page h limited =>
    refine { wf with page := ?_ }
    intro n found
    cases found
    exact ⟨h, limited⟩
  | softDelete => exact { wf with }

end Query

namespace Builder

/-- No call spoils a well-formed query. -/
theorem wellFormed_invariant (b : Builder) : b.Invariant (Query.WellFormed b.dialect) where
  change change wf := change.wellFormed wf
  nested wf := Query.wellFormed_start wf.table
  group := by
    intro q nested connector wf inner found
    exact wf.addCondition connector inner.atoms (.group found inner.solid)

end Builder

end Sqlwright
