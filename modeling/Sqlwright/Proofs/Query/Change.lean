import Mathlib.Logic.Relation
import Sqlwright.Proofs.Outcome
import Sqlwright.Proofs.Query.Test
import Sqlwright.Query.Session

/-!
What one step can do to a query, said once. `Query.Change` lists the single changes together with
what the step has checked before it makes them: a text that enters a query is a quoted column or
table, a limit is not negative, a page comes behind a limit. Every step is a chain of such changes
(`apply_changes`), so a property that each change keeps is kept by every step. With two more facts
about groups it is kept by every call and by every run (`Builder.Invariant`). Of the steps that ask
nothing of rows or groups a proof about conditions needs their frame alone
(`Clause.AsksNothing.frame`).
-/

namespace Sqlwright

namespace Dialect

/-- Texts that a column reference is quoted to. -/
def IsColumn (d : Dialect) (text : String) : Prop := ∃ given, d.column given = .ok text

theorem column_star (d : Dialect) : d.column "*" = .ok "*" := by
  have read : ColumnTerm.read ['*'] = .star := by
    rw [ColumnTerm.read]
    rfl
  change (ColumnTerm.read ['*']).render d = .ok "*"
  rw [read]
  rfl

/-- Texts that a table reference is quoted to. -/
def IsTable (d : Dialect) (text : String) : Prop :=
  ∃ given, (TableTerm.read given).render d = .ok text

end Dialect

theorem Atom.Asks.isColumn {d : Dialect} {a : Atom} {text : String} {t : Test}
    {values : List Value} (h : a.Asks d text t values) : d.IsColumn a.column := ⟨text, h.quoted⟩

namespace Query

/-- The single changes that steps consist of. -/
inductive Change (d : Dialect) (q : Query) : Query → Prop
  | fresh : Change d q {}
  | table {name text} (h : d.IsTable text) : Change d q { name := some name, table := some text }
  | columns {texts} (present : texts ≠ []) (h : ∀ text ∈ texts, d.IsColumn text) :
    Change d q { q with columns := texts }
  | distinct : Change d q { q with distinct := true }
  | join {j : Join} (table : d.IsTable j.table) (left : d.IsColumn j.left)
      (right : d.IsColumn j.right) : Change d q { q with joins := q.joins ++ [j] }
  | condition {connector} {a : Atom} (h : d.IsColumn a.column) :
    Change d q (q.addCondition connector (.atom a))
  | group {text} (h : d.IsColumn text) : Change d q { q with groups := q.groups ++ [text] }
  | having {entry : Having} (h : d.IsColumn entry.column) :
    Change d q { q with havings := q.havings ++ [entry] }
  | order {entry : Ordering} (h : d.IsColumn entry.column) :
    Change d q { q with orders := q.orders ++ [entry] }
  | limit {n : Int} (h : 0 ≤ n) : Change d q { q with limit := some n }
  | page {n : Int} (h : 1 ≤ n) (limited : q.limit.isSome) : Change d q { q with page := some n }
  | softDelete : Change d q { q with softDelete := true }

abbrev Changes (d : Dialect) : Query → Query → Prop := Relation.ReflTransGen (Change d)

/-- A query that asks of rows and of groups what another one asks. -/
structure Frame (q next : Query) : Prop where
  conditions : next.conditions = q.conditions
  havings : next.havings = q.havings

theorem Frame.refl (q : Query) : q.Frame q := ⟨rfl, rfl⟩

end Query

namespace Clause

variable {d : Dialect} {q next : Query}

/-- What holds of a query and of what a step makes of it holds after the step, refused or not. -/
theorem attempt_keeps {I : Query → Prop} {result : Except Error Query} (old : I q)
    (h : ∀ next, result = .ok next → I next) : I (attempt q result).2 := by
  cases result with
  | error e => exact old
  | ok next => exact h next rfl

/-- What is added one by one is a chain of single additions, as far as it is accepted. -/
theorem chain_addEach {α : Type} (add : Query → α → Except Error Query) (q : Query)
    (items : List α) :
    Relation.ReflTransGen (fun q next => ∃ a ∈ items, add q a = .ok next) q
      (addEach add q items).2 := by
  induction items generalizing q with
  | nil => exact .refl
  | cons a rest ih =>
    unfold addEach
    cases added : add q a with
    | error e => exact .refl
    | ok next =>
      refine .head ⟨a, by simp, added⟩ (Relation.ReflTransGen.mono ?_ _ _ (ih next))
      rintro q next ⟨other, member, added⟩
      exact ⟨other, by simp [member], added⟩

/-- What each accepted addition keeps holds after all of them. -/
theorem addEach_keeps {I : Query → Prop} {α : Type} {add : Query → α → Except Error Query}
    {items : List α} (old : I q) (h : ∀ q, ∀ a ∈ items, ∀ next, I q → add q a = .ok next → I next) :
    I (addEach add q items).2 := by
  have chain := chain_addEach add q items
  generalize (addEach add q items).2 = last at chain ⊢
  induction chain with
  | refl => exact old
  | tail _ step ih =>
    obtain ⟨a, member, added⟩ := step
    exact h _ a member _ ih added

theorem changes_of_attempt {result : Except Error Query}
    (h : ∀ next, result = .ok next → q.Change d next) : q.Changes d (attempt q result).2 :=
  attempt_keeps .refl fun next made => .single (h next made)

/-- What is added one by one changes the query step by step, up to a refusal. -/
theorem changes_of_addEach {α : Type} {add : Query → α → Except Error Query}
    (h : ∀ q a next, add q a = .ok next → Query.Change d q next) (items : List α) :
    q.Changes d (addEach add q items).2 :=
  addEach_keeps .refl fun q a _ next changes added => changes.tail (h q a next added)

/-- A condition is added under the connector that was named, once it could be made. -/
theorem addAtom_eq_ok {given : Value} {atom : Except Error Atom} :
    addAtom q given atom = .ok next ↔
      ∃ connector a, Connector.ofValue given = .ok connector ∧ atom = .ok a ∧
        next = q.addCondition connector (.atom a) := by
  unfold addAtom
  rw [bind_eq_ok]
  constructor
  · rintro ⟨connector, hconnector, h⟩
    obtain ⟨a, ha, h⟩ := bind_eq_ok.mp h
    cases h
    exact ⟨connector, a, hconnector, ha, rfl⟩
  · rintro ⟨connector, a, hconnector, ha, rfl⟩
    exact ⟨connector, hconnector, bind_eq_ok.mpr ⟨a, ha, rfl⟩⟩

/-- What an accepted comparison becomes: a test of the column with the value, or a test for the
absent value, which binds nothing. -/
theorem comparison_eq_ok {column : String} {comparand : Comparand} {a : Atom}
    (h : comparison d column comparand = .ok a) :
    ∃ operator t, Comparison.ofValue comparand.operator = .ok operator ∧
      Test.ofComparison? operator comparand.value.isNull = some t ∧
      a.Asks d column t (boundValues comparand.value) := by
  unfold comparison at h
  obtain ⟨operator, hoperator, h⟩ := bind_eq_ok.mp h
  refine ⟨operator, ?_⟩
  cases absent : comparand.value.isNull with
  | true =>
    rw [if_pos absent] at h
    have nullness (negated : Bool)
        (h : (do return .nullness (← d.column column) negated : Except Error Atom) = .ok a) :
        a.Asks d column (.null negated) (boundValues comparand.value) := by
      obtain ⟨text, htext, h⟩ := bind_eq_ok.mp h
      cases h
      exact ⟨htext, rfl, rfl, (if_pos absent).symm⟩
    cases operator with
    | equal => exact ⟨_, hoperator, rfl, nullness false h⟩
    | unequal => exact ⟨_, hoperator, rfl, nullness true h⟩
    | differs => exact ⟨_, hoperator, rfl, nullness true h⟩
    | less | atMost | greater | atLeast | like | notLike => cases h
  | false =>
    have present : ¬ comparand.value.isNull = true := by simp [absent]
    rw [if_neg present] at h
    obtain ⟨text, htext, h⟩ := bind_eq_ok.mp h
    cases h
    exact ⟨_, hoperator, rfl, htext, rfl, rfl, (if_neg present).symm⟩

/-- A negated comparison always binds its value. -/
theorem negation_eq_ok {column : String} {comparand : Comparand} {a : Atom}
    (h : negation d column comparand = .ok a) :
    ∃ operator, Comparison.ofValue comparand.operator = .ok operator ∧
      a.Asks d column (.denied operator) [comparand.value] := by
  unfold negation at h
  obtain ⟨operator, hoperator, h⟩ := bind_eq_ok.mp h
  split at h
  · cases h
  · obtain ⟨text, htext, h⟩ := bind_eq_ok.mp h
    cases h
    exact ⟨operator, hoperator, htext, rfl, rfl, rfl⟩

/-- An accepted list is never empty, and every member is bound. -/
theorem membershipAtom_eq_ok {column : String} {values : List Value} {negated : Bool} {a : Atom}
    (h : membershipAtom d column values negated = .ok a) :
    a.Asks d column (.listed negated (values.length - 1)) values := by
  unfold membershipAtom at h
  split at h
  · cases h
  · rename_i filled
    obtain ⟨text, htext, h⟩ := bind_eq_ok.mp h
    cases h
    exact ⟨htext, rfl, by simpa [Atom.isFilled] using filled, rfl⟩

/-- A comparison without an operator of its own is one for equality. -/
theorem ofValue_equal {v : Value} :
    Comparison.ofValue (Comparand.equalTo v).operator = .ok .equal := by
  have spelled : Comparison.ofText? "=" = some .equal := by decide +kernel
  simp only [Comparand.operator, Comparison.ofValue, spelled]

/-- An entry of a mapping is a comparison by equality. -/
theorem addEquality_eq_ok {connector : Connector} {entry : Key × Value}
    (h : addEquality d connector q entry = .ok next) :
    ∃ a t, Test.ofComparison? .equal entry.2.isNull = some t ∧
      Atom.Asks d a entry.1.plain t (boundValues entry.2) ∧
      next = q.addCondition connector (.atom a) := by
  unfold addEquality at h
  obtain ⟨a, ha, h⟩ := bind_eq_ok.mp h
  cases h
  obtain ⟨operator, t, spelled, made, asks⟩ := comparison_eq_ok ha
  rw [ofValue_equal] at spelled
  cases spelled
  exact ⟨a, t, made, asks, rfl⟩

theorem changes_of_addAtom {given : Value} {atom : Except Error Atom}
    (h : ∀ a, atom = .ok a → d.IsColumn a.column) :
    q.Changes d (attempt q (addAtom q given atom)).2 := by
  apply changes_of_attempt
  intro next added
  obtain ⟨connector, a, -, ha, rfl⟩ := addAtom_eq_ok.mp added
  exact .condition (h a ha)

/-- A table is kept with its quoted text and with the name that was given. -/
theorem setTable_eq_ok {given : String} (h : setTable d q given = .ok next) :
    ∃ text, d.IsTable text ∧
      next = { q with name := some (TableTerm.read given).name, table := some text } := by
  obtain ⟨text, htext, h⟩ := bind_eq_ok.mp h
  cases h
  exact ⟨text, ⟨given, htext⟩, rfl⟩

/-- There is always a column that is selected: without any it is the star. -/
theorem setColumns_eq_ok {columns : List String} (h : setColumns d q columns = .ok next) :
    ∃ texts : List String, texts ≠ [] ∧ (∀ text ∈ texts, d.IsColumn text) ∧
      next = { q with columns := texts } := by
  obtain ⟨texts, htexts, h⟩ := bind_eq_ok.mp h
  cases h
  have quoted : ∀ text ∈ texts, d.IsColumn text := by
    intro text member
    obtain ⟨given, -, hgiven⟩ := exists_of_mem_mapM htexts member
    exact ⟨given, hgiven⟩
  cases texts with
  | nil =>
    refine ⟨["*"], by simp, ?_, rfl⟩
    intro text member
    obtain rfl : text = "*" := by simpa using member
    exact ⟨"*", d.column_star⟩
  | cons text rest => exact ⟨text :: rest, by simp, quoted, rfl⟩

theorem addJoin_eq_ok {table left right : String} {operator kind : Value}
    (h : addJoin d q table left operator right kind = .ok next) :
    ∃ j : Join, d.IsTable j.table ∧ d.IsColumn j.left ∧ d.IsColumn j.right ∧
      next = { q with joins := q.joins ++ [j] } := by
  unfold addJoin at h
  obtain ⟨kind, -, h⟩ := bind_eq_ok.mp h
  obtain ⟨operator, -, h⟩ := bind_eq_ok.mp h
  obtain ⟨target, htarget, h⟩ := bind_eq_ok.mp h
  obtain ⟨a, ha, h⟩ := bind_eq_ok.mp h
  obtain ⟨b, hb, h⟩ := bind_eq_ok.mp h
  cases h
  exact ⟨_, ⟨table, htarget⟩, ⟨left, ha⟩, ⟨right, hb⟩, rfl⟩

theorem addGroup_eq_ok {column : String} (h : addGroup d q column = .ok next) :
    ∃ text, d.IsColumn text ∧ next = { q with groups := q.groups ++ [text] } := by
  unfold addGroup at h
  obtain ⟨text, htext, h⟩ := bind_eq_ok.mp h
  cases h
  exact ⟨text, ⟨column, htext⟩, rfl⟩

/-- What an accepted condition on groups becomes. -/
theorem addHaving_eq_ok {column : String} {comparand : Comparand}
    (h : addHaving d q column comparand = .ok next) :
    ∃ operator text, Comparison.ofValue comparand.operator = .ok operator ∧
      d.column column = .ok text ∧
      next = { q with havings := q.havings ++ [⟨text, operator, comparand.value⟩] } := by
  unfold addHaving at h
  obtain ⟨operator, hoperator, h⟩ := bind_eq_ok.mp h
  obtain ⟨text, htext, h⟩ := bind_eq_ok.mp h
  cases h
  exact ⟨operator, text, hoperator, htext, rfl⟩

theorem addOrder_eq_ok {column : String} {given : Value}
    (h : addOrder d q column given = .ok next) :
    ∃ entry : Ordering, d.IsColumn entry.column ∧
      next = { q with orders := q.orders ++ [entry] } := by
  unfold addOrder at h
  obtain ⟨direction, -, h⟩ := bind_eq_ok.mp h
  obtain ⟨text, htext, h⟩ := bind_eq_ok.mp h
  cases h
  exact ⟨⟨text, direction⟩, ⟨column, htext⟩, rfl⟩

theorem setLimit_eq_ok {given : Value} (h : setLimit q given = .ok next) :
    ∃ n : Int, 0 ≤ n ∧ next = { q with limit := some n } := by
  cases given with
  | int n =>
    simp only [setLimit] at h
    split at h
    · cases h
    · cases h
      exact ⟨n, by omega, rfl⟩
  | _ => cases h

/-- A page is accepted only behind a limit. -/
theorem setPage_eq_ok {given : Value} (h : setPage q given = .ok next) :
    ∃ n : Int, 1 ≤ n ∧ q.limit.isSome ∧ next = { q with page := some n } := by
  unfold setPage at h
  split at h
  · cases h
  · rename_i limited
    cases given with
    | int n =>
      simp only at h
      split at h
      · cases h
      · cases h
        exact ⟨n, by omega, by simpa [Option.isSome_iff_ne_none] using limited, rfl⟩
    | _ => cases h

/-- The steps that ask nothing of rows or groups and keep what was asked of them. -/
def AsksNothing : Clause → Prop
  | .select _ | .distinct | .join .. | .groupBy _ | .order _ _ | .limit _ | .page _ | .softDelete =>
    True
  | _ => False

/-- A step that asks nothing leaves all conditions as they are, accepted or refused. -/
theorem AsksNothing.frame {c : Clause} (h : c.AsksNothing) (b : Builder) (q : Query) :
    q.Frame (c.apply b q).2 := by
  cases c with
  | distinct | softDelete => exact ⟨rfl, rfl⟩
  | select columns =>
    refine attempt_keeps (.refl q) fun next h => ?_
    obtain ⟨texts, -, -, rfl⟩ := setColumns_eq_ok h
    exact ⟨rfl, rfl⟩
  | join table left operator right kind =>
    refine attempt_keeps (.refl q) fun next h => ?_
    obtain ⟨j, -, -, -, rfl⟩ := addJoin_eq_ok h
    exact ⟨rfl, rfl⟩
  | groupBy columns =>
    refine addEach_keeps (.refl q) fun middle column _ next kept h => ?_
    obtain ⟨text, -, rfl⟩ := addGroup_eq_ok h
    exact ⟨kept.conditions, kept.havings⟩
  | order column direction =>
    refine attempt_keeps (.refl q) fun next h => ?_
    obtain ⟨entry, -, rfl⟩ := addOrder_eq_ok h
    exact ⟨rfl, rfl⟩
  | limit given =>
    refine attempt_keeps (.refl q) fun next h => ?_
    obtain ⟨n, -, rfl⟩ := setLimit_eq_ok h
    exact ⟨rfl, rfl⟩
  | page given =>
    refine attempt_keeps (.refl q) fun next h => ?_
    obtain ⟨n, -, -, rfl⟩ := setPage_eq_ok h
    exact ⟨rfl, rfl⟩
  | _ => exact h.elim

/-- Every step is a chain of single changes, whether it is refused or not. -/
theorem apply_changes (b : Builder) (q : Query) (c : Clause) :
    q.Changes b.dialect (c.apply b q).2 := by
  cases c with
  | reset => exact .single .fresh
  | table name =>
    rw [apply]
    refine .head .fresh (changes_of_attempt ?_)
    intro next h
    obtain ⟨text, htext, rfl⟩ := setTable_eq_ok h
    exact .table htext
  | select columns =>
    rw [apply]
    refine changes_of_attempt ?_
    intro next h
    obtain ⟨texts, present, quoted, rfl⟩ := setColumns_eq_ok h
    exact .columns present quoted
  | distinct => exact .single .distinct
  | join table left operator right kind =>
    rw [apply]
    refine changes_of_attempt ?_
    intro next h
    obtain ⟨j, htable, hleft, hright, rfl⟩ := addJoin_eq_ok h
    exact .join htable hleft hright
  | compare column comparand connector =>
    rw [apply]
    refine changes_of_addAtom fun a h => ?_
    obtain ⟨operator, t, -, -, asks⟩ := comparison_eq_ok h
    exact asks.isColumn
  | compareAll entries connector =>
    simp only [apply]
    split
    · refine changes_of_addEach ?_ entries
      intro q entry next h
      obtain ⟨a, t, -, asks, rfl⟩ := addEquality_eq_ok h
      exact .condition asks.isColumn
    · exact .refl
  | compareNot column comparand connector =>
    rw [apply]
    refine changes_of_addAtom fun a h => ?_
    obtain ⟨operator, -, asks⟩ := negation_eq_ok h
    exact asks.isColumn
  | membership column values negated connector =>
    rw [apply]
    exact changes_of_addAtom fun a h => (membershipAtom_eq_ok h).isColumn
  | nullness column negated connector =>
    rw [apply]
    refine changes_of_addAtom ?_
    intro a h
    obtain ⟨text, htext, rfl⟩ := map_eq_ok.mp h
    exact ⟨column, htext⟩
  | between column low high connector =>
    rw [apply]
    refine changes_of_addAtom ?_
    intro a h
    obtain ⟨text, htext, rfl⟩ := map_eq_ok.mp h
    exact ⟨column, htext⟩
  | trashed only =>
    rw [apply]
    refine changes_of_addAtom ?_
    intro a h
    obtain ⟨text, htext, rfl⟩ := map_eq_ok.mp h
    exact ⟨b.settings.deletedAtColumn, htext⟩
  | groupBy columns =>
    rw [apply]
    refine changes_of_addEach ?_ columns
    intro q column next h
    obtain ⟨text, htext, rfl⟩ := addGroup_eq_ok h
    exact .group htext
  | having column comparand =>
    rw [apply]
    refine changes_of_attempt ?_
    intro next h
    obtain ⟨operator, text, -, htext, rfl⟩ := addHaving_eq_ok h
    exact .having ⟨column, htext⟩
  | order column direction =>
    rw [apply]
    refine changes_of_attempt ?_
    intro next h
    obtain ⟨entry, hentry, rfl⟩ := addOrder_eq_ok h
    exact .order hentry
  | limit given =>
    rw [apply]
    refine changes_of_attempt ?_
    intro next h
    obtain ⟨n, hn, rfl⟩ := setLimit_eq_ok h
    exact .limit hn
  | page given =>
    rw [apply]
    refine changes_of_attempt ?_
    intro next h
    obtain ⟨n, hn, limited, rfl⟩ := setPage_eq_ok h
    exact .page hn limited
  | softDelete => exact .single .softDelete

end Clause

namespace Builder

/-- A property that no call can break: single changes keep it, a group starts with it, and the
conditions of a nested query that has it can be taken over as one group. -/
structure Invariant (b : Builder) (I : Query → Prop) : Prop where
  change : ∀ {q next}, Query.Change b.dialect q next → I q → I next
  nested : ∀ {q}, I q → I { table := q.table }
  group : ∀ {q nested} (connector : Connector), I q → I nested → nested.conditions ≠ [] →
    I (q.addCondition connector (.group nested.conditions))

namespace Invariant

variable {b : Builder} {I : Query → Prop}

theorem clause (inv : b.Invariant I) {q : Query} (hq : I q) (c : Clause) : I (c.apply b q).2 := by
  have steps := c.apply_changes b q
  generalize (c.apply b q).2 = next at steps ⊢
  induction steps with
  | refl => exact hq
  | tail _ last ih => exact inv.change last ih

mutual

/-- The induction is on the call; the calls of a group are shorter than the group. -/
theorem call (inv : b.Invariant I) {q : Query} (hq : I q) : (call : Call) → I (b.apply q call).2
  | .clause c => inv.clause hq c
  | .group body connector => by
    have inner := inv.calls (inv.nested hq) body
    unfold Builder.apply
    split
    · exact hq
    · split
      · exact hq
      · rename_i nested ran
        rw [ran] at inner
        split
        · exact hq
        · rename_i found
          exact inv.group _ hq inner (by simpa using found)
  | .request r => hq
  | .job j => hq
  | .tolerated call => inv.call hq call

theorem calls (inv : b.Invariant I) {q : Query} (hq : I q) :
    (calls : List Call) → I (b.applyAll q calls).2
  | [] => hq
  | call :: rest => by
    have first := inv.call hq call
    unfold Builder.applyAll
    split
    · rename_i next ran
      rw [ran] at first
      exact inv.calls first rest
    · exact first

end

/-- The property holds after every run from a query that has it. -/
theorem run (inv : b.Invariant I) {q : Query} (hq : I q) (calls : List Call) :
    I (b.run q calls) := by
  induction calls generalizing q with
  | nil => exact hq
  | cons call rest ih => exact ih (inv.call hq call)

end Invariant

end Builder

end Sqlwright
