import Sqlwright.Proofs.Query.Marks

/-!
What a caller who only watches which calls are accepted expects to be asked and bound. The ledger
never looks at the text of a query: it collects what accepted calls asked for, in call order and each
with its values, starts afresh when a table is named, takes the accepted part of a mapping, and takes
over a group as one entry. Main statement: after every run the conditions of the query are spelled
and bound as the ledger says (`Query.Binds.run`).
-/

namespace Sqlwright

open Text

/-- What an accepted call asks for: a test of the column that the caller names, with the values for
it, or a group of such requests, each with its connector. -/
inductive Asked
  | test (column : String) (t : Test) (values : List Value)
  | group (members : List (Connector × Asked))

namespace Asked

mutual

def values : Asked → List Value
  | .test _ _ values => values
  | .group members => levelValues members

def levelValues : List (Connector × Asked) → List Value
  | [] => []
  | (_, asked) :: rest => asked.values ++ levelValues rest

end

mutual

/-- The text that stands for what was asked. A test is written around the quoted column and has a
mark for each of its values. -/
inductive Spelled (d : Dialect) : Asked → String → Prop
  | test {column name : String} {t : Test} {values : List Value}
    (quoted : d.column column = .ok name) (count : values.length = t.arity) :
    Spelled d (.test column t values) (t.sql name)
  | group {members : List (Connector × Asked)} {texts : List String}
    (inner : AllSpelled d true members texts) :
    Spelled d (.group members) ("(" ++ join " " texts ++ ")")

/-- The texts of a level, each behind its connector. The first of a level stands alone. -/
inductive AllSpelled (d : Dialect) : Bool → List (Connector × Asked) → List String → Prop
  | nil {first : Bool} : AllSpelled d first [] []
  | cons {first : Bool} {connector : Connector} {asked : Asked} {text : String}
    {rest : List (Connector × Asked)} {texts : List String} (here : Spelled d asked text)
    (later : AllSpelled d false rest texts) :
    AllSpelled d first ((connector, asked) :: rest)
      ((if first then text else connector.sql ++ " " ++ text) :: texts)

end

theorem levelValues_eq_flatMap (level : List (Connector × Asked)) :
    levelValues level = level.flatMap fun entry => entry.2.values := by
  induction level with
  | nil => rfl
  | cons entry rest ih => rw [levelValues, ih, List.flatMap_cons]

end Asked

/-- A condition is spelled as the test that it asks for. -/
theorem Atom.Asks.spelled {d : Dialect} {a : Atom} {column : String} {t : Test}
    {values : List Value} (h : a.Asks d column t values) :
    (Asked.test column t values).Spelled d a.sql := by
  rw [Atom.sql_eq_test h.filled, h.test]
  refine .test h.quoted ?_
  rw [← h.params, ← h.test]
  exact Atom.length_params h.filled

/-- What is asked of rows and of groups so far. -/
structure Ledger where
  filters : List (Connector × Asked) := []
  havings : List Asked := []

namespace Clause

def connector? : Clause → Option Connector
  | .compare _ _ given | .compareNot _ _ given | .membership _ _ _ given | .nullness _ _ given
  | .between _ _ _ given => (Connector.ofValue given).toOption
  | .trashed _ => some .and
  | _ => none

/-- What an accepted step asks of rows. -/
def rowTest? (b : Builder) : Clause → Option Asked
  | .compare column comparand _ => do
    let operator ← (Comparison.ofValue comparand.operator).toOption
    let t ← Test.ofComparison? operator comparand.value.isNull
    return .test column t (boundValues comparand.value)
  | .compareNot column comparand _ => do
    let operator ← (Comparison.ofValue comparand.operator).toOption
    return .test column (.denied operator) [comparand.value]
  | .membership column values negated _ =>
    some (.test column (.listed negated (values.length - 1)) values)
  | .nullness column negated _ => some (.test column (.null negated) [])
  | .between column low high _ => some (.test column .range [low, high])
  | .trashed only => some (.test b.settings.deletedAtColumn (.null only) [])
  | _ => none

def filter? (b : Builder) (c : Clause) : Option (Connector × Asked) := do
  return (← c.connector?, ← c.rowTest? b)

/-- What an accepted step asks of groups. -/
def groupTest? : Clause → Option Asked
  | .having column comparand => do
    let operator ← (Comparison.ofValue comparand.operator).toOption
    return .test column (.compared operator) [comparand.value]
  | _ => none

end Clause

namespace Ledger

/-- The entries of a mapping before the first whose key is no column. -/
def acceptedEntries (d : Dialect) (entries : Row) : Row :=
  entries.takeWhile fun entry => (d.column entry.1.plain).isOk

/-- An entry of a mapping asks for equality, or for the absent value. -/
def equality (connector : Connector) (entry : Key × Value) : Connector × Asked :=
  (connector, .test entry.1.plain (if entry.2.isNull then .null false else .compared .equal)
    (boundValues entry.2))

def clause (b : Builder) (q : Query) (l : Ledger) : Clause → Ledger
  | .reset | .table _ => {}
  | .compareAll entries given =>
    match Connector.ofValue given with
    | .ok connector =>
      { l with
        filters := l.filters ++ (acceptedEntries b.dialect entries).map (equality connector) }
    | .error _ => l
  | c =>
    if (c.apply b q).1.isOk then
      ⟨l.filters ++ (c.filter? b).toList, l.havings ++ c.groupTest?.toList⟩
    else l

/-- A step that asks for nothing leaves the ledger as it is, accepted or not. -/
theorem clause_of_asksNothing {b : Builder} {q : Query} (l : Ledger) {c : Clause}
    (h : c.AsksNothing) : l.clause b q c = l := by
  cases c with
  | select | distinct | join | groupBy | order | limit | page | softDelete =>
    simp [clause, Clause.filter?, Clause.connector?, Clause.groupTest?]
  | _ => exact h.elim

mutual

/-- The ledger after a call. A group counts as one entry, unless it asks for nothing. -/
def call (b : Builder) (q : Query) (l : Ledger) : Call → Ledger
  | .clause c => l.clause b q c
  | .group body given =>
    let inner := (calls b { table := q.table } {} body).filters
    match Connector.ofValue given with
    | .ok connector =>
      if (b.apply q (.group body given)).1.isOk && !inner.isEmpty then
        { l with filters := l.filters ++ [(connector, .group inner)] }
      else l
    | .error _ => l
  | .request _ | .job _ => l
  | .tolerated c => call b q l c

def calls (b : Builder) (q : Query) (l : Ledger) : List Call → Ledger
  | [] => l
  | c :: rest => calls b (b.apply q c).2 (call b q l c) rest

end

end Ledger

/-- A condition has the text, the connector and the values of what was asked. -/
structure Condition.Answers (d : Dialect) (entry : Connector × Condition)
    (asked : Connector × Asked) : Prop where
  connector : entry.1 = asked.1
  spelled : asked.2.Spelled d entry.2.sql
  values : entry.2.params = asked.2.values

/-- A condition on groups has the text and the value of what was asked. -/
structure Having.Answers (d : Dialect) (entry : Having) (asked : Asked) : Prop where
  spelled : asked.Spelled d entry.sql
  values : [entry.value] = asked.values

namespace Condition

variable {d : Dialect} {level : Level} {asked : List (Connector × Asked)}

/-- A level of conditions is spelled as it was asked for, with the connectors in between. -/
theorem allSpelled_texts (first : Bool) (h : List.Forall₂ (Answers d) level asked) :
    Asked.AllSpelled d first asked (texts first level) := by
  induction h generalizing first with
  | nil => exact .nil
  | @cons entry other rest others here _ ih =>
    obtain ⟨connector, condition⟩ := entry
    obtain ⟨rfl, spelled, -⟩ := here
    exact .cons spelled (ih false)

theorem map_params_of_answers (h : List.Forall₂ (Answers d) level asked) :
    level.map (fun entry => entry.2.params) = asked.map fun entry => entry.2.values := by
  induction h with
  | nil => rfl
  | cons here _ ih => rw [List.map_cons, List.map_cons, here.values, ih]

theorem levelParams_of_answers (h : List.Forall₂ (Answers d) level asked) :
    levelParams level = Asked.levelValues asked := by
  rw [levelParams_eq_flatten, map_params_of_answers h, Asked.levelValues_eq_flatMap,
    List.flatMap_def]

end Condition

/-- The conditions of a query, one by one, are what a ledger says. -/
structure Query.Binds (d : Dialect) (q : Query) (l : Ledger) : Prop where
  filters : List.Forall₂ (Condition.Answers d) q.conditions l.filters
  havings : List.Forall₂ (Having.Answers d) q.havings l.havings

namespace Query.Binds

variable {d : Dialect} {q next : Query} {l : Ledger}

theorem start (table : Option String) : Query.Binds d { table } {} := ⟨.nil, .nil⟩

/-- A change elsewhere binds nothing. -/
theorem frame (old : q.Binds d l) (same : q.Frame next) : next.Binds d l where
  filters := by
    rw [same.conditions]
    exact old.filters
  havings := by
    rw [same.havings]
    exact old.havings

theorem condition (old : q.Binds d l) {connector : Connector} {c : Condition} {asked : Asked}
    (h : Condition.Answers d (connector, c) (connector, asked)) :
    (q.addCondition connector c).Binds d
      { l with filters := l.filters ++ [(connector, asked)] } where
  filters := List.rel_append old.filters (.cons h .nil)
  havings := old.havings

theorem atom (old : q.Binds d l) (connector : Connector) {a : Atom} {column : String} {t : Test}
    {values : List Value} (h : a.Asks d column t values) :
    (q.addCondition connector (.atom a)).Binds d
      { l with filters := l.filters ++ [(connector, .test column t values)] } :=
  old.condition ⟨rfl, h.spelled, h.params⟩

/-- A refused step binds nothing. -/
theorem attempt {result : Except Error Query} {l' : Ledger} (old : q.Binds d l)
    (new : ∀ next, result = .ok next → next.Binds d l') :
    (Clause.attempt q result).2.Binds d (if (Clause.attempt q result).1.isOk then l' else l) := by
  cases result with
  | error e => exact old
  | ok next => exact new next rfl

/-- A step that adds a condition, once what it asks for is known. -/
theorem addAtom {given : Value} {atom : Except Error Atom} {asks : Option (Connector × Asked)}
    (old : q.Binds d l)
    (h : ∀ connector a, Connector.ofValue given = .ok connector → atom = .ok a →
      ∃ column t values, a.Asks d column t values ∧
        asks = some (connector, .test column t values)) :
    (Clause.attempt q (Clause.addAtom q given atom)).2.Binds d
      (if (Clause.attempt q (Clause.addAtom q given atom)).1.isOk then
        ⟨l.filters ++ asks.toList, l.havings ++ []⟩ else l) := by
  apply old.attempt
  intro next added
  obtain ⟨connector, a, known, made, rfl⟩ := Clause.addAtom_eq_ok.mp added
  obtain ⟨column, t, values, fits, rfl⟩ := h connector a known made
  rw [List.append_nil]
  exact old.atom connector fits

/-- The entries of a mapping are bound up to the first that is refused. -/
theorem addEqualities (connector : Connector) (old : q.Binds d l) (entries : Row) :
    (Clause.addEach (Clause.addEquality d connector) q entries).2.Binds d
      { l with
        filters := l.filters ++
          (Ledger.acceptedEntries d entries).map (Ledger.equality connector) } := by
  induction entries generalizing q l with
  | nil => simpa [Clause.addEach, Ledger.acceptedEntries] using old
  | cons entry rest ih =>
    unfold Clause.addEach
    have verdict :
        (Clause.addEquality d connector q entry).isOk = (d.column entry.1.plain).isOk := by
      have equal : Comparison.ofValue (Comparand.equalTo entry.2).operator = .ok .equal := rfl
      simp only [Clause.addEquality, Clause.comparison, equal]
      cases d.column entry.1.plain <;> cases (Comparand.equalTo entry.2).value.isNull <;> rfl
    rw [Ledger.acceptedEntries, List.takeWhile_cons, ← verdict]
    cases added : Clause.addEquality d connector q entry with
    | error e =>
      change q.Binds d { l with filters := l.filters ++ [] }
      rw [List.append_nil]
      exact old
    | ok next =>
      obtain ⟨a, t, made, asks, rfl⟩ := Clause.addEquality_eq_ok added
      rw [Test.ofComparison?_equal, Option.some.injEq] at made
      subst made
      have later := ih (old.atom connector asks)
      rw [List.append_assoc] at later
      exact later

theorem asksNothing {b : Builder} (old : q.Binds b.dialect l) {c : Clause} (h : c.AsksNothing) :
    (c.apply b q).2.Binds b.dialect (l.clause b q c) := by
  rw [l.clause_of_asksNothing h]
  exact old.frame (h.frame b q)

/-- Each step binds what the ledger says. -/
theorem clause {b : Builder} (old : q.Binds b.dialect l) (c : Clause) :
    (c.apply b q).2.Binds b.dialect (l.clause b q c) := by
  cases c with
  | reset => exact start none
  | table name =>
    cases named : Clause.setTable b.dialect {} name with
    | error e =>
      simp only [Clause.apply, named]
      exact start none
    | ok next =>
      obtain ⟨text, -, rfl⟩ := Clause.setTable_eq_ok named
      simp only [Clause.apply, named]
      exact ⟨.nil, .nil⟩
  | select | distinct | join | groupBy | order | limit | page | softDelete =>
    exact old.asksNothing trivial
  | compare column comparand given =>
    refine old.addAtom fun connector a known h => ?_
    obtain ⟨operator, t, spelled, made, asks⟩ := Clause.comparison_eq_ok h
    refine ⟨column, t, _, asks, ?_⟩
    simp [Clause.filter?, Clause.connector?, Clause.rowTest?, known, spelled, made,
      Except.toOption]
  | compareAll entries given =>
    simp only [Clause.apply, Ledger.clause]
    cases Connector.ofValue given with
    | error e => exact old
    | ok connector => exact old.addEqualities connector entries
  | compareNot column comparand given =>
    refine old.addAtom fun connector a known h => ?_
    obtain ⟨operator, spelled, asks⟩ := Clause.negation_eq_ok h
    refine ⟨column, _, _, asks, ?_⟩
    simp [Clause.filter?, Clause.connector?, Clause.rowTest?, known, spelled, Except.toOption]
  | membership column values negated given =>
    refine old.addAtom fun connector a known h => ?_
    refine ⟨column, _, _, Clause.membershipAtom_eq_ok h, ?_⟩
    simp [Clause.filter?, Clause.connector?, Clause.rowTest?, known, Except.toOption]
  | nullness column negated given =>
    refine old.addAtom fun connector a known h => ?_
    obtain ⟨text, quoted, rfl⟩ := map_eq_ok.mp h
    refine ⟨column, .null negated, [], ⟨quoted, rfl, rfl, rfl⟩, ?_⟩
    simp [Clause.filter?, Clause.connector?, Clause.rowTest?, known, Except.toOption]
  | between column low high given =>
    refine old.addAtom fun connector a known h => ?_
    obtain ⟨text, quoted, rfl⟩ := map_eq_ok.mp h
    refine ⟨column, .range, [low, high], ⟨quoted, rfl, rfl, rfl⟩, ?_⟩
    simp [Clause.filter?, Clause.connector?, Clause.rowTest?, known, Except.toOption]
  | trashed only =>
    refine old.addAtom fun connector a known h => ?_
    obtain ⟨text, quoted, rfl⟩ := map_eq_ok.mp h
    have conjoined : Connector.ofValue (.text "AND") = .ok .and := rfl
    rw [conjoined] at known
    cases known
    exact ⟨_, _, _, ⟨quoted, rfl, rfl, rfl⟩, rfl⟩
  | having column comparand =>
    refine old.attempt ?_
    intro next h
    obtain ⟨operator, text, spelled, quoted, rfl⟩ := Clause.addHaving_eq_ok h
    have asked : (Clause.having column comparand).groupTest? =
        some (.test column (.compared operator) [comparand.value]) := by
      simp [Clause.groupTest?, spelled, Except.toOption]
    have answers : Having.Answers b.dialect ⟨text, operator, comparand.value⟩
        (.test column (.compared operator) [comparand.value]) := by
      refine ⟨?_, rfl⟩
      rw [Having.sql_eq_test]
      exact .test quoted rfl
    rw [asked]
    exact ⟨by simpa [Clause.filter?, Clause.connector?] using old.filters,
      List.rel_append old.havings (.cons answers .nil)⟩

mutual

/-- Each call binds what the ledger says. The induction is on the call; a group is read as the run
of its body on a query of its own. -/
theorem call (b : Builder) {q : Query} {l : Ledger} (old : q.Binds b.dialect l) :
    (c : Call) → (b.apply q c).2.Binds b.dialect (l.call b q c)
  | .clause c => old.clause c
  | .group body given => by
    have inner := calls b (Query.Binds.start q.table) body
    cases known : Connector.ofValue given with
    | error e =>
      simp only [Ledger.call, Builder.apply, known]
      exact old
    | ok connector =>
      cases ran : b.applyAll { table := q.table } body with
      | mk outcome nested =>
        rw [ran] at inner
        cases outcome with
        | error e =>
          -- What the group bound before its refused call is dropped with it.
          simp only [Ledger.call, Builder.apply, known, ran]
          exact old
        | ok done =>
          have bound : List.Forall₂ (Condition.Answers b.dialect) nested.conditions _ :=
            (inner rfl).filters
          simp only [Ledger.call, Builder.apply, known, ran]
          generalize (Ledger.calls b { table := q.table } {} body).filters = asked at bound ⊢
          generalize nested.conditions = conditions at bound ⊢
          cases bound with
          | nil => exact old
          | cons here later =>
            have members := List.Forall₂.cons here later
            exact old.condition ⟨rfl, .group (Condition.allSpelled_texts true members),
              Condition.levelParams_of_answers members⟩
  | .request r => old
  | .job j => old
  | .tolerated c => call b old c

theorem calls (b : Builder) {q : Query} {l : Ledger} (old : q.Binds b.dialect l) :
    (cs : List Call) → (b.applyAll q cs).1 = .ok () →
      (b.applyAll q cs).2.Binds b.dialect (l.calls b q cs)
  | [], _ => old
  | c :: rest, accepted => by
    have first := call b old c
    rw [Ledger.calls]
    unfold Builder.applyAll at accepted ⊢
    cases ran : b.apply q c with
    | mk outcome next =>
      rw [ran] at first accepted
      cases outcome with
      | error e => cases accepted
      | ok done => exact calls b first rest accepted

end

/-- After every run the query binds what the ledger says. -/
theorem run (b : Builder) (old : q.Binds b.dialect l) (cs : List Call) :
    (b.run q cs).Binds b.dialect (l.calls b q cs) := by
  induction cs generalizing q l with
  | nil => exact old
  | cons c rest ih =>
    rw [Ledger.calls]
    exact ih (call b old c)

end Query.Binds

end Sqlwright
