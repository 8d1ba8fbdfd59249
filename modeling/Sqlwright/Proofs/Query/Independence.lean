import Sqlwright.Proofs.Query.Agreement
import Sqlwright.Proofs.Query.Change

/-!
Calls that differ in bound values alone (`Call.Alike`) do the same to queries of the same text: they
are accepted or refused alike, and leave queries of the same text. A value is looked at only to tell
the absent one from the others where a column is compared, and to tell whether it is a number. Main
statements: `Builder.alike_apply`, `Builder.agree_compile`.
-/

namespace Sqlwright

open Text

/-- Comparisons of the same kind with values of which both or neither is the absent one. -/
structure Comparand.Alike (x y : Comparand) : Prop where
  operator : x.operator = y.operator
  isNull : x.value.isNull = y.value.isNull

/-- Entries under the same key, both or neither with the absent value. -/
def SameEntry (entry other : Key × Value) : Prop :=
  entry.1 = other.1 ∧ entry.2.isNull = other.2.isNull

/-- Steps that differ in bound values alone. -/
inductive Clause.Alike : Clause → Clause → Prop
  | same (c : Clause) : Alike c c
  | compare {column connector x y} (h : x.Alike y) :
    Alike (.compare column x connector) (.compare column y connector)
  | compareAll {connector entries others} (h : List.Forall₂ SameEntry entries others) :
    Alike (.compareAll entries connector) (.compareAll others connector)
  | compareNot {column connector x y} (h : x.Alike y) :
    Alike (.compareNot column x connector) (.compareNot column y connector)
  | membership {column negated connector values others} (h : values.length = others.length) :
    Alike (.membership column values negated connector)
      (.membership column others negated connector)
  | between {column connector low high low' high'} :
    Alike (.between column low high connector) (.between column low' high' connector)
  | having {column x y} (h : x.operator = y.operator) :
    Alike (.having column x) (.having column y)

inductive Request.Alike : Request → Request → Prop
  | select : Alike .select .select
  | count {column} : Alike (.count column) (.count column)
  | exists : Alike .exists .exists
  | insert {records others} (h : List.Forall₂ (Option.Rel SameKeys) records others) :
    Alike (.insert records) (.insert others)
  | update {values others} (h : SameKeys values others) :
    Alike (.update values) (.update others)
  | delete : Alike .delete .delete
  | restore : Alike .restore .restore
  | step {column operator amount amount' extra extra'}
    (amounts : SameAmount amount amount') (h : SameKeys extra extra') :
    Alike (.step column amount extra operator) (.step column amount' extra' operator)

/-- Work that differs in bound values alone. What the caller of a chunked read answers to its pages
is no bound value. -/
inductive Job.Alike : Job → Job → Prop
  | get : Alike .get .get
  | first : Alike .first .first
  | firstOrFail : Alike .firstOrFail .firstOrFail
  | count {column} : Alike (.count column) (.count column)
  | pluck {column} : Alike (.pluck column) (.pluck column)
  | exists : Alike .exists .exists
  | insert {records others} (h : List.Forall₂ (Option.Rel SameKeys) records others) :
    Alike (.insert records) (.insert others)
  | update {values others} (h : SameKeys values others) :
    Alike (.update values) (.update others)
  | delete : Alike .delete .delete
  | restore : Alike .restore .restore
  | increment {column amount amount' extra extra'} (amounts : SameAmount amount amount')
    (h : SameKeys extra extra') :
    Alike (.increment column amount extra) (.increment column amount' extra')
  | decrement {column amount amount' extra extra'} (amounts : SameAmount amount amount')
    (h : SameKeys extra extra') :
    Alike (.decrement column amount extra) (.decrement column amount' extra')
  | chunk {size verdicts} : Alike (.chunk size verdicts) (.chunk size verdicts)
  | execute {sql params others} : Alike (.execute sql params) (.execute sql others)

theorem Job.Alike.operation {j j' : Job} (h : j.Alike j') : j.operation = j'.operation := by
  cases h <;> rfl

mutual

inductive Call.Alike : Call → Call → Prop
  | clause {c c'} (h : Clause.Alike c c') : Alike (.clause c) (.clause c')
  | group {body body'} (h : Call.AllAlike body body') (connector : Value) :
    Alike (.group body connector) (.group body' connector)
  | request {r r'} (h : Request.Alike r r') : Alike (.request r) (.request r')
  | job {j j'} (h : Job.Alike j j') : Alike (.job j) (.job j')
  | tolerated {call call'} (h : Call.Alike call call') :
    Alike (.tolerated call) (.tolerated call')

inductive Call.AllAlike : List Call → List Call → Prop
  | nil : AllAlike [] []
  | cons {call call' rest rest'} (h : Call.Alike call call') (later : Call.AllAlike rest rest') :
    AllAlike (call :: rest) (call' :: rest')

end

namespace Builder

variable {b : Builder} {later : String} {q q' : Query}

/-- Requests that differ in values alone compile to the same SQL, whatever the time of day. -/
theorem agree_compile (same : q.SameText q') {r r' : Request} (alike : r.Alike r') :
    Agree (fun statements statements' => statements.map (·.sql) = statements'.map (·.sql))
      (b.compile q r) (compile { b with now := later } q' r') := by
  have one {x y : Except Error Statement} (h : Agree Query.SameSql x y) :
      Agree (fun statements statements' => statements.map (·.sql) = statements'.map (·.sql))
        (x.map ([·])) (y.map ([·])) := h.map fun s s' texts => congrArg ([·]) texts
  cases alike with
  | select => exact one (Query.agree_compileSelect same)
  | count => exact one (Query.agree_compileCount same _)
  | «exists» => exact one (Query.agree_compileExists same)
  | insert h => exact Query.agree_compileInsert same h _
  | update h => exact one (Query.agree_compileUpdate same h)
  | delete =>
    refine one ?_
    unfold compileDelete
    rw [same.softDelete]
    split
    · exact Query.agree_compileUpdate same rfl
    · exact Query.agree_compileDelete same
  | restore => exact one (Query.agree_compileUpdate same rfl)
  | step amounts h => exact one (Query.agree_compileStep same amounts h)

end Builder

/-- Outcomes that succeed or fail in the same way and leave queries of the same text. -/
structure Outcome.Alike (o o' : Outcome) : Prop where
  result : o.1 = o'.1
  query : o.2.SameText o'.2

namespace Clause

variable {d : Dialect} {q q' : Query}

theorem alike_attempt (same : q.SameText q') {result result' : Except Error Query}
    (h : Agree Query.SameText result result') :
    Outcome.Alike (attempt q result) (attempt q' result') := by
  cases h with
  | error e => exact ⟨rfl, same⟩
  | ok next => exact ⟨rfl, next⟩

/-- What is added one by one is refused alike, and what was added before has the same text. -/
theorem alike_addEach {α : Type} {R : α → α → Prop} {add : Query → α → Except Error Query}
    (h : ∀ q q' a a', q.SameText q' → R a a' → Agree Query.SameText (add q a) (add q' a'))
    (same : q.SameText q') {items others : List α} (related : List.Forall₂ R items others) :
    Outcome.Alike (addEach add q items) (addEach add q' others) := by
  induction related generalizing q q' with
  | nil => exact ⟨rfl, same⟩
  | cons here _ ih =>
    rename_i a a' _ _ _
    have added := h q q' a a' same here
    unfold addEach
    cases first : add q a with
    | error e =>
      rw [first] at added
      cases second : add q' a' with
      | error e' =>
        rw [second] at added
        cases added
        exact ⟨rfl, same⟩
      | ok next =>
        rw [second] at added
        cases added
    | ok next =>
      rw [first] at added
      cases second : add q' a' with
      | error e' =>
        rw [second] at added
        cases added
      | ok next' =>
        rw [second] at added
        cases added with
        | ok related => exact ih related

abbrev SameAtom (a a' : Atom) : Prop := a.sql = a'.sql

theorem agree_comparison (column : String) {x y : Comparand} (h : x.Alike y) :
    Agree SameAtom (comparison d column x) (comparison d column y) := by
  unfold comparison
  rw [h.operator, h.isNull]
  refine .after _ fun operator => ?_
  split
  · split
    · exact .after _ fun text => .ok rfl
    · exact .after _ fun text => .ok rfl
    · exact .after _ fun text => .ok rfl
    · exact .error _
  · exact .after _ fun text => .ok rfl

theorem agree_negation (column : String) {x y : Comparand} (h : x.Alike y) :
    Agree SameAtom (negation d column x) (negation d column y) := by
  unfold negation
  rw [h.operator, h.isNull]
  refine .after _ fun operator => ?_
  split
  · exact .error _
  · exact .after _ fun text => .ok rfl

theorem agree_membershipAtom (column : String) (negated : Bool) {values others : List Value}
    (h : values.length = others.length) :
    Agree SameAtom (membershipAtom d column values negated)
      (membershipAtom d column others negated) := by
  have marks : values.map (fun _ => "?") = others.map fun _ => "?" := by
    rw [List.map_const', List.map_const', h]
  have none : values.isEmpty = others.isEmpty := by
    rw [Bool.eq_iff_iff, List.isEmpty_iff_length_eq_zero, List.isEmpty_iff_length_eq_zero, h]
  unfold membershipAtom
  rw [none]
  split
  · exact .error _
  · refine .after _ fun text => .ok ?_
    rw [SameAtom, Atom.sql, Atom.sql, marks]

theorem alike_addAtom (same : q.SameText q') (connector : Value) {atom atom' : Except Error Atom}
    (h : Agree SameAtom atom atom') :
    Outcome.Alike (attempt q (addAtom q connector atom))
      (attempt q' (addAtom q' connector atom')) :=
  alike_attempt same (.after _ fun connector => h.bind fun _ _ texts =>
    .ok (same.addCondition connector texts))

theorem agree_addEquality (connector : Connector) (same : q.SameText q')
    {entry other : Key × Value} (h : SameEntry entry other) :
    Agree Query.SameText (addEquality d connector q entry) (addEquality d connector q' other) := by
  unfold addEquality
  rw [h.1]
  have compared : Comparand.Alike (.equalTo entry.2) (.equalTo other.2) := ⟨rfl, h.2⟩
  exact (agree_comparison _ compared).bind fun _ _ texts =>
    .ok (same.addCondition connector texts)

theorem agree_addHaving (same : q.SameText q') (column : String) {x y : Comparand}
    (h : x.operator = y.operator) :
    Agree Query.SameText (addHaving d q column x) (addHaving d q' column y) := by
  unfold addHaving
  rw [h]
  refine .after _ fun operator => .after _ fun text => .ok { same with havings := ?_ }
  rw [List.map_append, List.map_append, same.havings]
  rfl

theorem agree_setLimit (same : q.SameText q') (given : Value) :
    Agree Query.SameText (setLimit q given) (setLimit q' given) := by
  cases given with
  | int n =>
    simp only [setLimit]
    split
    · exact .error _
    · exact .ok { same with limit := rfl }
  | _ => exact .error _

/-- A limit and a page are part of the text, and so they are the same in both. -/
theorem agree_setPage (same : q.SameText q') (given : Value) :
    Agree Query.SameText (setPage q given) (setPage q' given) := by
  have limited : q.limit.isNone = q'.limit.isNone := by rw [same.limit]
  unfold setPage
  rw [limited]
  split
  · exact .error _
  · cases given with
    | int n =>
      simp only
      split
      · exact .error _
      · exact .ok { same with page := rfl }
    | _ => exact .error _

variable {b : Builder} {later : String}

/-- The entries of two mappings with the same keys are refused alike. -/
theorem alike_compareAll (same : q.SameText q') (connector : Value) {entries others : Row}
    (h : List.Forall₂ SameEntry entries others) :
    Outcome.Alike ((Clause.compareAll entries connector).apply b q)
      ((Clause.compareAll others connector).apply { b with now := later } q') := by
  simp only [apply]
  split
  · refine alike_addEach (R := SameEntry) ?_ same h
    exact fun _ _ _ _ same' here => agree_addEquality _ same' here
  · exact ⟨rfl, same⟩

/-- A step leaves queries of the same text and fails in the same way, if it does. -/
theorem alike_apply (same : q.SameText q') {c c' : Clause} (alike : c.Alike c') :
    Outcome.Alike (c.apply b q) (c'.apply { b with now := later } q') := by
  cases alike with
  | compare h =>
    rw [apply, apply]
    exact alike_addAtom same _ (agree_comparison _ h)
  | compareAll h => exact alike_compareAll same _ h
  | compareNot h =>
    rw [apply, apply]
    exact alike_addAtom same _ (agree_negation _ h)
  | membership h =>
    rw [apply, apply]
    exact alike_addAtom same _ (agree_membershipAtom _ _ h)
  | between =>
    rw [apply, apply]
    exact alike_addAtom same _ ((Agree.same _).map (by rintro text _ rfl; rfl))
  | having h =>
    rw [apply, apply]
    exact alike_attempt same (agree_addHaving same _ h)
  | same =>
    cases c with
    | reset => exact ⟨rfl, .refl _⟩
    | table name =>
      rw [apply, apply]
      exact alike_attempt (.refl {}) (.after _ fun text => .ok (.refl _))
    | select columns =>
      rw [apply, apply]
      exact alike_attempt same (.after _ fun texts => .ok { same with columns := rfl })
    | distinct => exact ⟨rfl, { same with distinct := rfl }⟩
    | join table left operator right kind =>
      rw [apply, apply]
      refine alike_attempt same (.after _ fun kind => .after _ fun operator => .after _ fun table =>
        .after _ fun left => .after _ fun right => .ok { same with joins := ?_ })
      rw [same.joins]
    | compare column x connector =>
      rw [apply, apply]
      exact alike_addAtom same _ (agree_comparison _ ⟨rfl, rfl⟩)
    | compareAll entries connector =>
      exact alike_compareAll same _ (List.forall₂_same.mpr fun _ _ => ⟨rfl, rfl⟩)
    | compareNot column x connector =>
      rw [apply, apply]
      exact alike_addAtom same _ (agree_negation _ ⟨rfl, rfl⟩)
    | membership column values negated connector =>
      rw [apply, apply]
      exact alike_addAtom same _ (agree_membershipAtom _ _ rfl)
    | nullness column negated connector =>
      rw [apply, apply]
      exact alike_addAtom same _ ((Agree.same _).map (by rintro text _ rfl; rfl))
    | between column low high connector =>
      rw [apply, apply]
      exact alike_addAtom same _ ((Agree.same _).map (by rintro text _ rfl; rfl))
    | trashed only =>
      rw [apply, apply]
      exact alike_addAtom same _ ((Agree.same _).map (by rintro text _ rfl; rfl))
    | groupBy columns =>
      rw [apply, apply]
      refine alike_addEach (R := Eq) ?_ same (List.forall₂_same.mpr fun _ _ => rfl)
      rintro q q' column _ same' rfl
      refine .after _ fun text => .ok { same' with groups := ?_ }
      rw [same'.groups]
    | having column x =>
      rw [apply, apply]
      exact alike_attempt same (agree_addHaving same _ rfl)
    | order column direction =>
      rw [apply, apply]
      refine alike_attempt same (.after _ fun direction => .after _ fun text =>
        .ok { same with orders := ?_ })
      rw [same.orders]
    | limit given =>
      rw [apply, apply]
      exact alike_attempt same (agree_setLimit same given)
    | page given =>
      rw [apply, apply]
      exact alike_attempt same (agree_setPage same given)
    | softDelete => exact ⟨rfl, { same with softDelete := rfl }⟩

end Clause

namespace Builder

variable {b : Builder} {later : String} {q q' : Query}

mutual

/-- A call leaves queries of the same text and fails in the same way, if it does. -/
theorem alike_apply {q q' : Query} (same : q.SameText q') : (call : Call) → {call' : Call} →
    call.Alike call' → Outcome.Alike (b.apply q call) (apply { b with now := later } q' call')
  | .clause c, _, .clause h => Clause.alike_apply same h
  | .group body connector, _, .group h _ => by
    rename_i body'
    have fresh : Query.SameText { table := q.table } { table := q'.table } := by
      rw [same.table]
      exact .refl _
    have inner := alike_applyAll fresh body h
    rw [apply, apply]
    cases Connector.ofValue connector with
    | error e => exact ⟨rfl, same⟩
    | ok connector =>
      cases ran : b.applyAll { table := q.table } body with
      | mk result nested =>
        cases ran' : applyAll { b with now := later } { table := q'.table } body' with
        | mk result' nested' =>
          rw [ran, ran'] at inner
          obtain ⟨results, texts⟩ := inner
          simp only at results texts
          subst results
          cases result with
          | error e => exact ⟨rfl, same⟩
          | ok done =>
            simp only [texts.conditions_isEmpty]
            split
            · exact ⟨rfl, same⟩
            · exact ⟨rfl, same.addCondition connector
                (Condition.sql_group_congr texts.conditions)⟩
  | .request r, _, .request h => ⟨(agree_compile same h).map_unit, same⟩
  | .job j, _, .job h => by
    refine ⟨?_, same⟩
    rw [apply, apply, h.operation]
  | .tolerated call, _, .tolerated h => ⟨rfl, (alike_apply same call h).query⟩

theorem alike_applyAll {q q' : Query} (same : q.SameText q') : (calls : List Call) →
    {calls' : List Call} → Call.AllAlike calls calls' →
    Outcome.Alike (b.applyAll q calls) (applyAll { b with now := later } q' calls')
  | [], _, .nil => ⟨rfl, same⟩
  | call :: rest, _, .cons h more => by
    rename_i call' rest'
    have first := alike_apply same call h
    rw [applyAll, applyAll]
    cases ran : b.apply q call with
    | mk result next =>
      cases ran' : apply { b with now := later } q' call' with
      | mk result' next' =>
        rw [ran, ran'] at first
        obtain ⟨results, texts⟩ := first
        simp only at results texts
        subst results
        cases result with
        | error e => exact ⟨rfl, texts⟩
        | ok done => exact alike_applyAll texts rest more

end

end Builder

end Sqlwright
