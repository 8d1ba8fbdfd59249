import Mathlib.Data.List.TakeWhile
import Sqlwright.Proofs.Query.Injection
import Sqlwright.Proofs.Query.Keywords
import Sqlwright.Proofs.Query.Shape
import Sqlwright.Proofs.Text.Strip

/-!
A WHERE clause says which conditions its query was given. Whatever calls pose a level of conditions,
nested groups included, they are accepted, and the text that comes out is read back as that level. So
a text stands for one structure of connectors and groups. Main statement: `Builder.where_readable`.
-/

namespace Sqlwright

open Text

namespace Identifier

theorem not_isBlank_of_isQualified {text : List Char} (h : isQualified text = true) {c : Char}
    (member : c ∈ text) : isBlank c = false := by
  rcases isTail_or_dot_of_isQualified h member with letter | rfl
  · exact not_isBlank_of_isTail letter
  · decide

end Identifier

namespace ColumnTerm

/-- A name of one word has no alias behind it. -/
theorem splitAlias?_eq_none {text : List Char} (h : ∀ c ∈ text, isBlank c = false) :
    splitAlias? text = none := by
  have whole : text.reverse.dropWhile (!isBlank ·) = [] := by
    rw [List.dropWhile_eq_nil_iff]
    intro c member
    rw [h c (List.mem_reverse.mp member)]
    rfl
  have one : splitLastWord? text = none := by
    unfold splitLastWord?
    rw [whole]
  rw [splitAlias?, one]

/-- A dotted name is neither an aggregate nor a name with an alias. -/
theorem read_of_isQualified {text : List Char} (h : Identifier.isQualified text = true) :
    read text = .plain text := by
  have blankless := fun c => Identifier.not_isBlank_of_isQualified h (c := c)
  have absent {c : Char} (foreign : Identifier.isTail c = false ∧ c ≠ '.') : c ∉ text := by
    intro member
    rcases Identifier.isTail_or_dot_of_isQualified h member with letter | dot
    · rw [foreign.1] at letter
      cases letter
    · exact foreign.2 dot
  have star : '*' ∉ text := absent (by decide)
  have bare : readAggregate? text = none := by
    have uncut : cutAt '(' text = none := by
      cases cut : cutAt '(' text with
      | none => rfl
      | some parts =>
        obtain ⟨before, after⟩ := parts
        refine absurd ?_ (absent (c := '(') (by decide))
        rw [eq_append_of_cutAt cut]
        simp
    rw [readAggregate?, uncut]
  have simple : readSimple text = .plain text := by
    have other : text ≠ ['*'] := by
      rintro rfl
      exact star (by simp)
    have unowned : ¬ ".*".toList.isSuffixOf text = true := by
      rw [List.isSuffixOf_iff_suffix]
      exact fun ends => star (ends.subset (by decide))
    rw [readSimple, if_neg other, if_neg unowned, bare]
    rfl
  rw [read]
  split
  · rename_i split
    rw [stripChars_eq blankless, splitAlias?_eq_none blankless] at split
    cases split
  · rw [stripChars_eq blankless, simple]

end ColumnTerm

/-- The texts by which a caller names a column plainly. -/
def ColumnName.Given (n : ColumnName) (text : String) : Prop :=
  ColumnTerm.read text.toList = .plain n.text.toList

theorem ColumnName.given_text (n : ColumnName) : n.Given n.text :=
  ColumnTerm.read_of_isQualified n.qualified

theorem ColumnName.Given.column {d : Dialect} {n : ColumnName} {text : String}
    (h : n.Given text) : d.column text = .ok (n.sql d) := by
  rw [Dialect.column, h, ColumnTerm.render, String.ofList_toList, n.quoteIdentifier_text d]

/-- The conditions that a step poses, each with its connector. The entries of a mapping are posed one
after another. -/
inductive Clause.Poses : Clause → List (Connector × Shape) → Prop
  | compare {n : ColumnName} {text : String} {comparand : Comparand} {operator : Comparison}
    {t : Test} {k : Connector} {given : Value} (named : n.Given text)
    (spelled : Comparison.ofValue comparand.operator = .ok operator)
    (made : Test.ofComparison? operator comparand.value.isNull = some t)
    (connects : Connector.ofValue given = .ok k) :
    Poses (.compare text comparand given) [(k, .test n t)]
  | compareAll {entries : Row} {tests : List (ColumnName × Test)} {k : Connector} {given : Value}
    (posed : List.Forall₂ (fun entry test => test.1.Given entry.1.plain ∧
      Test.ofComparison? .equal entry.2.isNull = some test.2) entries tests)
    (connects : Connector.ofValue given = .ok k) :
    Poses (.compareAll entries given) (tests.map fun test => (k, .test test.1 test.2))
  | compareNot {n : ColumnName} {text : String} {comparand : Comparand} {operator : Comparison}
    {k : Connector} {given : Value} (named : n.Given text)
    (spelled : Comparison.ofValue comparand.operator = .ok operator)
    (present : comparand.value.isNull = false) (connects : Connector.ofValue given = .ok k) :
    Poses (.compareNot text comparand given) [(k, .test n (.denied operator))]
  | membership {n : ColumnName} {text : String} {v : Value} {values : List Value} {negated : Bool}
    {k : Connector} {given : Value} (named : n.Given text)
    (connects : Connector.ofValue given = .ok k) :
    Poses (.membership text (v :: values) negated given)
      [(k, .test n (.listed negated values.length))]
  | nullness {n : ColumnName} {text : String} {negated : Bool} {k : Connector} {given : Value}
    (named : n.Given text) (connects : Connector.ofValue given = .ok k) :
    Poses (.nullness text negated given) [(k, .test n (.null negated))]
  | between {n : ColumnName} {text : String} {low high : Value} {k : Connector} {given : Value}
    (named : n.Given text) (connects : Connector.ofValue given = .ok k) :
    Poses (.between text low high given) [(k, .test n .range)]

/-- Calls that pose the conditions of a level. A group poses one condition, or none if its body
poses none. -/
inductive Poses : List Call → List (Connector × Shape) → Prop
  | none : Poses [] []
  | clause {c : Clause} {calls : List Call} {here later : List (Connector × Shape)}
    (h : c.Poses here) (next : Poses calls later) : Poses (.clause c :: calls) (here ++ later)
  | group {body calls : List Call} {given : Value} {k inner : Connector} {first : Shape}
    {others later : List (Connector × Shape)} (connects : Connector.ofValue given = .ok k)
    (members : Poses body ((inner, first) :: others)) (next : Poses calls later) :
    Poses (.group body given :: calls) ((k, .group first others) :: later)
  | emptyGroup {body calls : List Call} {given : Value} {k : Connector}
    {later : List (Connector × Shape)} (connects : Connector.ofValue given = .ok k)
    (members : Poses body []) (next : Poses calls later) :
    Poses (.group body given :: calls) later

def Query.addConditions (q : Query) (level : Level) : Query :=
  { q with conditions := q.conditions ++ level }

theorem Query.addConditions_nil (q : Query) : q.addConditions [] = q := by
  rw [addConditions, List.append_nil]

theorem Query.addConditions_append (q : Query) (here later : Level) :
    (q.addConditions here).addConditions later = q.addConditions (here ++ later) := by
  simp only [addConditions, List.append_assoc]

/-- A condition that is written as a shape is, behind the same connector. -/
def Shape.Writes (d : Dialect) (entry : Connector × Condition) (s : Connector × Shape) : Prop :=
  entry.1 = s.1 ∧ entry.2.sql = s.2.sql d

namespace Shape

variable {d : Dialect} {level : Level} {shapes : List (Connector × Shape)}

theorem join_texts_behind (written : List.Forall₂ (Writes d) level shapes) (front : String) :
    join " " (front :: Condition.texts false level) = front ++ behind d shapes := by
  induction written generalizing front with
  | nil => simp [Condition.texts, join, behind]
  | @cons entry s _ _ here _ ih =>
    obtain ⟨connector, text⟩ := here
    rw [Condition.texts, join, ih, behind, connector, text]
    simp [Condition.connected, Connector.word, String.append_assoc]

/-- A level is written with its connectors between its conditions. -/
theorem join_texts {entry : Connector × Condition} {first : Connector × Shape}
    (written : List.Forall₂ (Writes d) (entry :: level) (first :: shapes)) :
    join " " (Condition.texts true (entry :: level)) = first.2.sql d ++ behind d shapes := by
  obtain ⟨⟨-, text⟩, others⟩ := List.forall₂_cons.mp written
  rw [Condition.texts, join_texts_behind others, Condition.connected, if_pos rfl, text]

end Shape

namespace Clause

variable {b : Builder} {d : Dialect} {q : Query} {n : ColumnName} {k : Connector} {given : Value}

theorem applied_addAtom {atom : Except Error Atom} {a : Atom} {t : Test}
    (connects : Connector.ofValue given = .ok k) (made : atom = .ok a)
    (text : a.sql = t.sql (n.sql d)) :
    ∃ level : Level, attempt q (addAtom q given atom) =
        (.ok (), q.addConditions level) ∧
      List.Forall₂ (Shape.Writes d) level [(k, .test n t)] := by
  have added : addAtom q given atom = .ok (q.addCondition k (.atom a)) :=
    addAtom_eq_ok.mpr ⟨k, a, connects, made, rfl⟩
  have written : Shape.Writes d (k, .atom a) (k, .test n t) := ⟨rfl, text⟩
  exact ⟨[(k, .atom a)], by rw [added]; rfl, .cons written .nil⟩

/-- A comparison is written as the test that its operator and its value come to. -/
theorem comparison_of_given {text : String} {comparand : Comparand} {operator : Comparison}
    {t : Test} (named : n.Given text)
    (spelled : Comparison.ofValue comparand.operator = .ok operator)
    (made : Test.ofComparison? operator comparand.value.isNull = some t) :
    ∃ a, comparison d text comparand = .ok a ∧ a.sql = t.sql (n.sql d) := by
  have column := named.column (d := d)
  cases absent : comparand.value.isNull with
  | false =>
    rw [absent] at made
    cases made
    refine ⟨.comparison (n.sql d) operator comparand.value, ?_, ?_⟩
    · simp [comparison, spelled, absent, column, bind, Except.bind, pure, Except.pure]
    · exact Atom.sql_eq_test rfl
  | true =>
    rw [absent] at made
    cases operator with
    | equal =>
      cases made
      refine ⟨.nullness (n.sql d) false, ?_, Atom.sql_eq_test rfl⟩
      simp [comparison, spelled, absent, column, bind, Except.bind, pure, Except.pure]
    | unequal | differs =>
      cases made
      refine ⟨.nullness (n.sql d) true, ?_, Atom.sql_eq_test rfl⟩
      simp [comparison, spelled, absent, column, bind, Except.bind, pure, Except.pure]
    | less | atMost | greater | atLeast | like | notLike => cases made

/-- Every step that poses conditions is accepted and adds just them. -/
theorem Poses.applied {c : Clause} {shapes : List (Connector × Shape)} (h : c.Poses shapes)
    (b : Builder) (q : Query) :
    ∃ level : Level, c.apply b q = (.ok (), q.addConditions level) ∧
      List.Forall₂ (Shape.Writes b.dialect) level shapes := by
  cases h with
  | compare named spelled made connects =>
    obtain ⟨a, compared, text⟩ := comparison_of_given named spelled made
    exact applied_addAtom connects compared text
  | @compareAll entries tests k given posed connects =>
    rw [apply, connects]
    dsimp only
    clear connects
    induction posed generalizing q with
    | nil => exact ⟨[], by rw [addEach, q.addConditions_nil], .nil⟩
    | @cons entry test entries tests here _ ih =>
      obtain ⟨a, compared, text⟩ := comparison_of_given here.1 (ofValue_equal (v := entry.2)) here.2
      have added : addEquality b.dialect k q entry = .ok (q.addConditions [(k, .atom a)]) :=
        bind_eq_ok.mpr ⟨a, compared, rfl⟩
      have written : Shape.Writes b.dialect (k, .atom a) (k, .test test.1 test.2) := ⟨rfl, text⟩
      obtain ⟨more, applied, written'⟩ := ih (q.addConditions [(k, .atom a)])
      refine ⟨(k, .atom a) :: more, ?_, .cons written written'⟩
      rw [addEach, added]
      simp only [applied, q.addConditions_append, List.cons_append, List.nil_append]
  | @compareNot n text comparand operator k given named spelled present connects =>
    have made : negation b.dialect text comparand =
        .ok (.negation (n.sql b.dialect) operator comparand.value) := by
      simp [negation, spelled, present, named.column, bind, Except.bind, pure, Except.pure]
    exact applied_addAtom connects made (Atom.sql_eq_test rfl)
  | @membership n text v values negated k given named connects =>
    have made : membershipAtom b.dialect text (v :: values) negated =
        .ok (.membership (n.sql b.dialect) negated (v :: values)) := by
      simp [membershipAtom, named.column, bind, Except.bind, pure, Except.pure]
    exact applied_addAtom connects made (Atom.sql_eq_test rfl)
  | nullness named connects =>
    exact applied_addAtom connects (congrArg _ named.column) (Atom.sql_eq_test rfl)
  | between named connects =>
    exact applied_addAtom connects (congrArg _ named.column) (Atom.sql_eq_test rfl)

end Clause

theorem Poses.applied {calls : List Call} {shapes : List (Connector × Shape)}
    (h : Poses calls shapes) (b : Builder) (q : Query) :
    ∃ level : Level, b.applyAll q calls = (.ok (), q.addConditions level) ∧
      List.Forall₂ (Shape.Writes b.dialect) level shapes := by
  induction h generalizing q with
  | none => exact ⟨[], by rw [Builder.applyAll, q.addConditions_nil], .nil⟩
  | clause posed _ ih =>
    obtain ⟨here, accepted, written⟩ := posed.applied b q
    obtain ⟨later, applied, written'⟩ := ih (q.addConditions here)
    refine ⟨here ++ later, ?_, List.rel_append written written'⟩
    rw [Builder.applyAll, Builder.apply, accepted]
    simp only [applied, q.addConditions_append]
  | @group body calls given k inner first others later connects _ _ members ih =>
    obtain ⟨level, applied, written⟩ := members { table := q.table }
    obtain ⟨entry, rest, rfl⟩ : ∃ entry rest, level = entry :: rest := by
      cases written with
      | cons => exact ⟨_, _, rfl⟩
    have posed : Shape.Writes b.dialect (k, .group (entry :: rest)) (k, .group first others) := by
      refine ⟨rfl, ?_⟩
      rw [Condition.sql, Shape.sql, Shape.join_texts written, String.append_assoc,
        String.append_assoc]
    obtain ⟨more, applied', written'⟩ := ih (q.addConditions [(k, .group (entry :: rest))])
    refine ⟨(k, .group (entry :: rest)) :: more, ?_, .cons posed written'⟩
    rw [q.addConditions_append] at applied'
    rw [Builder.applyAll, Builder.apply]
    simp only [connects, applied]
    exact applied'
  | @emptyGroup body calls given k later connects _ _ members ih =>
    obtain ⟨level, applied, written⟩ := members { table := q.table }
    cases written
    obtain ⟨more, applied', written'⟩ := ih q
    refine ⟨more, ?_, written'⟩
    rw [Builder.applyAll, Builder.apply]
    simp only [connects, applied]
    exact applied'

theorem Comparison.ofValue_sql (operator : Comparison) :
    ofValue (.text operator.sql) = .ok operator := by
  have spelled : ofText? operator.sql = some operator := by cases operator <;> decide +kernel
  rw [ofValue, spelled]

theorem Connector.ofValue_sql (connector : Connector) :
    ofValue (.text connector.sql) = .ok connector := by
  cases connector <;> rfl

def Test.clause (column : String) (connector : Value) : Test → Clause
  | .compared operator => .compare column (.by (.text operator.sql) (.int 0)) connector
  | .denied operator => .compareNot column (.by (.text operator.sql) (.int 0)) connector
  | .listed negated more =>
    .membership column (.int 0 :: List.replicate more (.int 0)) negated connector
  | .null negated => .nullness column negated connector
  | .range => .between column (.int 0) (.int 0) connector

namespace Shape

mutual

def call (connector : Connector) : Shape → Call
  | .test column t => .clause (t.clause column.text (.text connector.sql))
  | .group first others => .group (call .and first :: calls others) (.text connector.sql)

def calls : List (Connector × Shape) → List Call
  | [] => []
  | (connector, s) :: rest => call connector s :: calls rest

end

theorem poses_clause (k : Connector) (n : ColumnName) (t : Test) :
    (t.clause n.text (.text k.sql)).Poses [(k, .test n t)] := by
  have connects := k.ofValue_sql
  cases t with
  | compared operator => exact .compare n.given_text operator.ofValue_sql rfl connects
  | denied operator => exact .compareNot n.given_text operator.ofValue_sql rfl connects
  | listed negated more =>
    let zeros : List Value := List.replicate more (.int 0)
    have posed : Clause.Poses (.membership n.text (.int 0 :: zeros) negated (.text k.sql))
        [(k, .test n (.listed negated zeros.length))] := .membership n.given_text connects
    rwa [List.length_replicate] at posed
  | null negated => exact .nullness n.given_text connects
  | range => exact .between n.given_text connects

mutual

/-- Every shape can be posed by a call, whatever is posed behind it. -/
theorem poses_call (k : Connector) : (s : Shape) → {calls : List Call} →
    {later : List (Connector × Shape)} → Poses calls later →
    Poses (s.call k :: calls) ((k, s) :: later)
  | .test column t, _, _, next => .clause (poses_clause k column t) next
  | .group first others, _, _, next =>
    .group k.ofValue_sql (poses_call .and first (poses_calls others)) next

/-- Every level of conditions is posed by some calls. -/
theorem poses_calls : (level : List (Connector × Shape)) → Poses (calls level) level
  | [] => .none
  | (connector, s) :: rest => poses_call connector s (poses_calls rest)

end

/-- The WHERE clause of a query depends on the shape of its conditions alone. -/
theorem whereSql_of_writes {d : Dialect} {q : Query} {k : Connector} {first : Shape}
    {others : List (Connector × Shape)}
    (written : List.Forall₂ (Writes d) q.conditions ((k, first) :: others)) :
    q.whereSql = whereSql d first others := by
  cases conditions : q.conditions with
  | nil =>
    rw [conditions] at written
    cases written
  | cons entry rest =>
    rw [conditions] at written
    rw [Query.whereSql, Query.whereTexts, conditions, join_texts written]
    rfl

end Shape

namespace Builder

variable {b : Builder} {name : Option String} {table : String}

/-- Calls that pose a level of conditions write its text and nothing else. -/
theorem applied_whereSql {calls : List Call} {k : Connector} {first : Shape}
    {others : List (Connector × Shape)} (posed : Poses calls ((k, first) :: others)) (b : Builder)
    {q : Query} (bare : q.conditions = []) :
    ∃ level : Level, b.applyAll q calls = (.ok (), q.addConditions level) ∧
      (q.addConditions level).whereSql = Shape.whereSql b.dialect first others := by
  obtain ⟨level, applied, written⟩ := posed.applied b q
  have conditions : (q.addConditions level).conditions = level := by
    rw [Query.addConditions, bare, List.nil_append]
  exact ⟨level, applied, Shape.whereSql_of_writes (conditions ▸ written)⟩

/-- A query of conditions alone compiles to its WHERE clause behind the table. -/
theorem compileSelect_conditions {d : Dialect} (present : table ≠ "") (level : Level) :
    let q : Query := { name := name, table := some table, conditions := level }
    q.compileSelect d = .ok ⟨"SELECT * FROM " ++ table ++ q.whereSql, q.whereParams⟩ := by
  intro q
  have given : q.requireTable = .ok table := Query.requireTable_eq_ok.mpr ⟨rfl, present⟩
  have text : q.selectSql (join ", " q.columns) table ++ q.orderSql =
      "SELECT * FROM " ++ table ++ q.whereSql := by
    simp [Query.selectSql, Query.joinsSql, Query.groupingSql, Query.orderSql, join, q]
  have uncut : Pagination.apply d (q.selectSql (join ", " q.columns) table ++ q.orderSql) q.limit
      q.offset q.isOrdered = .ok ("SELECT * FROM " ++ table ++ q.whereSql) := by
    rw [text]
    rfl
  have params : q.params = q.whereParams := List.append_nil _
  simp only [Query.compileSelect, given, uncut, params, bind, Except.bind]
  rfl

/-- Every level of conditions, nested as it may be, can be posed. However it is posed to a built-in
database, the calls are accepted and the query compiles to a statement whose WHERE clause is read back
as the level. So no other level gives the same WHERE clause, whatever database it is posed to. -/
theorem where_readable (known : b.dialect ∈ Dialect.builtIn) (present : table ≠ "")
    (k : Connector) (first : Shape) (others : List (Connector × Shape)) :
    (∃ calls, Poses calls ((k, first) :: others)) ∧
    ∀ calls, Poses calls ((k, first) :: others) → ∃ next,
      b.applyAll { name := name, table := some table } calls = (.ok (), next) ∧
      next.compileSelect b.dialect =
        .ok ⟨"SELECT * FROM " ++ table ++ next.whereSql, next.whereParams⟩ ∧
      Shape.readWhere next.whereSql = some (first, others) ∧
      ∀ (b' : Builder) (q' next' : Query) calls' k' first' others',
        b'.dialect ∈ Dialect.builtIn → q'.conditions = [] →
        Poses calls' ((k', first') :: others') → b'.applyAll q' calls' = (.ok (), next') →
        next'.whereSql = next.whereSql → first' = first ∧ others' = others := by
  refine ⟨⟨_, Shape.poses_calls _⟩, ?_⟩
  intro calls posed
  obtain ⟨level, applied, text⟩ := applied_whereSql posed b
    (q := { name := name, table := some table }) rfl
  have readable : Shape.readWhere (({ name := name, table := some table } : Query).addConditions
      level).whereSql = some (first, others) := by
    obtain ⟨opening, closing, apart⟩ := Dialect.apart_of_mem_builtIn known
    rw [text, Shape.readWhere_sql apart]
  refine ⟨_, applied, ?_, readable, ?_⟩
  · exact compileSelect_conditions present level
  · intro b' q' next' calls' k' first' others' known' bare' posed' applied' same
    obtain ⟨opening, closing, apart⟩ := Dialect.apart_of_mem_builtIn known'
    obtain ⟨level', accepted, text'⟩ := applied_whereSql posed' b' bare'
    rw [applied'] at accepted
    cases accepted
    rw [← same, text', Shape.readWhere_sql apart] at readable
    cases readable
    exact ⟨rfl, rfl⟩

/-- Calls for users of a role, or without one and not deleted; one group is left empty. -/
def nestedCalls : List Call :=
  [.group [] (.text "AND"),
    .clause (.membership "role" [.int 1, .int 2] false (.text "AND")),
    .group
      [.clause (.nullness "role" false (.text "OR")), .group [.group [] (.text "OR")] (.text "OR"),
        .clause (.nullness "u.deleted_at" false (.text "AND"))]
      (.text "OR")]

theorem where_readable_nestedCalls :
    ∃ next, applyAll { dialect := Dialect.sqlServer } { table := some "[users] [u]" } nestedCalls =
        (.ok (), next) ∧
      Shape.readWhere next.whereSql =
        some (.test ⟨"role", by decide⟩ (.listed false 1),
          [(.or, .group (.test ⟨"role", by decide⟩ (.null false))
            [(.and, .test ⟨"u.deleted_at", by decide⟩ (.null false))])]) := by
  let role : ColumnName := ⟨"role", by decide⟩
  let deleted : ColumnName := ⟨"u.deleted_at", by decide⟩
  have conjoins : Connector.ofValue (.text "AND") = .ok .and := Connector.ofValue_sql .and
  have disjoins : Connector.ofValue (.text "OR") = .ok .or := Connector.ofValue_sql .or
  have listed : Clause.Poses (.membership "role" [.int 1, .int 2] false (.text "AND"))
      [(.and, .test role (.listed false 1))] := .membership role.given_text conjoins
  have inner : Poses
      [.clause (.nullness "role" false (.text "OR")), .group [.group [] (.text "OR")] (.text "OR"),
        .clause (.nullness "u.deleted_at" false (.text "AND"))]
      [(.or, .test role (.null false)), (.and, .test deleted (.null false))] :=
    .clause (.nullness role.given_text disjoins)
      (.emptyGroup disjoins (.emptyGroup disjoins .none .none)
        (.clause (.nullness deleted.given_text conjoins) .none))
  have posed : Poses nestedCalls [(.and, .test role (.listed false 1)),
      (.or, .group (.test role (.null false)) [(.and, .test deleted (.null false))])] :=
    .emptyGroup conjoins .none (.clause listed (.group disjoins inner .none))
  have known : Dialect.sqlServer ∈ Dialect.builtIn := by simp [Dialect.builtIn]
  obtain ⟨-, readable⟩ := @where_readable { dialect := Dialect.sqlServer } none "[users] [u]" known
    (by decide) _ _ _
  obtain ⟨next, applied, -, read, -⟩ := readable nestedCalls posed
  exact ⟨next, applied, read⟩

end Builder

end Sqlwright
