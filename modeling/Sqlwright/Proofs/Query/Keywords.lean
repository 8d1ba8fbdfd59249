import Sqlwright.Proofs.Query.Mutation

/-!
The words that callers put into statements. Operators, kinds of join, directions and connectors come
out of closed sets: a call with a word outside its set is refused and changes nothing, and an
accepted one adds the words that were spelled (`Call.Adds`). The operator of a change by an amount is
in no set: it is written as it is given, and only the work for a connection is bound to plus and
minus. Main statement: `Session.words_closed`.
-/

namespace Sqlwright

open Text

/-- The places in a statement that take a word out of a closed set. -/
inductive Place
  | comparison | joinKind | direction | connector

namespace Place

def words : Place → List String
  | .comparison => ["=", "!=", "<>", "<", "<=", ">", ">=", "LIKE", "NOT LIKE"]
  | .joinKind => ["INNER", "LEFT", "RIGHT"]
  | .direction => ["ASC", "DESC"]
  | .connector => ["AND", "OR"]

/-- What a value spells in a place: its text in capitals, for a comparison with one blank between
words. Only a text spells a comparison. -/
def spelled? : Place → Value → Option String
  | .comparison, .text s =>
    some (join " " ((wordLists (capitals s.toList)).map String.ofList))
  | .comparison, _ => none
  | .joinKind, given | .direction, given | .connector, given => some given.keyword

/-- How a place refuses a value. -/
def refusal : Place → Value → Error
  | .comparison => .invalidOperator
  | .joinKind => .invalidJoinType
  | .direction => .invalidDirection
  | .connector => .invalidConnector

/-- The word that a place takes a value for. -/
def Takes (p : Place) (given : Value) (word : String) : Prop :=
  p.spelled? given = some word ∧ word ∈ p.words

/-- How a value is read for a place: as the member that it spells, or not at all. -/
inductive Reads {α : Type} (p : Place) (sql : α → String) (given : Value) : Except Error α → Prop
  | taken {a : α} (h : p.Takes given (sql a)) : Reads p sql given (.ok a)
  | refused (h : ∀ word, ¬ p.Takes given word) : Reads p sql given (.error (p.refusal given))

theorem not_takes {p : Place} {given : Value} (h : p.spelled? given = none) (word : String) :
    ¬ p.Takes given word := by
  rintro ⟨spells, -⟩
  rw [h] at spells
  cases spells

/-- A value is read by looking for the member that it spells, if the members are those of the
place. -/
theorem reads_of_find? {α : Type} {p : Place} (all : List α) {sql : α → String}
    (closed : all.map sql = p.words) {given : Value} {spelled : String}
    (spells : p.spelled? given = some spelled) {result : Except Error α}
    (found : ∀ a, all.find? (sql · = spelled) = some a → result = .ok a)
    (absent : all.find? (sql · = spelled) = none → result = .error (p.refusal given)) :
    p.Reads sql given result := by
  cases member : all.find? (sql · = spelled) with
  | some a =>
    have same : sql a = spelled := by simpa using List.find?_some member
    have known : sql a ∈ all.map sql := List.mem_map_of_mem (List.mem_of_find?_eq_some member)
    rw [found a member]
    exact .taken ⟨by rw [spells, same], closed ▸ known⟩
  | none =>
    rw [absent member]
    refine .refused ?_
    rintro word ⟨spells', known⟩
    obtain rfl : spelled = word := by
      rw [spells] at spells'
      exact Option.some.inj spells'
    rw [← closed] at known
    obtain ⟨a, inside, same⟩ := List.mem_map.mp known
    have other := List.find?_eq_none.mp member a inside
    exact other (by simpa using same)

end Place

theorem Comparison.reads_ofValue (given : Value) :
    Place.comparison.Reads sql given (ofValue given) := by
  cases given with
  | text s =>
    refine Place.reads_of_find? all rfl rfl ?_ ?_
    · intro operator found
      simp only [ofValue, ofText?, found]
    · intro absent
      simp only [ofValue, ofText?, absent, Place.refusal]
  | _ => exact .refused (Place.not_takes rfl)

theorem JoinKind.reads_ofValue (given : Value) :
    Place.joinKind.Reads sql given (ofValue given) := by
  refine Place.reads_of_find? [inner, left, right] rfl rfl ?_ ?_
  · intro kind found
    simp only [ofValue, found]
  · intro absent
    simp only [ofValue, absent, Place.refusal]

theorem Direction.reads_ofValue (given : Value) :
    Place.direction.Reads sql given (ofValue given) := by
  refine Place.reads_of_find? [ascending, descending] rfl rfl ?_ ?_
  · intro direction found
    simp only [ofValue, found]
  · intro absent
    simp only [ofValue, absent, Place.refusal]

theorem Connector.reads_ofValue (given : Value) :
    Place.connector.Reads sql given (ofValue given) := by
  refine Place.reads_of_find? [and, or] rfl rfl ?_ ?_
  · intro connector found
    simp only [ofValue, found]
  · intro absent
    simp only [ofValue, absent, Place.refusal]

def Atom.operator? : Atom → Option String
  | .comparison _ operator _ | .negation _ operator _ => some operator.sql
  | .membership .. | .nullness .. | .range .. => none

/-- The words that a step is given, each with its place. A mapping compares for equality. -/
def Clause.words : Clause → List (Place × Value)
  | .join _ _ operator _ kind => [(.joinKind, kind), (.comparison, operator)]
  | .compare _ comparand connector | .compareNot _ comparand connector =>
    [(.connector, connector), (.comparison, comparand.operator)]
  | .compareAll _ connector => [(.connector, connector), (.comparison, .text "=")]
  | .membership _ _ _ connector | .nullness _ _ connector | .between _ _ _ connector =>
    [(.connector, connector)]
  | .having _ comparand => [(.comparison, comparand.operator)]
  | .order _ direction => [(.direction, direction)]
  | _ => []

namespace Call

/-- The words that a call is given. The calls in a group have words of their own. -/
def words : Call → List (Place × Value)
  | .clause c => c.words
  | .group _ connector => [(.connector, connector)]
  | _ => []

/-- The words that a call spells and that their places take. -/
def Gives (call : Call) (p : Place) (word : String) : Prop :=
  ∃ given, (p, given) ∈ call.words ∧ p.Takes given word

/-- What an accepted call adds to a query: what is written with the words that it gives, and nothing
else. -/
inductive Adds (call : Call) (q : Query) : Query → Prop
  | join {j : Join} (kind : call.Gives .joinKind j.kind.sql)
    (operator : call.Gives .comparison j.operator.sql) :
    Adds call q { q with joins := q.joins ++ [j] }
  | having {entry : Having} (operator : call.Gives .comparison entry.operator.sql) :
    Adds call q { q with havings := q.havings ++ [entry] }
  | order {entry : Ordering} (direction : call.Gives .direction entry.direction.sql) :
    Adds call q { q with orders := q.orders ++ [entry] }
  | conditions {connector : Connector} (added : List Condition)
    (connects : call.Gives .connector connector.sql)
    (compares : ∀ a word, .atom a ∈ added → a.operator? = some word → call.Gives .comparison word) :
    Adds call q { q with conditions := q.conditions ++ added.map (connector, ·) }

/-- Whether all words of a call are taken. -/
def Taken (call : Call) : Prop :=
  ∀ p given, (p, given) ∈ call.words → ∃ word, p.Takes given word

/-- What a call comes to: it adds a piece, or it is refused, for a word or else for another reason
once all words are taken. A refusal for a word changes nothing. -/
inductive Comes (call : Call) (q : Query) : Outcome → Prop
  | adds {next : Query} (taken : call.Taken) (h : call.Adds q next) : Comes call q (.ok (), next)
  | word {p : Place} {given : Value} (member : (p, given) ∈ call.words)
    (h : ∀ word, ¬ p.Takes given word) : Comes call q (.error (p.refusal given), q)
  | other {e : Error} {next : Query} (taken : call.Taken) : Comes call q (.error e, next)

variable {call : Call} {q : Query} {d : Dialect}

theorem taken_one {p : Place} {given : Value} (words : call.words = [(p, given)]) {word : String}
    (h : p.Takes given word) : call.Taken := by
  intro p' given' member
  obtain ⟨rfl, rfl⟩ : p' = p ∧ given' = given := by simpa [words] using member
  exact ⟨word, h⟩

theorem taken_two {p other : Place} {given given' : Value}
    (words : call.words = [(p, given), (other, given')]) {word word' : String}
    (h : p.Takes given word) (h' : other.Takes given' word') : call.Taken := by
  intro place value member
  rw [words, List.mem_pair, Prod.mk.injEq, Prod.mk.injEq] at member
  rcases member with ⟨rfl, rfl⟩ | ⟨rfl, rfl⟩
  · exact ⟨word, h⟩
  · exact ⟨word', h'⟩

/-- A call that reads a word first comes to a refusal, or to what it does with the word. -/
theorem comes_of_reads {α : Type} {p : Place} {sql : α → String} {given : Value}
    {read : Except Error α} (reads : p.Reads sql given read) (member : (p, given) ∈ call.words)
    {outcome : Outcome} (refused : ∀ e, read = .error e → outcome = (.error e, q))
    (taken : ∀ a, read = .ok a → p.Takes given (sql a) → call.Comes q outcome) :
    call.Comes q outcome := by
  cases reads with
  | taken h => exact taken _ rfl h
  | refused h =>
    rw [refused _ rfl]
    exact .word member h

/-- A step that reads a word first is refused for it, or goes on with a word that is known. -/
theorem comes_read {α : Type} {p : Place} {sql : α → String} {given : Value}
    {read : Except Error α} (reads : p.Reads sql given read) (member : (p, given) ∈ call.words)
    {rest : α → Except Error Query}
    (next : ∀ a, p.Takes given (sql a) → call.Comes q (Clause.attempt q (rest a))) :
    call.Comes q (Clause.attempt q (read >>= rest)) := by
  refine comes_of_reads reads member ?_ ?_
  · rintro e rfl
    rfl
  · rintro a rfl h
    exact next a h

theorem comes_attempt {result : Except Error Query} (taken : call.Taken)
    (h : ∀ next, result = .ok next → call.Adds q next) :
    call.Comes q (Clause.attempt q result) := by
  cases result with
  | error e => exact .other taken
  | ok next => exact .adds taken (h next rfl)

theorem comes_addAtom {connector : Value} (words : call.words = [(.connector, connector)])
    {atom : Except Error Atom} (h : ∀ a, atom = .ok a → a.operator? = none) :
    call.Comes q (Clause.attempt q (Clause.addAtom q connector atom)) := by
  have member : (Place.connector, connector) ∈ call.words := by simp [words]
  refine comes_read (Connector.reads_ofValue connector) member fun k hk => ?_
  refine comes_attempt (taken_one words hk) fun next made => ?_
  obtain ⟨a, ha, made⟩ := bind_eq_ok.mp made
  cases made
  refine .conditions [.atom a] ⟨connector, member, hk⟩ ?_
  rintro other word inside written
  obtain rfl : other = a := by simpa using inside
  rw [h other ha] at written
  cases written

/-- A condition that is made with an operator of the caller's is written with it or without any. -/
theorem comes_addCompared {connector operator : Value}
    (words : call.words = [(.connector, connector), (.comparison, operator)])
    {atom : Except Error Atom}
    (refused : ∀ e, Comparison.ofValue operator = .error e → atom = .error e)
    (made : ∀ o a, Comparison.ofValue operator = .ok o → atom = .ok a →
      ∀ word, a.operator? = some word → word = o.sql) :
    call.Comes q (Clause.attempt q (Clause.addAtom q connector atom)) := by
  have connects : (Place.connector, connector) ∈ call.words := by simp [words]
  have compares : (Place.comparison, operator) ∈ call.words := by simp [words]
  refine comes_read (Connector.reads_ofValue connector) connects fun k hk => ?_
  refine comes_of_reads (Comparison.reads_ofValue operator) compares ?_ fun o read ho => ?_
  · intro e failed
    rw [refused e failed]
    rfl
  · refine comes_attempt (taken_two words hk ho) fun next added => ?_
    obtain ⟨a, ha, added⟩ := bind_eq_ok.mp added
    cases added
    refine .conditions [.atom a] ⟨connector, connects, hk⟩ ?_
    rintro other word inside written
    obtain rfl : other = a := by simpa using inside
    obtain rfl := made o other read ha word written
    exact ⟨operator, compares, ho⟩

end Call

namespace Clause

variable {b : Builder} {d : Dialect} {q next : Query} {column : String} {comparand : Comparand}
  {o : Comparison} {a : Atom}

/-- The operator that is written is the one that was read. -/
theorem operator_of_comparison (read : Comparison.ofValue comparand.operator = .ok o)
    (h : comparison d column comparand = .ok a) {word : String}
    (written : a.operator? = some word) : word = o.sql := by
  unfold comparison at h
  obtain ⟨o', read', h⟩ := bind_eq_ok.mp h
  obtain rfl : o = o' := by
    rw [read] at read'
    exact Except.ok.inj read'
  have nullness {negated : Bool}
      (h : (do return .nullness (← d.column column) negated : Except Error Atom) = .ok a) :
      word = o.sql := by
    obtain ⟨text, -, h⟩ := bind_eq_ok.mp h
    cases h
    cases written
  split at h
  · cases o with
    | equal | unequal | differs => exact nullness h
    | less | atMost | greater | atLeast | like | notLike => cases h
  · obtain ⟨text, -, h⟩ := bind_eq_ok.mp h
    cases h
    exact (Option.some.inj written).symm

theorem operator_of_negation (read : Comparison.ofValue comparand.operator = .ok o)
    (h : negation d column comparand = .ok a) {word : String}
    (written : a.operator? = some word) : word = o.sql := by
  unfold negation at h
  obtain ⟨o', read', h⟩ := bind_eq_ok.mp h
  obtain rfl : o = o' := by
    rw [read] at read'
    exact Except.ok.inj read'
  split at h
  · cases h
  · obtain ⟨text, -, h⟩ := bind_eq_ok.mp h
    cases h
    exact (Option.some.inj written).symm

/-- The entries of a mapping are compared for equality, all under one connector. -/
theorem addEqualities_eq_ok {connector : Connector} {entries : Row}
    (h : addEach (addEquality d connector) q entries = (.ok (), next)) :
    ∃ added : List Condition,
      next = { q with conditions := q.conditions ++ added.map (connector, ·) } ∧
      ∀ a word, .atom a ∈ added → a.operator? = some word → word = "=" := by
  induction entries generalizing q with
  | nil =>
    cases h
    exact ⟨[], by simp, by simp⟩
  | cons entry rest ih =>
    unfold addEach at h
    cases made : addEquality d connector q entry with
    | error e =>
      rw [made] at h
      cases h
    | ok middle =>
      rw [made] at h
      obtain ⟨a, ha, made⟩ := bind_eq_ok.mp made
      cases made
      obtain ⟨added, rfl, equal⟩ := ih h
      refine ⟨.atom a :: added, by simp [Query.addCondition], ?_⟩
      intro other word inside written
      rcases List.mem_cons.mp inside with here | later
      · cases here
        exact operator_of_comparison ofValue_equal ha written
      · exact equal other word later written

/-- A step that is given words comes to what they make. -/
theorem comes_of_apply (c : Clause) (given : c.words ≠ []) :
    (Call.clause c).Comes q (c.apply b q) := by
  cases c with
  | join table left operator right kind =>
    refine Call.comes_read (JoinKind.reads_ofValue kind) (by simp [Call.words, words]) fun k hk => ?_
    refine Call.comes_read (Comparison.reads_ofValue operator) (by simp [Call.words, words])
      fun o ho => ?_
    refine Call.comes_attempt (Call.taken_two rfl hk ho) fun next made => ?_
    obtain ⟨target, -, made⟩ := bind_eq_ok.mp made
    obtain ⟨first, -, made⟩ := bind_eq_ok.mp made
    obtain ⟨second, -, made⟩ := bind_eq_ok.mp made
    cases made
    exact .join ⟨kind, by simp [Call.words, words], hk⟩ ⟨operator, by simp [Call.words, words], ho⟩
  | compare column comparand connector =>
    refine Call.comes_addCompared rfl ?_ fun o a read made word => operator_of_comparison read made
    intro e read
    simp only [comparison, read]
    rfl
  | compareAll entries connector =>
    have connects : (Place.connector, connector) ∈
        (Call.clause (.compareAll entries connector)).words := by simp [Call.words, words]
    have equals : Place.comparison.Takes (.text "=") "=" := by
      refine ⟨?_, by decide⟩
      decide +kernel
    refine Call.comes_of_reads (Connector.reads_ofValue connector) connects ?_ fun k read hk => ?_
    · intro e failed
      rw [apply, failed]
    · have taken : (Call.clause (.compareAll entries connector)).Taken :=
        Call.taken_two rfl hk equals
      rw [apply, read]
      dsimp only
      cases ran : addEach (addEquality b.dialect k) q entries with
      | mk outcome next =>
        cases outcome with
        | error e => exact .other taken
        | ok done =>
          obtain ⟨added, rfl, equal⟩ := addEqualities_eq_ok ran
          refine .adds taken (.conditions added ⟨connector, connects, hk⟩ ?_)
          intro a word inside written
          obtain rfl := equal a word inside written
          exact ⟨.text "=", by simp [Call.words, words], equals⟩
  | compareNot column comparand connector =>
    refine Call.comes_addCompared rfl ?_ fun o a read made word => operator_of_negation read made
    intro e read
    simp only [negation, read]
    rfl
  | membership column values negated connector =>
    refine Call.comes_addAtom rfl fun a made => ?_
    unfold membershipAtom at made
    split at made
    · cases made
    · obtain ⟨text, -, made⟩ := bind_eq_ok.mp made
      cases made
      rfl
  | nullness column negated connector =>
    refine Call.comes_addAtom rfl fun a made => ?_
    obtain ⟨text, -, rfl⟩ := map_eq_ok.mp made
    rfl
  | between column low high connector =>
    refine Call.comes_addAtom rfl fun a made => ?_
    obtain ⟨text, -, rfl⟩ := map_eq_ok.mp made
    rfl
  | having column comparand =>
    refine Call.comes_read (Comparison.reads_ofValue comparand.operator)
      (by simp [Call.words, words]) fun o ho => ?_
    refine Call.comes_attempt (Call.taken_one rfl ho) fun next made => ?_
    obtain ⟨text, -, made⟩ := bind_eq_ok.mp made
    cases made
    exact .having ⟨comparand.operator, by simp [Call.words, words], ho⟩
  | order column direction =>
    refine Call.comes_read (Direction.reads_ofValue direction) (by simp [Call.words, words])
      fun o ho => ?_
    refine Call.comes_attempt (Call.taken_one rfl ho) fun next made => ?_
    obtain ⟨text, -, made⟩ := bind_eq_ok.mp made
    cases made
    exact .order ⟨direction, by simp [Call.words, words], ho⟩
  | _ => exact absurd rfl given

end Clause

namespace Builder

variable {b : Builder} {q : Query}

/-- A call that is given words comes to what they make. A group adds its conditions as one, or
nothing if there are none. -/
theorem comes_of_apply (call : Call) (given : call.words ≠ []) : call.Comes q (b.apply q call) := by
  cases call with
  | clause c => exact c.comes_of_apply given
  | group body connector =>
    have connects : (Place.connector, connector) ∈ (Call.group body connector).words := by
      simp [Call.words]
    refine Call.comes_of_reads (Connector.reads_ofValue connector) connects ?_ fun k read hk => ?_
    · intro e failed
      rw [apply, failed]
    · have taken : (Call.group body connector).Taken := Call.taken_one rfl hk
      rw [apply, read]
      dsimp only
      cases ran : b.applyAll { table := q.table } body with
      | mk outcome nested =>
        cases outcome with
        | error e => exact .other taken
        | ok done =>
          dsimp only
          split
          · have nothing : (Call.group body connector).Adds q
                { q with conditions := q.conditions ++ [].map (k, ·) } :=
              .conditions [] ⟨connector, connects, hk⟩ (by simp)
            exact .adds taken (by simpa using nothing)
          · exact .adds taken
              (.conditions [.group nested.conditions] ⟨connector, connects, hk⟩ (by simp))
  | request r => exact absurd rfl given
  | job j => exact absurd rfl given
  | tolerated call => exact absurd rfl given

end Builder

namespace Query

variable {d : Dialect} {q : Query} {s : Statement} {column operator : String} {amount : Value}
  {extra : Row}

/-- A change by an amount is written with its operator as it was given. -/
theorem compileStep_eq_ok_iff : q.compileStep d column amount extra operator = .ok s ↔
    ∃ table name others, q.guardMutation (stepName operator) = .ok table ∧ amount.isNumber = true ∧
      d.quoteIdentifier column = .ok name ∧
      (extra.mapM fun entry => assignment d entry.1) = .ok others ∧
      s = ⟨q.updateSql table ((name ++ " = " ++ name ++ " " ++ operator ++ " ?") :: others),
        amount :: extra.map (·.2) ++ q.whereParams⟩ := by
  unfold compileStep
  constructor
  · intro h
    obtain ⟨table, guarded, h⟩ := bind_eq_ok.mp h
    split at h
    · rename_i number
      obtain ⟨name, quoted, h⟩ := bind_eq_ok.mp h
      obtain ⟨others, assigned, h⟩ := bind_eq_ok.mp h
      cases h
      exact ⟨table, name, others, guarded, number, quoted, assigned, rfl⟩
    · cases h
  · rintro ⟨table, name, others, guarded, number, quoted, assigned, rfl⟩
    refine bind_eq_ok.mpr ⟨table, guarded, ?_⟩
    rw [if_pos number]
    exact bind_eq_ok.mpr ⟨name, quoted, bind_eq_ok.mpr ⟨others, assigned, rfl⟩⟩

/-- Whether a change by an amount is accepted does not depend on its operator. -/
theorem exists_compileStep (h : q.compileStep d column amount extra operator = .ok s)
    (other : String) : ∃ s', q.compileStep d column amount extra other = .ok s' := by
  obtain ⟨table, name, others, guarded, number, quoted, assigned, -⟩ := compileStep_eq_ok_iff.mp h
  have guarded' : q.guardMutation (stepName other) = .ok table :=
    guardMutation_eq_ok.mpr (guardMutation_eq_ok.mp guarded)
  exact ⟨_, compileStep_eq_ok_iff.mpr ⟨table, name, others, guarded', number, quoted, assigned, rfl⟩⟩

end Query

namespace Session

/-- How a session writes a change of a column by an amount: accepted or not, the operator is not
looked at, and an accepted one stands in the statement as it was given. -/
structure WritesSteps (s : Session) : Prop where
  accepted : ∀ column amount extra operator other statements,
    s.builder.compile s.query (.step column amount extra operator) = .ok statements →
    ∃ statements', s.builder.compile s.query (.step column amount extra other) = .ok statements'
  verbatim : ∀ column amount extra operator statements,
    s.builder.compile s.query (.step column amount extra operator) = .ok statements →
    ∃ table name others, s.builder.dialect.quoteIdentifier column = .ok name ∧
      statements.map (·.sql) = ["UPDATE " ++ table ++ " SET " ++
        join ", " ((name ++ " = " ++ name ++ " " ++ operator ++ " ?") :: others) ++
          s.query.whereSql]
  worked : ∀ column amount extra, ∀ j ∈ [Job.increment column amount extra,
      Job.decrement column amount extra],
    (s.perform j).2.sent = s.sent ∨ ∃ operator ∈ ["+", "-"], ∃ statement,
      s.builder.compile s.query (.step column amount extra operator) = .ok [statement] ∧
        (s.perform j).2.sent = s.sent ++ [statement]

theorem writesSteps (s : Session) : s.WritesSteps where
  accepted := by
    intro column amount extra operator other statements compiled
    obtain ⟨statement, made, -⟩ := map_eq_ok.mp compiled
    obtain ⟨statement', made'⟩ := Query.exists_compileStep made other
    exact ⟨[statement'], map_eq_ok.mpr ⟨statement', made', rfl⟩⟩
  verbatim := by
    intro column amount extra operator statements compiled
    obtain ⟨statement, made, rfl⟩ := map_eq_ok.mp compiled
    obtain ⟨table, name, others, -, -, quoted, -, rfl⟩ := Query.compileStep_eq_ok_iff.mp made
    exact ⟨table, name, others, quoted, rfl⟩
  worked := by
    intro column amount extra j member
    simp only [List.mem_cons, List.not_mem_nil, or_false] at member
    rcases member with rfl | rfl
    · refine (sent_perform (r := .step column amount extra "+") rfl).imp_right ?_
      rintro ⟨statement, compiled, sent⟩
      exact ⟨"+", by simp, statement, compiled, sent⟩
    · refine (sent_perform (r := .step column amount extra "-") rfl).imp_right ?_
      rintro ⟨statement, compiled, sent⟩
      exact ⟨"-", by simp, statement, compiled, sent⟩

/-- Whatever a call is given for an operator, a kind of join, a direction or a connector: either the
call is refused, for a word outside its set without a change, or each word is in the set of its place
and all that the call adds is written with these words. Changes by an amount are outside of this: they
are written with any operator, but for the work for a connection, which adds or takes away. -/
theorem words_closed (s : Session) :
    (∀ call : Call, call.words ≠ [] → call.Comes s.query (s.builder.apply s.query call)) ∧
      s.WritesSteps :=
  ⟨fun call given => Builder.comes_of_apply call given, s.writesSteps⟩

def oneVisitor : Session :=
  Session.play { builder := { dialect := Dialect.sqlite }, log := {} }
    [.clause (.table "users"), .clause (.compare "id" (.equalTo (.int 1)) (.text "and"))]

/-- An operator that is none comes out as it went in, and makes the rest of the statement a comment. -/
theorem words_open_oneVisitor :
    oneVisitor.Reachable ∧
      (oneVisitor.builder.compile oneVisitor.query
        (.step "visits" (.int 1) [] "* 0 --")).toOption.map (·.map (·.sql)) =
          some ["UPDATE \"users\" SET \"visits\" = \"visits\" * 0 -- ? WHERE \"id\" = ?"] := by
  refine ⟨⟨_, _, rfl, rfl⟩, ?_⟩
  decide +kernel

end Session

end Sqlwright
