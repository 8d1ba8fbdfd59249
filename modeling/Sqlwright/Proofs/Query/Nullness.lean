import Sqlwright.Dialect.BuiltIn
import Sqlwright.Proofs.Query.Reach

/-!
Where the absent value is bound. A comparison with it is written as a test for it, or refused, and
so is never bound; the members of a list, the ends of a range and the values that groups are compared
with are bound as they are, the absent one among them (`Clause.HandsNull`). So the absent value is
bound exactly where an accepted step hands it over in one of these three ways. Main statement:
`Session.null_bound_by_handing`.
-/

namespace Sqlwright

theorem Value.isNull_iff {v : Value} : v.isNull = true ↔ v = .null := by
  cases v <;> simp [isNull]

namespace Condition

mutual

/-- The parameters of a condition are those of the conditions without parts in it. -/
theorem params_eq_flatMap : (c : Condition) → c.params = c.atoms.flatMap Atom.params
  | .atom a => by simp [params, atoms]
  | .group members => levelParams_eq_flatMap members

theorem levelParams_eq_flatMap : (level : List (Connector × Condition)) →
    levelParams level = (levelAtoms level).flatMap Atom.params
  | [] => rfl
  | (connector, condition) :: rest => by
    rw [levelParams, levelAtoms, List.flatMap_append, params_eq_flatMap condition,
      levelParams_eq_flatMap rest]

end

end Condition

/-- A query with atoms of one kind and conditions on groups with values of one kind. -/
structure Query.Only (P : Atom → Prop) (R : Value → Prop) (q : Query) : Prop where
  atoms : ∀ a ∈ Condition.levelAtoms q.conditions, P a
  havings : ∀ entry ∈ q.havings, R entry.value

namespace Query.Only

variable {P : Atom → Prop} {R : Value → Prop} {q next : Query}

theorem start (name table : Option String) : Query.Only P R { name, table } where
  atoms := by simp [Condition.levelAtoms]
  havings := by simp

/-- A change elsewhere adds nothing. -/
theorem frame (old : q.Only P R) (same : q.Frame next) : next.Only P R where
  atoms := same.conditions ▸ old.atoms
  havings := same.havings ▸ old.havings

theorem addCondition (old : q.Only P R) (connector : Connector) {c : Condition}
    (h : ∀ a ∈ c.atoms, P a) : (q.addCondition connector c).Only P R :=
  { old with
    atoms := by
      intro a member
      simp only [Query.addCondition, Condition.levelAtoms_append, Condition.levelAtoms,
        List.append_nil, List.mem_append] at member
      exact member.elim (old.atoms a) (h a) }

theorem addAtom {given : Value} {atom : Except Error Atom} (old : q.Only P R)
    (h : ∀ a, atom = .ok a → P a) :
    (Clause.attempt q (Clause.addAtom q given atom)).2.Only P R := by
  refine Clause.attempt_keeps old fun next added => ?_
  obtain ⟨connector, a, -, ha, rfl⟩ := Clause.addAtom_eq_ok.mp added
  exact old.addCondition connector (by simpa [Condition.atoms] using h a ha)

end Query.Only

namespace Clause

/-- The conditions without parts that a step adds. -/
inductive Makes (d : Dialect) : Clause → Atom → Prop
  | comparison {column comparand connector a} (h : Clause.comparison d column comparand = .ok a) :
    Makes d (.compare column comparand connector) a
  | entry {entries connector entry a} (member : entry ∈ entries)
    (h : Clause.comparison d entry.1.plain (.equalTo entry.2) = .ok a) :
    Makes d (.compareAll entries connector) a
  | negation {column comparand connector a} (h : Clause.negation d column comparand = .ok a) :
    Makes d (.compareNot column comparand connector) a
  | membership {column values negated connector a}
    (h : membershipAtom d column values negated = .ok a) :
    Makes d (.membership column values negated connector) a
  | nullness {column negated connector text} :
    Makes d (.nullness column negated connector) (.nullness text negated)
  | range {column low high connector text} :
    Makes d (.between column low high connector) (.range text low high)
  | trashed {only text} : Makes d (.trashed only) (.nullness text only)

/-- What a step adds are the conditions that it makes and the value that it compares groups with. -/
theorem only_apply {P : Atom → Prop} {R : Value → Prop} {b : Builder} {q : Query} (c : Clause)
    (made : ∀ a, c.Makes b.dialect a → P a)
    (compared : ∀ column comparand, c = .having column comparand → R comparand.value)
    (old : q.Only P R) : (c.apply b q).2.Only P R := by
  cases c with
  | reset => exact .start none none
  | table name =>
    rw [apply]
    refine attempt_keeps (.start none none) fun next h => ?_
    obtain ⟨text, -, rfl⟩ := setTable_eq_ok h
    exact .start _ _
  | select | distinct | join | groupBy | order | limit | page | softDelete =>
    exact old.frame (AsksNothing.frame (by trivial) b q)
  | compare column comparand connector =>
    rw [apply]
    exact old.addAtom fun a h => made a (.comparison h)
  | compareAll entries connector =>
    simp only [apply]
    split
    · refine addEach_keeps old fun q entry member next old h => ?_
      obtain ⟨a, ha, h⟩ := bind_eq_ok.mp h
      cases h
      refine old.addCondition _ ?_
      simpa [Condition.atoms] using made a (.entry member ha)
    · exact old
  | compareNot column comparand connector =>
    rw [apply]
    exact old.addAtom fun a h => made a (.negation h)
  | membership column values negated connector =>
    rw [apply]
    exact old.addAtom fun a h => made a (.membership h)
  | nullness column negated connector =>
    rw [apply]
    refine old.addAtom fun a h => ?_
    obtain ⟨text, -, rfl⟩ := map_eq_ok.mp h
    exact made _ .nullness
  | between column low high connector =>
    rw [apply]
    refine old.addAtom fun a h => ?_
    obtain ⟨text, -, rfl⟩ := map_eq_ok.mp h
    exact made _ .range
  | trashed only =>
    rw [apply]
    refine old.addAtom fun a h => ?_
    obtain ⟨text, -, rfl⟩ := map_eq_ok.mp h
    exact made _ .trashed
  | having column comparand =>
    rw [apply]
    refine attempt_keeps old fun next h => ?_
    obtain ⟨operator, text, -, -, rfl⟩ := addHaving_eq_ok h
    refine { old with havings := ?_ }
    intro other member
    rcases List.mem_append.mp member with here | new
    · exact old.havings other here
    · obtain rfl := List.mem_singleton.mp new
      exact compared column comparand rfl

end Clause

namespace Call

/-- A call of which every step has a property, those in groups included. -/
inductive Each (C : Clause → Prop) : Call → Prop
  | clause {c} (h : C c) : Each C (.clause c)
  | group {body connector} (h : ∀ call ∈ body, Each C call) : Each C (.group body connector)
  | request {r} : Each C (.request r)
  | job {j} : Each C (.job j)
  | tolerated {call} (h : Each C call) : Each C (.tolerated call)

mutual

theorem each_of_forall {C : Clause → Prop} (h : ∀ c, C c) : (call : Call) → call.Each C
  | .clause c => .clause (h c)
  | .group body _ => .group (forall_each_of_forall h body)
  | .request _ => .request
  | .job _ => .job
  | .tolerated call => .tolerated (each_of_forall h call)

theorem forall_each_of_forall {C : Clause → Prop} (h : ∀ c, C c) :
    (calls : List Call) → ∀ call ∈ calls, call.Each C
  | [] => by simp
  | call :: rest =>
    List.forall_mem_cons.mpr ⟨each_of_forall h call, forall_each_of_forall h rest⟩

end

end Call

/-- What steps with a property keep: the conditions that they make are of one kind, and so are the
values that they compare groups with. -/
structure Clause.Keeps (d : Dialect) (C : Clause → Prop) (P : Atom → Prop) (R : Value → Prop) :
    Prop where
  made : ∀ c a, C c → c.Makes d a → P a
  compared : ∀ column comparand, C (.having column comparand) → R comparand.value

namespace Clause.Keeps

variable {C : Clause → Prop} {P : Atom → Prop} {R : Value → Prop} {b : Builder}

theorem clause (keeps : Keeps b.dialect C P R) {c : Clause} (h : C c) {q : Query}
    (old : q.Only P R) : (c.apply b q).2.Only P R := by
  refine c.only_apply (fun a => keeps.made c a h) ?_ old
  rintro column comparand rfl
  exact keeps.compared column comparand h

mutual

/-- The induction is on the call; a group is a run of its own on a query without conditions. -/
theorem call (keeps : Keeps b.dialect C P R) {q : Query} (old : q.Only P R) :
    (call : Call) → call.Each C → (b.apply q call).2.Only P R
  | .clause c, .clause h => keeps.clause h old
  | .group body connector, .group h => by
    have inner := keeps.calls (.start none q.table) body h
    unfold Builder.apply
    split
    · exact old
    · split
      · exact old
      · rename_i nested ran
        rw [ran] at inner
        split
        · exact old
        · exact old.addCondition _ inner.atoms
  | .request r, _ => old
  | .job j, _ => old
  | .tolerated call, .tolerated h => keeps.call old call h

theorem calls (keeps : Keeps b.dialect C P R) {q : Query} (old : q.Only P R) :
    (calls : List Call) → (∀ call ∈ calls, call.Each C) → (b.applyAll q calls).2.Only P R
  | [], _ => old
  | call :: rest, h => by
    obtain ⟨here, later⟩ := List.forall_mem_cons.mp h
    have first := keeps.call old call here
    unfold Builder.applyAll
    split
    · rename_i next ran
      rw [ran] at first
      exact keeps.calls first rest later
    · exact first

end

theorem act {s : Session} (keeps : Keeps s.builder.dialect C P R) (old : s.query.Only P R) :
    (call : Call) → call.Each C → (s.act call).query.Only P R
  | .clause c, h => keeps.call old (.clause c) h
  | .group body connector, h => keeps.call old (.group body connector) h
  | .request _, _ => old
  | .job j, _ => by
    rcases (s.follows_perform j).query with same | fresh
    · exact same.symm ▸ old
    · exact fresh.symm ▸ .start none none
  | .tolerated call, .tolerated h => keeps.act old call h

/-- A session whose steps all have the property keeps it, whatever its connection answers. -/
theorem play {s : Session} (keeps : Keeps s.builder.dialect C P R) (old : s.query.Only P R)
    {calls : List Call} (h : ∀ call ∈ calls, call.Each C) : (s.play calls).query.Only P R := by
  induction calls generalizing s with
  | nil => exact old
  | cons call rest ih =>
    obtain ⟨here, later⟩ := List.forall_mem_cons.mp h
    have same := s.builder_act call
    exact ih (same.symm ▸ keeps) (keeps.act old call here) later

end Clause.Keeps

/-- The conditions that take several values as they are. -/
inductive Atom.Listed : Atom → Prop
  | membership (column : String) (negated : Bool) (values : List Value) :
    Listed (.membership column negated values)
  | range (column : String) (low high : Value) : Listed (.range column low high)

namespace Clause

variable {d : Dialect} {c : Clause} {a : Atom}

/-- The steps that hand over the absent value to be bound. -/
def HandsNull : Clause → Prop
  | .membership _ values _ _ => Value.null ∈ values
  | .between _ low high _ => low = .null ∨ high = .null
  | .having _ comparand => comparand.value = .null
  | _ => False

/-- A comparison with the absent value is a test for it: for equality a test that it is there, for
the two negations a test that it is not. -/
theorem comparison_null {column : String} {comparand : Comparand} (null : comparand.value = .null)
    (h : comparison d column comparand = .ok a) :
    ∃ text, d.column column = .ok text ∧
      (Comparison.ofValue comparand.operator = .ok .equal ∧ a = .nullness text false ∨
        (Comparison.ofValue comparand.operator = .ok .unequal ∨
          Comparison.ofValue comparand.operator = .ok .differs) ∧ a = .nullness text true) := by
  unfold comparison at h
  obtain ⟨operator, spelled, h⟩ := bind_eq_ok.mp h
  rw [spelled]
  have test {negated : Bool}
      (h : (do return .nullness (← d.column column) negated : Except Error Atom) = .ok a) :
      ∃ text, d.column column = .ok text ∧ a = .nullness text negated := by
    obtain ⟨text, htext, h⟩ := bind_eq_ok.mp h
    cases h
    exact ⟨text, htext, rfl⟩
  rw [if_pos (Value.isNull_iff.mpr null)] at h
  cases operator with
  | equal =>
    obtain ⟨text, htext, rfl⟩ := test h
    exact ⟨text, htext, Or.inl ⟨rfl, rfl⟩⟩
  | unequal =>
    obtain ⟨text, htext, rfl⟩ := test h
    exact ⟨text, htext, Or.inr ⟨Or.inl rfl, rfl⟩⟩
  | differs =>
    obtain ⟨text, htext, rfl⟩ := test h
    exact ⟨text, htext, Or.inr ⟨Or.inr rfl, rfl⟩⟩
  | less | atMost | greater | atLeast | like | notLike => cases h

/-- A comparison with the absent value asks whether there is one, and binds nothing. -/
theorem not_null_of_comparison {column : String} {comparand : Comparand}
    (h : comparison d column comparand = .ok a) : Value.null ∉ a.params := by
  obtain ⟨operator, t, -, -, asks⟩ := comparison_eq_ok h
  rw [asks.params, boundValues]
  split
  · simp
  · rename_i present
    rw [List.mem_singleton]
    exact fun null => present (Value.isNull_iff.mpr null.symm)

/-- A comparison with the absent value cannot be denied. -/
theorem negation_null {column : String} {comparand : Comparand} (null : comparand.value = .null) :
    ∃ e, negation d column comparand = .error e := by
  unfold negation
  cases Comparison.ofValue comparand.operator with
  | error e => exact ⟨e, rfl⟩
  | ok operator =>
    refine ⟨.nullNegation, ?_⟩
    change (if comparand.value.isNull then _ else _) = _
    rw [if_pos (Value.isNull_iff.mpr null)]
    rfl

theorem not_null_of_negation {column : String} {comparand : Comparand}
    (h : negation d column comparand = .ok a) : Value.null ∉ a.params := by
  obtain ⟨operator, -, asks⟩ := negation_eq_ok h
  rw [asks.params, List.mem_singleton]
  intro null
  have refused : ∃ e, negation d column comparand = .error e := negation_null null.symm
  obtain ⟨e, refused⟩ := refused
  rw [refused] at h
  cases h

/-- An absent value is bound as a member of a list or as an end of a range only. -/
theorem Makes.listed (h : c.Makes d a) (null : Value.null ∈ a.params) : a.Listed := by
  cases h with
  | comparison h => exact absurd null (not_null_of_comparison h)
  | entry _ h => exact absurd null (not_null_of_comparison h)
  | negation h => exact absurd null (not_null_of_negation h)
  | membership h =>
    unfold membershipAtom at h
    split at h
    · cases h
    · obtain ⟨text, -, h⟩ := bind_eq_ok.mp h
      cases h
      exact .membership _ _ _
  | nullness => cases null
  | range => exact .range _ _ _
  | trashed => cases null

/-- A condition with an absent value is made from one that was handed over for a list or a range. -/
theorem Makes.handsNull (h : c.Makes d a) (null : Value.null ∈ a.params) : c.HandsNull := by
  cases h with
  | comparison h => exact absurd null (not_null_of_comparison h)
  | entry _ h => exact absurd null (not_null_of_comparison h)
  | negation h => exact absurd null (not_null_of_negation h)
  | membership h => rwa [(membershipAtom_eq_ok h).params] at null
  | nullness => cases null
  | range =>
    simp only [Atom.params, List.mem_cons, List.not_mem_nil, or_false] at null
    exact null.imp Eq.symm Eq.symm
  | trashed => cases null

end Clause

namespace Query

variable {b : Builder} {q : Query}

/-- A query in which the absent value is bound nowhere. -/
abbrev NullFree (q : Query) : Prop :=
  q.Only (fun a => Value.null ∉ a.params) fun v => v ≠ .null

/-- No absent value is bound exactly if none is among the parameters. -/
theorem nullFree_iff : q.NullFree ↔ Value.null ∉ q.params := by
  rw [params, whereParams, havingParams, Condition.levelParams_eq_flatMap, List.mem_append, not_or]
  constructor
  · intro free
    refine ⟨?_, ?_⟩
    · intro bound
      obtain ⟨a, member, null⟩ := List.mem_flatMap.mp bound
      exact free.atoms a member null
    · intro bound
      obtain ⟨entry, member, null⟩ := List.mem_map.mp bound
      exact free.havings entry member null
  · rintro ⟨conditions, havings⟩
    exact ⟨fun a member null => conditions (List.mem_flatMap.mpr ⟨a, member, null⟩),
      fun entry member null => havings (List.mem_map.mpr ⟨entry, member, null⟩)⟩

theorem mem_params_addCondition {v : Value} {a : Atom} (connector : Connector) (h : v ∈ a.params) :
    v ∈ (q.addCondition connector (.atom a)).params := by
  refine List.mem_append_left _ ?_
  rw [whereParams, addCondition, Condition.levelParams_append, List.mem_append]
  exact Or.inr (List.mem_append_left _ h)

end Query

namespace Clause

variable {b : Builder} {q : Query} {c : Clause}

/-- Steps that do not hand over the absent value bind it nowhere. -/
theorem keeps_nullFree (d : Dialect) :
    Keeps d (fun c => ¬ c.HandsNull) (fun a => Value.null ∉ a.params) fun v => v ≠ .null where
  made _ _ h makes null := h (makes.handsNull null)
  compared _ _ h := h

/-- Whatever steps there are, only lists and ranges bind the absent value. -/
theorem keeps_listed (d : Dialect) :
    Keeps d (fun _ => True) (fun a => Value.null ∈ a.params → a.Listed) fun _ => True where
  made _ _ _ makes null := makes.listed null
  compared _ _ _ := trivial

/-- A step that hands over the absent value is refused as a whole or binds it. -/
theorem apply_of_handsNull (h : c.HandsNull) :
    ∃ result, c.apply b q = attempt q result ∧
      ∀ next, result = .ok next → Value.null ∈ next.params := by
  cases c with
  | membership column values negated connector =>
    refine ⟨_, rfl, fun next added => ?_⟩
    obtain ⟨joined, a, -, ha, rfl⟩ := addAtom_eq_ok.mp added
    exact Query.mem_params_addCondition joined ((membershipAtom_eq_ok ha).params ▸ h)
  | between column low high connector =>
    refine ⟨_, rfl, fun next added => ?_⟩
    obtain ⟨joined, a, -, ha, rfl⟩ := addAtom_eq_ok.mp added
    obtain ⟨text, -, rfl⟩ := map_eq_ok.mp ha
    refine Query.mem_params_addCondition joined ?_
    simp only [Atom.params, List.mem_cons, List.not_mem_nil, or_false]
    exact h.imp Eq.symm Eq.symm
  | having column comparand =>
    refine ⟨_, rfl, fun next added => ?_⟩
    obtain ⟨operator, text, -, -, rfl⟩ := addHaving_eq_ok added
    refine List.mem_append_right _ ?_
    simp [Query.havingParams, show comparand.value = .null from h]
  | _ => exact h.elim

/-- A step binds the absent value exactly if it is accepted and hands it over. -/
theorem null_bound_iff (c : Clause) (free : Value.null ∉ q.params) :
    Value.null ∈ (c.apply b q).2.params ↔ (c.apply b q).1 = .ok () ∧ c.HandsNull := by
  by_cases hands : c.HandsNull
  · obtain ⟨result, made, bound⟩ := apply_of_handsNull hands
    rw [made]
    cases result with
    | error e => exact ⟨fun null => absurd null free, fun accepted => nomatch accepted.1⟩
    | ok next => exact ⟨fun _ => ⟨rfl, hands⟩, fun _ => bound next rfl⟩
  · have kept := (keeps_nullFree b.dialect).clause hands (Query.nullFree_iff.mpr free)
    exact ⟨fun null => absurd null (Query.nullFree_iff.mp kept),
      fun accepted => absurd accepted.2 hands⟩

end Clause

/-- How the steps that follow treat the absent value: it is bound exactly if a step that is accepted
hands it over, a comparison with it becomes a test for it, and the denial of one is refused. -/
structure Query.TreatsNull (b : Builder) (q : Query) : Prop where
  bound : ∀ c : Clause, Value.null ∉ q.params →
    (Value.null ∈ (c.apply b q).2.params ↔ (c.apply b q).1 = .ok () ∧ c.HandsNull)
  tested : ∀ column comparand connector next, comparand.value = .null →
    (Clause.compare column comparand connector).apply b q = (.ok (), next) →
    ∃ joined text negated, next = q.addCondition joined (.atom (.nullness text negated)) ∧
      b.dialect.column column = .ok text ∧
      (negated = false ↔ Comparison.ofValue comparand.operator = .ok .equal)
  denied : ∀ column comparand connector, comparand.value = .null →
    ∃ e, (Clause.compareNot column comparand connector).apply b q = (.error e, q)

theorem Query.treatsNull (b : Builder) (q : Query) : q.TreatsNull b where
  bound c free := c.null_bound_iff free
  tested := by
    intro column comparand connector next null accepted
    rw [Clause.apply] at accepted
    cases added : Clause.addAtom q connector (Clause.comparison b.dialect column comparand) with
    | error e =>
      rw [added] at accepted
      cases accepted
    | ok made =>
      rw [added] at accepted
      cases accepted
      obtain ⟨joined, a, -, ha, rfl⟩ := Clause.addAtom_eq_ok.mp added
      obtain ⟨text, htext, ⟨equal, rfl⟩ | ⟨other, rfl⟩⟩ := Clause.comparison_null null ha
      · exact ⟨joined, text, false, rfl, htext, by simp [equal]⟩
      · refine ⟨joined, text, true, rfl, htext, ?_⟩
        rcases other with other | other <;> simp [other]
  denied := by
    intro column comparand connector null
    obtain ⟨e, refused⟩ : ∃ e, Clause.negation b.dialect column comparand = .error e :=
      Clause.negation_null null
    rw [Clause.apply, Clause.addAtom, refused]
    cases Connector.ofValue connector with
    | error e => exact ⟨e, rfl⟩
    | ok joined => exact ⟨e, rfl⟩

namespace Session

/-- In every session only lists, ranges and conditions on groups bind the absent value. It is bound
nowhere as long as no step hands it over to one of these, and as soon as an accepted step does, it
is. Comparisons with it become tests for it or are refused. -/
theorem null_bound_by_handing {start : Session} (fresh : start.query = {}) (calls : List Call) :
    (∀ a ∈ Condition.levelAtoms (start.play calls).query.conditions,
      Value.null ∈ a.params → a.Listed) ∧
    ((∀ call ∈ calls, call.Each fun c => ¬ c.HandsNull) →
      Value.null ∉ (start.play calls).query.whereParams ∧
        Value.null ∉ (start.play calls).query.havingParams) ∧
    (start.play calls).query.TreatsNull start.builder := by
  refine ⟨?_, ?_, Query.treatsNull _ _⟩
  · have all := Call.forall_each_of_forall (fun _ => trivial) calls
    have only := (Clause.keeps_listed start.builder.dialect).play (fresh ▸ .start none none) all
    exact only.atoms
  · intro sparing
    have free : (start.play calls).query.NullFree :=
      (Clause.keeps_nullFree start.builder.dialect).play (fresh ▸ .start none none) sparing
    have absent := Query.nullFree_iff.mp free
    rwa [Query.params, List.mem_append, not_or] at absent

def emptySession : Session := { builder := { dialect := Dialect.mysql }, log := {} }

/-- Calls that compare with the absent value in each way that keeps it from being bound. -/
def absentValues : List Call :=
  [.clause (.table "users"), .clause (.compare "deleted_at" (.equalTo .null) (.text "AND")),
    .clause (.compareAll [(.text "a", .null), (.text "b", .int 1)] (.text "AND")),
    .clause (.compareNot "c" (.equalTo .null) (.text "AND")),
    .clause (.compare "d" (.by (.text "<") .null) (.text "AND")),
    .group [.clause (.compare "e" (.by (.text "!=") .null) (.text "OR")),
      .clause (.membership "f" [.int 2, .int 3] true (.text "OR"))] (.text "OR"),
    .clause (.having "COUNT(g)" (.by (.text ">") (.int 4)))]

theorem null_bound_by_handing_absentValues :
    (emptySession.play absentValues).query.conditions.length = 4 ∧
      Value.null ∉ (emptySession.play absentValues).query.whereParams ∧
      Value.null ∉ (emptySession.play absentValues).query.havingParams := by
  have compared : Comparand.value (.by (.text ">") (.int 4)) ≠ .null := nofun
  have sparing : ∀ call ∈ absentValues, call.Each fun c => ¬ c.HandsNull := by
    simp only [absentValues, List.forall_mem_cons]
    refine ⟨.clause id, .clause id, .clause id, .clause id, .clause id, .group ?_,
      .clause compared, by simp⟩
    simp only [List.forall_mem_cons]
    exact ⟨.clause id, .clause (by simp [Clause.HandsNull]), by simp⟩
  have four : (emptySession.play absentValues).query.conditions.length = 4 := by decide +kernel
  exact ⟨four, (null_bound_by_handing rfl absentValues).2.1 sparing⟩

/-- Calls that hand over the absent value: in a list, as an end of a range, and for groups. -/
def boundAbsentValues : List Call :=
  [.clause (.table "users"), .clause (.membership "id" [.int 1, .null] true (.text "AND")),
    .clause (.between "age" .null (.int 9) (.text "AND")),
    .clause (.having "total" (.equalTo .null))]

theorem null_bound_boundAbsentValues :
    Value.null ∈ (emptySession.play boundAbsentValues).query.whereParams ∧
      Value.null ∈ (emptySession.play boundAbsentValues).query.havingParams := by
  have mem_of_any {values : List Value} (h : values.any Value.isNull = true) :
      Value.null ∈ values := by
    obtain ⟨v, member, null⟩ := List.any_eq_true.mp h
    rwa [Value.isNull_iff.mp null] at member
  exact ⟨mem_of_any (by decide +kernel), mem_of_any (by decide +kernel)⟩

end Session

end Sqlwright
