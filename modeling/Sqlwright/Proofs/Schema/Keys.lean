import Sqlwright.Proofs.Schema.WellFormed

/-!
The primary key of a table definition. The owner of the key, the list of its columns and the flags
of the single columns agree in every reachable definition (`Blueprint.Reachable.keyAgrees`): there
is no key, or one column is the key, or a list of columns is (`Blueprint.KeyAgrees.exactly_one`). An
owner stays the owner whatever is done (`Blueprint.owner_run`).
-/

namespace Sqlwright

open Text

variable {b next : Blueprint} {c : Column}

namespace Blueprint

/-- The owner of the key, its list of columns and the flags of the columns agree. -/
structure KeyAgrees (b : Blueprint) : Prop where
  columns : ∀ c ∈ b.columns, c.isKey = true ↔ b.owner = some c.name
  single : b.composite = none → ∀ owner, b.owner = some owner → owner ∈ b.columns.map (·.name)
  list : ∀ names, b.composite = some names → b.owner = some (listOwner names)

/-- The owner of a list is not the name of a column. -/
theorem not_isName_listOwner (names : List String) :
    Identifier.isName (listOwner names).toList = false := by
  have opening : (listOwner names).toList = '(' :: (join ", " names ++ ")").toList := by
    simp [listOwner]
  rw [opening, Identifier.isName, show Identifier.isHead '(' = false from rfl, Bool.false_and]

/-- No column has the name that a list of columns claims the key with. -/
theorem WellFormed.ne_listOwner (wf : b.WellFormed) (member : c ∈ b.columns) (names : List String) :
    c.name ≠ listOwner names := by
  intro same
  have name := wf.names c member
  rw [same, not_isName_listOwner] at name
  cases name

/-- Columns of one name are the same. -/
theorem WellFormed.eq_of_name (wf : b.WellFormed) {other : Column} (here : c ∈ b.columns)
    (there : other ∈ b.columns) (same : c.name = other.name) : c = other := by
  have found := wf.column?_iff.mpr ⟨here, same⟩
  exact Option.some.inj (found.symm.trans (wf.column?_iff.mpr ⟨there, rfl⟩))

/-- An owner is a column or a list. -/
theorem KeyAgrees.owner_cases (agrees : b.KeyAgrees) {owner : String} (h : b.owner = some owner) :
    owner ∈ b.columns.map (·.name) ∨ ∃ names, owner = listOwner names := by
  cases composite : b.composite with
  | none => exact Or.inl (agrees.single composite owner h)
  | some names =>
    rw [agrees.list names composite] at h
    exact Or.inr ⟨names, (Option.some.inj h).symm⟩

/-- A new column is no key: it would have to be the owner of one that was claimed before it was
there. -/
theorem KeyAgrees.addColumn (agrees : b.KeyAgrees) (wf : b.WellFormed) {name : String}
    (valid : Identifier.isName name.toList = true) (absent : b.places.find? name = none) :
    (b.addColumn { name }).KeyAgrees := by
  refine { agrees with columns := ?_, single := ?_ }
  · intro c member
    rcases List.mem_append.mp member with old | new
    · exact agrees.columns c old
    · obtain rfl := List.mem_singleton.mp new
      refine iff_of_false (by simp [Column.isKey]) fun owned => ?_
      rcases agrees.owner_cases owned with known | ⟨names, same⟩
      · obtain ⟨place, here⟩ := List.getElem?_of_mem known
        have found := (wf.places name place).mpr here
        rw [absent] at found
        cases found
      · dsimp only at same
        rw [same, not_isName_listOwner] at valid
        cases valid
  · intro composite owner owned
    rw [Blueprint.addColumn, List.map_append]
    exact List.mem_append_left _ (agrees.single composite owner owned)

/-- A declaration makes its column the key only if no other column and no list is. -/
theorem KeyAgrees.declared (agrees : b.KeyAgrees) (wf : b.WellFormed) {name : String}
    {call : ColumnCall} (found : b.column? name = some c)
    (free : call.claims = true → b.claim c.name = .ok ()) :
    (b.declared name c call).KeyAgrees := by
  have known := (wf.column?_iff.mp found).1
  have follows := c.follows_apply call
  have names := names_declared found call
  have member : ∀ other ∈ (b.declared name c call).columns, _ := fun _ => mem_declared found
  have wf' := wf.change (.declaration found free)
  obtain ⟨place, stands, here⟩ := column?_eq_some.mp found
  rw [declared_eq stands] at names member wf' ⊢
  have stays : (c.apply call).2 ∈ b.columns.set place (c.apply call).2 :=
    List.mem_set (List.getElem?_eq_some_iff.mp here).1 _
  refine ⟨fun other inside => ?_, fun composite owner owned => ?_, fun list composite => ?_⟩
  · by_cases same : other.name = c.name
    · obtain rfl := wf'.eq_of_name inside stays (same.trans follows.name.symm)
      rw [follows.isKey, follows.name]
      cases claims : call.claims with
      | true => simp
      | false => simpa using agrees.columns c known
    · have old : other ∈ b.columns := by
        refine (member other inside).resolve_left ?_
        rintro rfl
        exact same follows.name
      rw [agrees.columns other old]
      cases claims : call.claims with
      | true =>
        refine iff_of_false (fun owned => ?_) fun owned => same (Option.some.inj owned).symm
        exact same (claim_eq_ok.mp (free claims) other.name owned)
      | false => simp
  · rw [names]
    cases claims : call.claims with
    | true =>
      rw [claims] at owned
      cases owned
      exact List.mem_map_of_mem known
    | false =>
      rw [claims] at owned
      exact agrees.single composite owner owned
  · have owned := agrees.list list composite
    cases claims : call.claims with
    | true => exact congrArg some (claim_eq_ok.mp (free claims) _ owned).symm
    | false => exact owned

/-- No change brings the owner and the flags apart. -/
theorem KeyAgrees.change (agrees : b.KeyAgrees) (wf : b.WellFormed) (h : b.Change next) :
    next.KeyAgrees := by
  cases h with
  | column valid absent => exact agrees.addColumn wf valid absent
  | declaration found free => exact agrees.declared wf found free
  | @key names present valid free =>
    rw [claim_eq_ok] at free
    refine ⟨fun c member => ?_, by simp, by simp⟩
    have other := wf.ne_listOwner member names
    rw [agrees.columns c member]
    refine iff_of_false (fun owned => other (free c.name owned)) fun owned => ?_
    exact other (Option.some.inj owned).symm
  | index | foreignKey | reference | options | lock => exact { agrees with }

/-- In every reachable definition the owner of the key, its list of columns and the flags of the
columns agree. -/
theorem Reachable.keyAgrees (h : b.Reachable) : b.KeyAgrees := by
  have both : b.WellFormed ∧ b.KeyAgrees := by
    refine h.invariant (P := fun b => b.WellFormed ∧ b.KeyAgrees) ?_ ?_
    · intro table deletedAtColumn valid
      exact ⟨wellFormed_fresh valid, by simp, by simp, by simp⟩
    · rintro b next ⟨wf, agrees⟩ change
      exact ⟨wf.change change, agrees.change wf change⟩
  exact both.2

def Keyless (b : Blueprint) : Prop :=
  b.owner = none ∧ b.composite = none ∧ ∀ c ∈ b.columns, c.isKey = false

def KeyedByColumn (b : Blueprint) : Prop :=
  b.composite = none ∧ ∃ c, b.columns.filter (·.isKey) = [c] ∧ b.owner = some c.name

def KeyedByList (b : Blueprint) : Prop :=
  (∃ names, b.composite = some names ∧ b.owner = some (listOwner names)) ∧
    ∀ c ∈ b.columns, c.isKey = false

/-- The three ways a definition can be with its primary key exclude each other, and one of them
holds. -/
theorem KeyAgrees.exactly_one (agrees : b.KeyAgrees) (wf : b.WellFormed) :
    b.Keyless ∧ ¬ b.KeyedByColumn ∧ ¬ b.KeyedByList ∨
      ¬ b.Keyless ∧ b.KeyedByColumn ∧ ¬ b.KeyedByList ∨
      ¬ b.Keyless ∧ ¬ b.KeyedByColumn ∧ b.KeyedByList := by
  cases composite : b.composite with
  | some names =>
    have owned := agrees.list names composite
    refine Or.inr (Or.inr ⟨?_, ?_, ⟨names, composite, owned⟩, fun c member => ?_⟩)
    · rintro ⟨none, -, -⟩
      rw [owned] at none
      cases none
    · rintro ⟨none, -⟩
      rw [composite] at none
      cases none
    · have other := wf.ne_listOwner member names
      have unset : ¬ c.isKey = true := by
        rw [agrees.columns c member, owned]
        exact fun same => other (Option.some.inj same).symm
      simpa using unset
  | none =>
    have noList : ¬ b.KeyedByList := by
      rintro ⟨⟨names, some, -⟩, -⟩
      rw [composite] at some
      cases some
    cases owned : b.owner with
    | none =>
      refine Or.inl ⟨⟨owned, composite, fun c member => ?_⟩, ?_, noList⟩
      · have unset : ¬ c.isKey = true := by
          rw [agrees.columns c member, owned]
          simp
        simpa using unset
      · rintro ⟨-, c, -, some⟩
        rw [owned] at some
        cases some
    | some owner =>
      obtain ⟨c, member, rfl⟩ := List.mem_map.mp (agrees.single composite owner owned)
      refine Or.inr (Or.inl ⟨?_, ⟨composite, c, ?_, owned⟩, noList⟩)
      · rintro ⟨none, -, -⟩
        rw [owned] at none
        cases none
      · have different := (wf.distinct.of_map _).filter (·.isKey)
        by_contra several
        rcases (different.ne_singleton_iff c).mp several with none | ⟨other, inside, another⟩
        · have key := (agrees.columns c member).mpr owned
          exact absurd key (List.filter_eq_nil_iff.mp none c member)
        · obtain ⟨inside, key⟩ := List.mem_filter.mp inside
          have same := (agrees.columns other inside).mp key
          rw [owned, Option.some.injEq] at same
          exact another (wf.eq_of_name inside member same.symm)

/-- No step takes the key from its owner. -/
theorem owner_change {owner : String} (owned : b.owner = some owner) (h : b.Change next) :
    next.owner = some owner := by
  cases h with
  | @declaration name c call found free =>
    obtain ⟨place, stands, -⟩ := column?_eq_some.mp found
    rw [declared_eq stands]
    cases claims : call.claims with
    | true => exact congrArg some (claim_eq_ok.mp (free claims) owner owned).symm
    | false => exact owned
  | key present valid free => exact congrArg some (claim_eq_ok.mp free owner owned).symm
  | column | index | foreignKey | reference | options | lock => exact owned

/-- Whatever is done with a definition, an owner of the key stays the owner. -/
theorem owner_run {owner : String} (owned : b.owner = some owner) (steps : List BlueprintStep) :
    (b.run steps).owner = some owner := by
  induction steps generalizing b with
  | nil => exact owned
  | cons step rest ih =>
    have changes := b.changes_act step
    rw [run_cons]
    refine ih ?_
    generalize (b.act step).2 = after at changes
    induction changes with
    | refl => exact owned
    | tail _ change ih => exact owner_change ih change

end Blueprint

end Sqlwright
