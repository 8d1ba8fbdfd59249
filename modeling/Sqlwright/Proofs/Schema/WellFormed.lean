import Mathlib.Data.List.Nodup
import Sqlwright.Proofs.Schema.Change
import Sqlwright.Proofs.Text.Name

/-!
What every reachable table definition is made of: names where names are used, each column once, and
sizes that were read. So whatever is quoted while its statements are put together can be quoted, the
names that are made up for keys, checks and indexes included. Main statement:
`Blueprint.Reachable.wellFormed`.
-/

namespace Sqlwright

open Text

variable {d : Dialect} {b next : Blueprint}

namespace Keyed

/-- Each name is found at the place where it stands in a list, and no other name is found. -/
def Locates (places : Keyed Nat) (names : List String) : Prop :=
  ∀ name place, places.find? name = some place ↔ names[place]? = some name

namespace Locates

variable {places : Keyed Nat} {names : List String}

/-- Names that are found at one place each are different. -/
theorem nodup (h : places.Locates names) : names.Nodup := by
  rw [List.nodup_iff_getElem?_ne_getElem?]
  intro i j before inside same
  have there := List.getElem?_eq_getElem inside
  have first := (h names[j] i).mpr (same.trans there)
  have second := (h names[j] j).mpr there
  have : i = j := Option.some.inj (first.symm.trans second)
  omega

/-- A name that is not found can be put behind the others. -/
theorem concat (h : places.Locates names) {name : String} (absent : places.find? name = none) :
    Locates (places.put name names.length) (names ++ [name]) := by
  intro other place
  rw [find?_put, List.getElem?_append]
  by_cases same : name = other
  · subst same
    have new : names[place]? ≠ some name := by
      intro there
      exact absurd ((h name place).mpr there) (by simp [absent])
    rw [if_pos rfl]
    split
    · rename_i inside
      simpa [new] using Nat.ne_of_gt inside
    · simp only [Option.some.injEq, List.getElem?_eq_some_iff, List.length_singleton]
      grind
  · rw [if_neg same, h other place]
    split
    · rfl
    · rename_i outside
      have beyond : names[place]? = none := by simpa using outside
      simp [beyond, List.getElem?_eq_some_iff, same]

end Locates

end Keyed

namespace Blueprint

/-- Names are names, columns are found where they stand, sizes were read. -/
structure WellFormed (b : Blueprint) : Prop where
  table : Identifier.isQualified b.table.toList = true
  names : ∀ c ∈ b.columns, Identifier.isName c.name.toList = true
  places : b.places.Locates (b.columns.map (·.name))
  sizes : ∀ c ∈ b.columns, ∀ size, c.size = some size →
    ∃ given, Column.readSize c.name given = .ok size
  indexes : ∀ i ∈ b.indexes, i.WellFormed
  foreignKeys : ∀ k ∈ b.foreignKeys, k.WellFormed
  options : ∀ word ∈ b.options.words, Identifier.isOption word.toList = true
  composite : ∀ names, b.composite = some names →
    names ≠ [] ∧ ∀ name ∈ names, Identifier.isName name.toList = true

theorem declared_eq {name : String} {place : Nat} (stands : b.places.find? name = some place)
    (c : Column) (call : ColumnCall) :
    b.declared name c call =
      { b with
        columns := b.columns.set place (c.apply call).2
        owner := if call.claims then some c.name else b.owner } := by
  rw [declared, setColumn, stands]

/-- What is put where it stands changes nothing. -/
theorem setColumn_self {name : String} (found : b.column? name = some c) :
    b.setColumn name c = b := by
  obtain ⟨place, stands, here⟩ := column?_eq_some.mp found
  obtain ⟨inside, rfl⟩ := List.getElem?_eq_some_iff.mp here
  rw [setColumn, stands]
  dsimp only
  rw [List.set_getElem_self]

/-- Declarations change no name. -/
theorem names_declared {name : String} {c : Column} (found : b.column? name = some c)
    (call : ColumnCall) :
    (b.declared name c call).columns.map (·.name) = b.columns.map (·.name) := by
  obtain ⟨place, stands, here⟩ := column?_eq_some.mp found
  obtain ⟨inside, rfl⟩ := List.getElem?_eq_some_iff.mp here
  rw [declared_eq stands]
  dsimp only
  rw [List.map_set, (b.columns[place].follows_apply call).name, ← List.map_set,
    List.set_getElem_self]

/-- Behind a declaration stand the changed column and others that were there. -/
theorem mem_declared {name : String} {c other : Column} {call : ColumnCall}
    (found : b.column? name = some c) (h : other ∈ (b.declared name c call).columns) :
    other = (c.apply call).2 ∨ other ∈ b.columns := by
  obtain ⟨place, stands, -⟩ := column?_eq_some.mp found
  rw [declared_eq stands] at h
  exact (List.mem_or_eq_of_mem_set h).symm

namespace WellFormed

/-- No two columns have the same name. -/
theorem distinct (wf : b.WellFormed) : (b.columns.map (·.name)).Nodup := wf.places.nodup

/-- A column is found under its name, and under no other. -/
theorem column?_iff (wf : b.WellFormed) {name : String} {c : Column} :
    b.column? name = some c ↔ c ∈ b.columns ∧ c.name = name := by
  have named (place : Nat) :
      b.places.find? name = some place ↔ ∃ c, b.columns[place]? = some c ∧ c.name = name := by
    rw [wf.places name place, List.getElem?_map, Option.map_eq_some_iff]
  rw [column?_eq_some]
  constructor
  · rintro ⟨place, found, here⟩
    obtain ⟨other, there, same⟩ := (named place).mp found
    obtain rfl : other = c := Option.some.inj (there.symm.trans here)
    exact ⟨List.mem_of_getElem? here, same⟩
  · rintro ⟨member, same⟩
    obtain ⟨place, here⟩ := List.getElem?_of_mem member
    exact ⟨place, (named place).mpr ⟨c, here, same⟩, here⟩

/-- No change spoils a well-formed definition. -/
theorem change (wf : b.WellFormed) (h : b.Change next) : next.WellFormed := by
  cases h with
  | @column name valid absent =>
    refine { wf with names := ?_, places := ?_, sizes := ?_ }
    · intro c member
      rcases List.mem_append.mp member with old | new
      · exact wf.names c old
      · obtain rfl := List.mem_singleton.mp new
        exact valid
    · simpa [addColumn] using wf.places.concat absent
    · intro c member size sized
      rcases List.mem_append.mp member with old | new
      · exact wf.sizes c old size sized
      · obtain rfl := List.mem_singleton.mp new
        cases sized
  | @declaration name c call found free =>
    have known := (wf.column?_iff.mp found).1
    have follows := c.follows_apply call
    have names := names_declared found call
    have member : ∀ other ∈ (b.declared name c call).columns, _ := fun _ => mem_declared found
    obtain ⟨place, stands, -⟩ := column?_eq_some.mp found
    rw [declared_eq stands] at names member ⊢
    refine { wf with names := ?_, places := ?_, sizes := ?_ }
    · intro other inside
      rcases member other inside with rfl | old
      · rw [follows.name]
        exact wf.names c known
      · exact wf.names other old
    · exact names.symm ▸ wf.places
    · intro other inside size sized
      rcases member other inside with rfl | old
      · rw [follows.name]
        rcases follows.size with same | ⟨given, read, ok, new⟩
        · exact wf.sizes c known size (same.symm.trans sized)
        · rw [new] at sized
          cases sized
          exact ⟨given, ok⟩
      · exact wf.sizes other old size sized
  | key present valid free =>
    refine { wf with composite := ?_ }
    rintro _ ⟨⟩
    exact ⟨present, valid⟩
  | @index i new =>
    refine { wf with indexes := ?_ }
    intro other member
    rcases List.mem_append.mp member with old | here
    · exact wf.indexes other old
    · obtain rfl := List.mem_singleton.mp here
      exact new
  | @foreignKey k new =>
    refine { wf with foreignKeys := ?_ }
    intro other member
    rcases List.mem_append.mp member with old | here
    · exact wf.foreignKeys other old
    · obtain rfl := List.mem_singleton.mp here
      exact new
  | @reference place k changed call found applied =>
    refine { wf with foreignKeys := ?_ }
    intro other member
    rcases List.mem_or_eq_of_mem_set member with old | rfl
    · exact wf.foreignKeys other old
    · exact (wf.foreignKeys k (List.mem_of_getElem? found)).apply applied
  | options h =>
    refine { wf with options := ?_ }
    intro word member
    rcases h word member with old | valid
    · exact wf.options word old
    · exact valid
  | lock => exact { wf with }

end WellFormed

theorem wellFormed_fresh {table deletedAtColumn : String}
    (valid : Identifier.isQualified table.toList = true) :
    WellFormed { table, deletedAtColumn } where
  table := valid
  names := by simp
  places := by simp [Keyed.Locates, Keyed.find?]
  sizes := by simp
  indexes := by simp
  foreignKeys := by simp
  options := by simp [TableOptions.words]
  composite := by simp

/-- Every reachable definition is well-formed. -/
theorem Reachable.wellFormed (h : b.Reachable) : b.WellFormed :=
  h.invariant wellFormed_fresh fun wf change => wf.change change

end Blueprint

namespace Identifier

theorem isName_append {front back : List Char} (name : isName front = true)
    (letters : ∀ c ∈ back, isTail c = true) : isName (front ++ back) = true := by
  cases front with
  | nil => cases name
  | cons c rest =>
    rw [isName, Bool.and_eq_true] at name
    rw [List.cons_append, isName, List.all_append, name.1, name.2, List.all_eq_true.mpr letters]
    rfl

end Identifier

section Quoted

theorem exists_quoteIdentifier {name : String} (h : Identifier.isQualified name.toList = true) :
    ∃ text, d.quoteIdentifier name = .ok text := by
  unfold Dialect.quoteIdentifier
  rw [if_pos h]
  exact ⟨_, rfl⟩

theorem exists_quoteName {name : String} (h : Identifier.isName name.toList = true) :
    ∃ text, d.quoteIdentifier name = .ok text :=
  exists_quoteIdentifier (Identifier.isQualified_of_isName h)

theorem exists_quoteList {names : List String}
    (h : ∀ name ∈ names, Identifier.isName name.toList = true) :
    ∃ text, d.quoteList names = .ok text := by
  obtain ⟨quoted, each⟩ := exists_mapM_eq_ok fun name member =>
    exists_quoteName (d := d) (h name member)
  exact ⟨_, bind_eq_ok.mpr ⟨quoted, each, rfl⟩⟩

/-- The names that are made up for constraints and indexes are names. -/
theorem isName_constraintName {kind table columns : String}
    (hkind : Identifier.isName kind.toList = true)
    (htable : Identifier.isQualified table.toList = true)
    (hcolumns : ∀ c ∈ columns.toList, Identifier.isTail c = true) :
    Identifier.isName (constraintName kind table columns).toList = true := by
  have underscore : ∀ c ∈ "_".toList, Identifier.isTail c = true :=
    List.all_eq_true.mp (by decide)
  unfold constraintName
  simp only [String.toList_append]
  refine Identifier.isName_append (Identifier.isName_append (Identifier.isName_append
    (Identifier.isName_append hkind underscore) ?_) underscore) hcolumns
  intro c member
  rw [String.toList_ofList] at member
  obtain ⟨old, inside, rfl⟩ := List.mem_map.mp member
  split
  · rfl
  · rename_i other
    exact (Identifier.isTail_or_dot_of_isQualified htable inside).resolve_right other

/-- Names joined by underscores hold name characters only. -/
theorem isTail_of_mem_join {names : List String}
    (h : ∀ name ∈ names, Identifier.isName name.toList = true) :
    ∀ c ∈ (join "_" names).toList, Identifier.isTail c = true := by
  intro c member
  rcases mem_join member with underscore | ⟨name, known, inside⟩
  · obtain rfl : c = '_' := by simpa using underscore
    rfl
  · exact Identifier.isName_tail (h name known) inside

/-- The name of an index can be quoted, also where it is put together from those of columns. -/
theorem Index.WellFormed.isName_indexName {i : Index} (wf : i.WellFormed) {table : String}
    (htable : Identifier.isQualified table.toList = true) :
    Identifier.isName (Ddl.indexName table i).toList = true := by
  unfold Ddl.indexName
  cases named : i.name with
  | some name => exact wf.name name named
  | none =>
    have kind : Identifier.isName (if i.unique then "uq" else "idx").toList = true := by
      cases i.unique <;> decide
    exact isName_constraintName kind htable (isTail_of_mem_join wf.columns)

end Quoted

namespace Blueprint.WellFormed

variable (wf : b.WellFormed)

include wf

theorem indexesOf : ∀ i ∈ Ddl.indexesOf b, i.WellFormed := by
  intro i member
  rcases List.mem_append.mp member with declared | asked
  · obtain ⟨c, known, made⟩ := List.mem_filterMap.mp declared
    have valid := wf.names c known
    split at made
    · cases made
    · split at made
      · cases made
        exact ⟨by simpa using valid, by simp⟩
      · split at made
        · cases made
          exact ⟨by simpa using valid, by simp⟩
        · cases made
  · exact wf.indexes i asked

/-- The statement of an index is never refused. -/
theorem exists_indexStatement {i : Index} (h : i ∈ Ddl.indexesOf b) :
    ∃ text, Ddl.indexStatement d b.table i = .ok text := by
  have index := wf.indexesOf i h
  obtain ⟨name, hname⟩ := exists_quoteName (d := d) (index.isName_indexName wf.table)
  obtain ⟨table, htable⟩ := exists_quoteIdentifier (d := d) wf.table
  obtain ⟨columns, hcolumns⟩ := exists_quoteList (d := d) index.columns
  unfold Ddl.indexStatement
  rw [hname, htable, hcolumns]
  exact ⟨_, rfl⟩

theorem exists_indexStatements :
    ∃ texts, (Ddl.indexesOf b).mapM (Ddl.indexStatement d b.table) = .ok texts :=
  exists_mapM_eq_ok fun _ member => wf.exists_indexStatement member

theorem exists_compositeList : ∃ key, Ddl.compositeList d b = .ok key := by
  unfold Ddl.compositeList
  cases composite : b.composite with
  | none => exact ⟨none, rfl⟩
  | some names =>
    obtain ⟨quoted, h⟩ := exists_quoteList (d := d) (wf.composite names composite).2
    exact ⟨some quoted, map_eq_ok.mpr ⟨quoted, h, rfl⟩⟩

theorem exists_keyName :
    ∃ name, d.quoteIdentifier (constraintName "pk" b.table "key") = .ok name :=
  exists_quoteName (isName_constraintName (by decide) wf.table
    (List.all_eq_true.mp (by decide)))

end Blueprint.WellFormed

end Sqlwright
