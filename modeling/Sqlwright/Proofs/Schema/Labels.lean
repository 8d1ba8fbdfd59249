import Sqlwright.Proofs.Schema.Finding
import Sqlwright.Proofs.Schema.Keys
import Sqlwright.Proofs.Schema.Refusal

/-!
The names of constraints and indexes in the statements of a table definition. Where no name is
given, a name says what it is for, the table, and the columns behind each other. Names of different
kinds are different; two of one kind are the same exactly if their columns read the same once they
stand behind each other. Main statement: `Blueprint.Reachable.labels_nodup_iff`.
-/

namespace Sqlwright

open Definition Piece Text

variable {d : Dialect} {b : Blueprint} {c : Column} {row : List Piece}

def labelHeads : List String :=
  ["CONSTRAINT ", "CREATE UNIQUE INDEX ", "CREATE UNIQUE INDEX IF NOT EXISTS ", "CREATE INDEX ",
    "CREATE INDEX IF NOT EXISTS "]

def Piece.nameAhead : List Piece → Option String
  | name text :: _ => some text
  | _ => none

/-- The names of constraints and indexes in a row. Whether a name is one of them, is told by what
stands before it. -/
def Piece.labels (row : List Piece) : List String := behind labelHeads nameAhead row

namespace Ddl

/-- A row with these names, whatever stands behind it. -/
abbrev Labelled (row : List Piece) (found : List String) : Prop :=
  Finds labelHeads nameAhead row found

abbrev LabelledAll (rows : List (List Piece)) (found : List String) : Prop :=
  Collected (Finds labelHeads nameAhead) rows found

def checkName (table : String) (c : Column) : String := constraintName "chk" table c.name

section Rows

theorem labelled_headed {head : String} (h : head ∈ labelHeads) (label : String) :
    Labelled [plain head, name label] [label] :=
  .mark h (fun _ => rfl) (List.forall_mem_singleton.mpr rfl)

theorem labelled_nameList (names : List String) : Labelled (nameList names) [] := by
  have comma : isMute labelHeads (plain ", ") = true := by decide
  refine .mute (forall_joined comma fun row member => ?_)
  obtain ⟨text, -, rfl⟩ := List.mem_map.mp member
  exact List.forall_mem_singleton.mpr rfl

theorem labelled_check (table : String) :
    Labelled (namedCheckRow table c (conditionRow d c)) [checkName table c] := by
  have opening : Labelled [plain " CHECK ("] [] := .mute (by decide)
  have condition : Labelled (conditionRow d c) [] := .mute fun piece member =>
    isMute_of_inExpression (by decide) (inExpression_condition piece member)
  have closing : Labelled [plain ")"] [] := .mute (by decide)
  exact (((labelled_headed (by decide) _).append opening).append condition).append closing

/-- The only name in a column that is not its own is that of its check. -/
theorem labelled_columnRow (d : Dialect) (b : Blueprint) (c : Column) :
    Labelled (columnRow d b c) (if checkedInType d c then [checkName b.table c] else []) := by
  have default : LabelledAll (defaultRows d c) [] := collected_defaultRows (by decide)
  simpa using finds_columnRow (by decide) (fun _ => labelled_check b.table) default

theorem labelled_keyRow (names : List String) : Labelled (Ddl.keyRow names) [] := by
  have opening : Labelled [plain "PRIMARY KEY ("] [] := .mute (by decide)
  exact (opening.append (labelled_nameList names)).append (.mute (by decide))

theorem labelled_namedKeyRow (table : String) (names : List String) :
    Labelled (Ddl.namedKeyRow table names) [constraintName "pk" table "key"] := by
  have blank : Labelled [plain " "] [] := .mute (by decide)
  exact ((labelled_headed (by decide) _).append blank).append (labelled_keyRow names)

theorem labelled_foreignKeyRow (b : Blueprint) (k : ForeignKey) :
    Labelled (Definition.foreignKeyRow b k) [Definition.foreignKeyName b.table k] := by
  have opening : Labelled [plain " FOREIGN KEY ("] [] := .mute (by decide)
  have target : Labelled [plain ") REFERENCES ", name (k.table.getD ""), plain " ("] [] :=
    .mute (by simp [isMute, labelHeads])
  have closing : Labelled [plain ")"] [] := .mute (by decide)
  have action {keyword : String} (known : keyword ∈ [" ON DELETE ", " ON UPDATE "])
      (action : Option ForeignKeyAction) :
      Labelled (action.map fun a => plain (keyword ++ a.sql)).toList [] := by
    cases action with
    | none => exact .nil
    | some a =>
      have each : ∀ keyword ∈ [" ON DELETE ", " ON UPDATE "],
          isMute labelHeads (plain (keyword ++ a.sql)) = true := by cases a <;> decide
      exact .mute (List.forall_mem_singleton.mpr (each keyword known))
  exact ((((((labelled_headed (by decide) _).append opening).append (labelled_nameList _)).append
    target).append (labelled_nameList _)).append closing).append (action (by simp) _)
    |>.append (action (by simp) _)

theorem labelled_indexRow (d : Dialect) (table : String) (i : Index) :
    Labelled (Ddl.indexRow d table i) [indexName table i] := by
  have head : indexHead d i ∈ labelHeads := by
    unfold indexHead
    split <;> split <;> simp [labelHeads]
  have target : Labelled [plain " ON ", name table, plain " ("] [] :=
    .mute (by simp [isMute, labelHeads])
  have closing : Labelled [plain ")"] [] := .mute (by decide)
  exact (((labelled_headed head _).append target).append (labelled_nameList _)).append closing

theorem labelled_headRow (d : Dialect) (table : String) : Labelled (Ddl.headRow d table) [] := by
  unfold Ddl.headRow
  split <;> refine .mute ?_ <;> simp [isMute, labelHeads]

theorem labelled_tableOptionsRow (d : Dialect) (o : TableOptions) :
    Labelled (Ddl.tableOptionsRow d o) [] := by
  have option (keyword : String) (value : Option String) :
      LabelledAll (optionRow keyword value) [] := by
    refine .empty fun row member => .mute ?_
    obtain ⟨text, -, rfl⟩ := mem_optionRow member
    exact List.forall_mem_singleton.mpr rfl
  have all := ((option "ENGINE" o.engine).append (option "DEFAULT CHARSET" o.charset)).append
    (option "COLLATE" o.collation)
  have blank : Labelled [plain " "] [] := .mute (by decide)
  unfold Ddl.tableOptionsRow
  split
  · exact .nil
  · exact blank.append (.joined (by decide) all)

def constraintLabels (d : Dialect) (b : Blueprint) : List String :=
  b.columns.flatMap (fun c => if checkedBehind d c then [checkName b.table c] else []) ++
    b.foreignKeys.map (Definition.foreignKeyName b.table)

def typeLabels (d : Dialect) (b : Blueprint) : List String :=
  b.columns.flatMap fun c => if checkedInType d c then [checkName b.table c] else []

theorem labelledAll_constraintRows (d : Dialect) (b : Blueprint) :
    LabelledAll (Ddl.constraintRows d b) (constraintLabels d b) := by
  refine .append (.flatMap fun c _ => finds_emulatedCheckRows fun _ => labelled_check b.table) ?_
  rw [List.map_eq_flatMap (f := Definition.foreignKeyName b.table)]
  exact .map fun k _ => labelled_foreignKeyRow b k

theorem labelledAll_indexRows (d : Dialect) (b : Blueprint) :
    LabelledAll ((indexesOf b).map (Ddl.indexRow d b.table))
      ((indexesOf b).map (indexName b.table)) := by
  rw [List.map_eq_flatMap (f := indexName b.table)]
  exact .map fun i _ => labelled_indexRow d b.table i

/-- The names in the statements that create a table. -/
theorem labelledAll_createRows (d : Dialect) (b : Blueprint) :
    LabelledAll (Ddl.createRows d b)
      (typeLabels d b ++ constraintLabels d b ++ (indexesOf b).map (indexName b.table)) := by
  have key : LabelledAll (b.composite.map Ddl.keyRow).toList [] := by
    cases b.composite with
    | none => exact .nil
    | some names => exact .single (labelled_keyRow names)
  have columns : LabelledAll (b.columns.map (Definition.columnRow d b)) (typeLabels d b) :=
    .map fun c _ => labelled_columnRow d b c
  have opening : Labelled [plain " ("] [] := .mute (by decide)
  have closing : Labelled [plain ")"] [] := .mute (by decide)
  have definitions := Finds.joined (show ", " ∉ labelHeads by decide)
    ((columns.append key).append (labelledAll_constraintRows d b))
  have table := ((((labelled_headRow d b.table).append opening).append definitions).append
    closing).append (labelled_tableOptionsRow d b.options)
  simp only [List.nil_append, List.append_nil] at table
  exact (Collected.single table).append (labelledAll_indexRows d b)

/-- The names in the statements that add to a table. -/
theorem labelledAll_addRows (d : Dialect) (b : Blueprint) :
    LabelledAll (Ddl.addRows d b)
      (typeLabels d b ++
        ((b.composite.map fun _ => constraintName "pk" b.table "key").toList ++
          constraintLabels d b) ++ (indexesOf b).map (indexName b.table)) := by
  have alter {row : List Piece} {found : List String} (h : Labelled row found) :
      Labelled (alterRow b.table row) found := by
    have front : Labelled [plain "ALTER TABLE ", name b.table, plain " "] [] :=
      .mute (by simp [isMute, labelHeads])
    exact front.append h
  have columns : LabelledAll (b.columns.map fun c =>
      alterRow b.table ([word d.addColumn, plain " "] ++ Definition.columnRow d b c))
      (typeLabels d b) := by
    have front : Labelled [word d.addColumn, plain " "] [] := .mute (by simp [isMute, labelHeads])
    exact .map fun c _ => alter (front.append (labelled_columnRow d b c))
  have key : LabelledAll (b.composite.map (Ddl.namedKeyRow b.table)).toList
      (b.composite.map fun _ => constraintName "pk" b.table "key").toList := by
    cases b.composite with
    | none => exact .nil
    | some names => exact .single (labelled_namedKeyRow b.table names)
  have addition : Labelled [plain "ADD "] [] := .mute (by decide)
  exact (columns.append ((key.append (labelledAll_constraintRows d b)).around fun row found h =>
    alter (addition.append h))).append (labelledAll_indexRows d b)

theorem flatMap_labels {rows : List (List Piece)} {found : List String}
    (h : LabelledAll rows found) : rows.flatMap labels = found := Finds.flatMap_behind h

end Rows

def labelKinds : List String := ["chk", "fk", "pk", "uq", "idx"]

/-- On one table, a name that is made up tells what it is for and which columns stand in it. -/
theorem constraintName_inj {table kind kind' columns columns' : String} (h : kind ∈ labelKinds)
    (h' : kind' ∈ labelKinds)
    (same : constraintName kind table columns = constraintName kind' table columns') :
    kind = kind' ∧ columns = columns' := by
  have whole : ∀ kind ∈ labelKinds, pieces (· == '_') kind.toList = [kind.toList] := by decide
  have split (kind columns : String) (h : kind ∈ labelKinds) :
      pieces (· == '_') (constraintName kind table columns).toList =
        kind.toList :: pieces (· == '_') ((table.toList.map fun c => if c = '.' then '_' else c) ++
          '_' :: columns.toList) := by
    have letters : (constraintName kind table columns).toList =
        kind.toList ++ '_' :: ((table.toList.map fun c => if c = '.' then '_' else c) ++
          '_' :: columns.toList) := by
      simp [constraintName]
    rw [letters, pieces_append_cut rfl, whole kind h]
    rfl
  have cut := congrArg (fun text : String => pieces (· == '_') text.toList) same
  simp only [split kind columns h, split kind' columns' h'] at cut
  obtain rfl := String.toList_injective (List.cons.inj cut).1
  refine ⟨rfl, ?_⟩
  simpa [constraintName] using same

/-- What the indexes are for, and their columns behind each other. -/
def indexKeys (b : Blueprint) : List (Bool × String) :=
  (indexesOf b).map fun i => (i.unique, join "_" i.columns)

/-- The columns of the foreign keys behind each other. -/
def foreignKeyKeys (b : Blueprint) : List String := b.foreignKeys.map fun k => join "_" k.columns

section Distinct

/-- Indexes that columns ask for have no name of their own. -/
theorem name_of_mem_indexesOf (indexes : ∀ i ∈ b.indexes, i.name = none) {i : Index}
    (member : i ∈ indexesOf b) : i.name = none := by
  rcases List.mem_append.mp member with declared | asked
  · obtain ⟨c, -, made⟩ := List.mem_filterMap.mp declared
    split at made
    · cases made
    · split at made
      · cases made
        rfl
      · split at made
        · cases made
          rfl
        · cases made
  · exact indexes i asked

/-- The names that are made up for indexes. -/
theorem map_indexName (indexes : ∀ i ∈ b.indexes, i.name = none) :
    (indexesOf b).map (indexName b.table) = (indexKeys b).map fun key =>
      constraintName (if key.1 then "uq" else "idx") b.table key.2 := by
  rw [indexKeys, List.map_map]
  refine List.map_congr_left fun i member => ?_
  rw [indexName, name_of_mem_indexesOf indexes member]
  rfl

/-- The names that are made up for foreign keys. -/
theorem map_foreignKeyName (foreignKeys : ∀ k ∈ b.foreignKeys, k.name = none) :
    b.foreignKeys.map (Definition.foreignKeyName b.table) =
      (foreignKeyKeys b).map (constraintName "fk" b.table) := by
  rw [foreignKeyKeys, List.map_map]
  refine List.map_congr_left fun k member => ?_
  rw [Definition.foreignKeyName, foreignKeys k member]
  rfl

/-- Indexes have different names exactly if their kinds or their joined columns differ. -/
theorem nodup_map_indexName :
    ((indexKeys b).map fun key =>
        constraintName (if key.1 then "uq" else "idx") b.table key.2).Nodup ↔
      (indexKeys b).Nodup := by
  refine List.nodup_map_iff ?_
  rintro ⟨unique, columns⟩ ⟨unique', columns'⟩ same
  have listed (unique : Bool) : (if unique then "uq" else "idx") ∈ labelKinds := by
    cases unique <;> decide
  obtain ⟨kind, rfl⟩ := constraintName_inj (listed unique) (listed unique') same
  cases unique <;> cases unique' <;> first | rfl | exact absurd kind (by decide)

theorem nodup_map_foreignKeyName :
    ((foreignKeyKeys b).map (constraintName "fk" b.table)).Nodup ↔ (foreignKeyKeys b).Nodup :=
  List.nodup_map_iff fun _ _ same => (constraintName_inj (by decide) (by decide) same).2

theorem flatMap_ite {α β : Type} (p : α → Bool) (f : α → β) (items : List α) :
    (items.flatMap fun item => if p item then [f item] else []) = (items.filter p).map f := by
  induction items with
  | nil => rfl
  | cons item rest ih => cases h : p item <;> simp [h, ih]

/-- No two checks have the same name, since each column has one check at most. -/
theorem nodup_checkNames (wf : b.WellFormed) :
    (typeLabels d b ++ b.columns.flatMap fun c =>
      if checkedBehind d c then [checkName b.table c] else []).Nodup := by
  have columns : b.columns.Nodup := wf.distinct.of_map _
  rw [typeLabels, flatMap_ite, flatMap_ite, ← List.map_append]
  refine List.Nodup.map_on ?_ (List.Nodup.append (columns.filter _) (columns.filter _) ?_)
  · intro c member other member' same
    have known (c : Column) (h : c ∈ b.columns.filter (checkedInType d) ++
        b.columns.filter (checkedBehind d)) : c ∈ b.columns := by
      rcases List.mem_append.mp h with h | h
      · exact List.mem_of_mem_filter h
      · exact List.mem_of_mem_filter h
    exact wf.eq_of_name (known c member) (known other member')
      (constraintName_inj (by decide) (by decide) same).2
  · intro c inType behind
    have both := (List.mem_filter.mp behind).2
    rw [not_checkedBehind (List.mem_filter.mp inType).2] at both
    cases both

/-- Names that are made up for these kinds. -/
def MadeFor (table : String) (kinds labels : List String) : Prop :=
  ∀ label ∈ labels, ∃ kind ∈ kinds, ∃ columns, label = constraintName kind table columns

/-- Names of different kinds are different. -/
theorem MadeFor.disjoint {table : String} {kinds others labels more : List String}
    (h : MadeFor table kinds labels) (hmore : MadeFor table others more)
    (known : ∀ kind ∈ kinds, kind ∈ labelKinds ∧ kind ∉ others)
    (known' : ∀ kind ∈ others, kind ∈ labelKinds) : labels.Disjoint more := by
  intro label here there
  obtain ⟨kind, listed, columns, rfl⟩ := h label here
  obtain ⟨kind', listed', columns', same⟩ := hmore _ there
  obtain ⟨rfl, -⟩ := constraintName_inj (known kind listed).1 (known' kind' listed') same
  exact (known kind listed).2 listed'

theorem MadeFor.map {α : Type} {table kind : String} (columns : α → String) (items : List α) :
    MadeFor table [kind] (items.map fun item => constraintName kind table (columns item)) := by
  intro label member
  obtain ⟨item, -, rfl⟩ := List.mem_map.mp member
  exact ⟨kind, by simp, columns item, rfl⟩

/-- Names by what they are for: checks, a key, foreign keys and indexes. -/
def labelGroups (b : Blueprint) (checks keys : List String) : List (List String) :=
  [checks, keys, b.foreignKeys.map (Definition.foreignKeyName b.table),
    (indexesOf b).map (indexName b.table)]

/-- No name of one kind is one of another, and no two checks have the same name. -/
structure Kinds (b : Blueprint) (found checks keys : List String) : Prop where
  sorted : found.Perm (labelGroups b checks keys).flatten
  checked : MadeFor b.table ["chk"] checks
  keyed : MadeFor b.table ["pk"] keys
  once : checks.Nodup ∧ keys.Nodup
  apart : (labelGroups b checks keys).Pairwise List.Disjoint
  uses : ∀ i ∈ indexesOf b, ∀ other ∈ indexesOf b,
    indexName b.table i = indexName b.table other → i.unique = other.unique

/-- The names in the statements are of different kinds, and the checks each have one of their own. -/
theorem exists_kinds (wf : b.WellFormed) (indexes : ∀ i ∈ b.indexes, i.name = none)
    (foreignKeys : ∀ k ∈ b.foreignKeys, k.name = none) {keys : List String} (once : keys.Nodup)
    (made : MadeFor b.table ["pk"] keys) :
    ∃ checks, Kinds b (typeLabels d b ++ (keys ++ constraintLabels d b) ++
      (indexesOf b).map (indexName b.table)) checks keys := by
  have checks := nodup_checkNames (d := d) wf
  have checked : MadeFor b.table ["chk"] (typeLabels d b ++
      b.columns.flatMap fun c => if checkedBehind d c then [checkName b.table c] else []) := by
    rw [typeLabels, flatMap_ite, flatMap_ite, ← List.map_append]
    exact .map Column.name _
  have referring : MadeFor b.table ["fk"]
      (b.foreignKeys.map (Definition.foreignKeyName b.table)) := by
    rw [map_foreignKeyName foreignKeys]
    exact .map id _
  have used (i : Index) (member : i ∈ indexesOf b) :
      indexName b.table i =
        constraintName (if i.unique then "uq" else "idx") b.table (join "_" i.columns) := by
    rw [indexName, name_of_mem_indexesOf indexes member]
    rfl
  have listed (unique : Bool) : (if unique then "uq" else "idx") ∈ ["uq", "idx"] := by
    cases unique <;> decide
  have indexed : MadeFor b.table ["uq", "idx"] ((indexesOf b).map (indexName b.table)) := by
    intro label member
    obtain ⟨i, inside, rfl⟩ := List.mem_map.mp member
    exact ⟨_, listed i.unique, _, used i inside⟩
  refine ⟨_, ?_, checked, made, ⟨checks, once⟩, ?_, ?_⟩
  · have swapped := (List.perm_append_comm_assoc keys (b.columns.flatMap fun c =>
      if checkedBehind d c then [checkName b.table c] else [])
      (b.foreignKeys.map (Definition.foreignKeyName b.table))).append_left (typeLabels d b)
    simpa only [labelGroups, constraintLabels, List.flatten_cons, List.flatten_nil, List.append_nil,
      List.append_assoc] using swapped.append_right ((indexesOf b).map (indexName b.table))
  · simp only [labelGroups, List.pairwise_cons, List.mem_cons, List.not_mem_nil, or_false,
      forall_eq_or_imp, forall_eq, List.Pairwise.nil, and_true, false_implies, implies_true]
    exact ⟨⟨checked.disjoint made (by decide) (by decide),
      checked.disjoint referring (by decide) (by decide),
      checked.disjoint indexed (by decide) (by decide)⟩,
      ⟨made.disjoint referring (by decide) (by decide),
        made.disjoint indexed (by decide) (by decide)⟩,
      referring.disjoint indexed (by decide) (by decide)⟩
  · intro i inside other inside' same
    rw [used i inside, used other inside'] at same
    have known (unique : Bool) : (if unique then "uq" else "idx") ∈ labelKinds := by
      cases unique <;> decide
    obtain ⟨kind, -⟩ := constraintName_inj (known i.unique) (known other.unique) same
    revert kind
    cases i.unique <;> cases other.unique <;> decide

/-- Sorted names can be told apart as far as those of the foreign keys and those of the indexes
can. -/
theorem Kinds.nodup_iff {found checks keys : List String} (h : Kinds b found checks keys)
    (indexes : ∀ i ∈ b.indexes, i.name = none) (foreignKeys : ∀ k ∈ b.foreignKeys, k.name = none) :
    found.Nodup ↔ (foreignKeyKeys b).Nodup ∧ (indexKeys b).Nodup := by
  rw [← nodup_map_foreignKeyName, ← nodup_map_indexName, ← map_indexName indexes,
    ← map_foreignKeyName foreignKeys, h.sorted.nodup_iff, List.nodup_flatten,
    and_iff_left h.apart]
  simp [labelGroups, h.once]

/-- Names without an underscore can be told apart behind each other. -/
theorem join_inj {names names' : List String}
    (valid : ∀ name ∈ names, Identifier.isName name.toList = true ∧ '_' ∉ name.toList)
    (valid' : ∀ name ∈ names', Identifier.isName name.toList = true ∧ '_' ∉ name.toList)
    (same : join "_" names = join "_" names') : names = names' := by
  have underscore : "_".toList = ['_'] := rfl
  have empty {names : List String} (present : names ≠ [])
      (valid : ∀ name ∈ names, Identifier.isName name.toList = true ∧ '_' ∉ name.toList) :
      join "_" names ≠ "" := by
    intro nothing
    have cut := pieces_join underscore present fun name member =>
      (valid name member).2
    rw [nothing] at cut
    have listed : [] ∈ names.map String.toList := by
      rw [← cut]
      exact List.mem_singleton.mpr rfl
    obtain ⟨name, member, none⟩ := List.mem_map.mp listed
    have letters := (valid name member).1
    rw [none] at letters
    cases letters
  by_cases present : names = []
  · subst present
    by_contra other
    exact empty (Ne.symm other) valid' same.symm
  · by_cases present' : names' = []
    · subst present'
      exact absurd same (empty present valid)
    · refine List.map_injective_iff.mpr (fun _ _ => String.toList_injective) ?_
      rw [← pieces_join underscore present fun name member =>
          (valid name member).2, same,
        pieces_join underscore present' fun name member =>
          (valid' name member).2]

end Distinct

end Ddl

namespace Blueprint

open Ddl

/-- The foreign keys, and the indexes of each kind, differ in their columns also where these stand
behind each other with an underscore between them. -/
def Distinguished (b : Blueprint) : Prop := (foreignKeyKeys b).Nodup ∧ (indexKeys b).Nodup

/-- Without underscores in the names of columns their joined names tell them apart. -/
theorem WellFormed.distinguished (wf : b.WellFormed)
    (plain : (∀ i ∈ Ddl.indexesOf b, ∀ name ∈ i.columns, '_' ∉ name.toList) ∧
      ∀ k ∈ b.foreignKeys, ∀ name ∈ k.columns, '_' ∉ name.toList)
    (indexes : ((Ddl.indexesOf b).map fun i => (i.unique, i.columns)).Nodup)
    (foreignKeys : (b.foreignKeys.map (·.columns)).Nodup) : b.Distinguished := by
  obtain ⟨plainIndexes, plainKeys⟩ := plain
  constructor
  · have joined : foreignKeyKeys b = (b.foreignKeys.map (·.columns)).map (join "_") := by
      simp [foreignKeyKeys]
    rw [joined]
    refine foreignKeys.map_on fun names member names' member' same => ?_
    obtain ⟨k, known, rfl⟩ := List.mem_map.mp member
    obtain ⟨k', known', rfl⟩ := List.mem_map.mp member'
    exact join_inj
      (fun name inside => ⟨(wf.foreignKeys k known).columns name inside,
        plainKeys k known name inside⟩)
      (fun name inside => ⟨(wf.foreignKeys k' known').columns name inside,
        plainKeys k' known' name inside⟩) same
  · have joined : indexKeys b = ((Ddl.indexesOf b).map fun i => (i.unique, i.columns)).map
        (Prod.map id (join "_")) := by
      simp [indexKeys]
    rw [joined]
    refine indexes.map_on fun spec member spec' member' same => ?_
    obtain ⟨i, known, rfl⟩ := List.mem_map.mp member
    obtain ⟨i', known', rfl⟩ := List.mem_map.mp member'
    obtain ⟨kind, columns⟩ := Prod.mk.inj same
    have names := join_inj
      (fun name inside => ⟨(wf.indexesOf i known).columns name inside,
        plainIndexes i known name inside⟩)
      (fun name inside => ⟨(wf.indexesOf i' known').columns name inside,
        plainIndexes i' known' name inside⟩) columns
    exact Prod.ext kind names

/-- Where no index and no foreign key was given a name, names of different kinds never collide in the
statements, nor do those of checks, and all of them are different exactly if the foreign keys, and
the indexes of each kind, differ in their columns also where these stand behind each other. In
particular they are different if the columns are others and have no underscores in their names. -/
theorem Reachable.labels_nodup_iff (h : b.Reachable) (indexes : ∀ i ∈ b.indexes, i.name = none)
    (foreignKeys : ∀ k ∈ b.foreignKeys, k.name = none) (d : Dialect) :
    (∀ texts, (b.compileCreate d).1 = .ok texts →
      texts = (createRows d b).map (statement d) ∧
        (∃ checks, Kinds b ((createRows d b).flatMap labels) checks []) ∧
        (((createRows d b).flatMap labels).Nodup ↔ b.Distinguished)) ∧
    (∀ texts, (b.compileAdd d).1 = .ok texts →
      texts = (addRows d b).map (statement d) ∧
        (∃ checks keys, Kinds b ((addRows d b).flatMap labels) checks keys) ∧
        (((addRows d b).flatMap labels).Nodup ↔ b.Distinguished)) ∧
    ((∀ i ∈ indexesOf b, ∀ name ∈ i.columns, '_' ∉ name.toList) ∧
        (∀ k ∈ b.foreignKeys, ∀ name ∈ k.columns, '_' ∉ name.toList) →
      ((indexesOf b).map fun i => (i.unique, i.columns)).Nodup →
      (b.foreignKeys.map (·.columns)).Nodup → b.Distinguished) := by
  have wf := h.wellFormed
  refine ⟨fun texts created => ⟨(create_eq_rows (lockOn_eq_ok.mp created).1).1, ?_⟩,
    fun texts added => ⟨(add_eq_rows (lockOn_eq_ok.mp added).1).1, ?_⟩, wf.distinguished⟩
  · rw [flatMap_labels (labelledAll_createRows d b)]
    obtain ⟨checks, kinds⟩ := exists_kinds (d := d) wf indexes foreignKeys List.nodup_nil nofun
    exact ⟨⟨checks, kinds⟩, kinds.nodup_iff indexes foreignKeys⟩
  · rw [flatMap_labels (labelledAll_addRows d b)]
    let keys := (b.composite.map fun _ => constraintName "pk" b.table "key").toList
    have once : keys.Nodup := by
      unfold keys
      cases b.composite <;> simp
    have made : MadeFor b.table ["pk"] keys := by
      intro label member
      obtain ⟨names, -, rfl⟩ := Option.map_eq_some_iff.mp (Option.mem_toList.mp member)
      exact ⟨"pk", by simp, "key", rfl⟩
    obtain ⟨checks, kinds⟩ := exists_kinds (d := d) wf indexes foreignKeys once made
    exact ⟨⟨checks, _, kinds⟩, kinds.nodup_iff indexes foreignKeys⟩

theorem Reachable.labels_nodup_iff_memberships :
    memberships.Reachable ∧ ∃ texts, (memberships.compileAdd Dialect.sqlServer).1 = .ok texts ∧
      ((addRows Dialect.sqlServer memberships).flatMap labels).Nodup := by
  have reachable : memberships.Reachable :=
    (Reachable.start (show Blueprint.start (.text "role_user") "deleted_at" = _ from rfl)).run _
  obtain ⟨texts, added⟩ : ∃ texts, (memberships.compileAdd Dialect.sqlServer).1 = .ok texts :=
    exists_of_isOk (by decide +kernel)
  have distinguished : memberships.Distinguished := by
    constructor <;> decide +kernel
  have told := (Reachable.labels_nodup_iff reachable (by decide +kernel) (by decide +kernel)
    Dialect.sqlServer).2.1 texts added
  exact ⟨reachable, texts, added, told.2.2.mpr distinguished⟩

/-- Two indexes of one kind on different columns whose names read the same behind each other. -/
def visits : Blueprint :=
  Blueprint.run { table := "visits" }
    [.call (.column (.text "day")), .call (.onColumn "day" (.typed .int .null)),
      .call (.column (.text "hour")), .call (.onColumn "hour" (.typed .int .null)),
      .call (.column (.text "day_hour")), .call (.onColumn "day_hour" (.typed .int .null)),
      .call (.onColumn "day_hour" .index),
      .call (.index [.text "day", .text "hour"] false none)]

/-- Indexes with different columns may have the same name. -/
theorem labels_collide_visits :
    visits.Reachable ∧ (∀ i ∈ visits.indexes, i.name = none) ∧
      (∀ k ∈ visits.foreignKeys, k.name = none) ∧
      ((indexesOf visits).map fun i => (i.unique, i.columns)).Nodup ∧
      (visits.foreignKeys.map (·.columns)).Nodup ∧
      ∃ texts, (visits.compileCreate Dialect.sqlite).1 = .ok texts ∧
        texts = (createRows Dialect.sqlite visits).map (statement Dialect.sqlite) ∧
        (createRows Dialect.sqlite visits).flatMap labels =
          ["idx_visits_day_hour", "idx_visits_day_hour"] := by
  have reachable : visits.Reachable :=
    (Reachable.start (show Blueprint.start (.text "visits") "deleted_at" = _ from rfl)).run _
  obtain ⟨texts, created⟩ : ∃ texts, (visits.compileCreate Dialect.sqlite).1 = .ok texts :=
    exists_of_isOk (by decide +kernel)
  exact ⟨reachable, by decide +kernel, by decide +kernel, by decide +kernel, by decide +kernel,
    texts, created, (create_eq_rows (lockOn_eq_ok.mp created).1).1, by decide +kernel⟩

end Blueprint

end Sqlwright
