import Mathlib.Logic.Relation
import Sqlwright.Proofs.Outcome
import Sqlwright.Schema.Ddl

/-!
What one step can do to a table definition, said once. `Blueprint.Change` lists the single changes
together with what has been checked before they are made: a name that enters is a name, a new column
is not there yet, a claim on the primary key meets no other owner. Every step is a chain of such
changes (`changes_act`), so a property that each change keeps holds of every reachable definition
(`Reachable.invariant`).
-/

namespace Sqlwright

open Text

section Names

theorem readName_eq_ok {given s : String} (h : readName given = .ok s) :
    Identifier.isName s.toList = true := by
  unfold readName at h
  split at h
  · rename_i name
    cases h
    exact name
  · cases h

theorem readTable_eq_ok {given : Value} {table : String} (h : readTable given = .ok table) :
    Identifier.isQualified table.toList = true := by
  unfold readTable at h
  split at h
  · split at h
    · rename_i name
      cases h
      exact name
    · cases h
  · cases h

/-- A list of names that is accepted is not empty. -/
theorem readNames_eq_ok {given : List Value} {names : List String}
    (h : readNames given = .ok names) :
    names ≠ [] ∧ ∀ name ∈ names, Identifier.isName name.toList = true := by
  unfold readNames at h
  dsimp only at h
  split at h
  · cases h
  · rename_i present
    constructor
    · rintro rfl
      cases List.forall₂_nil_right_iff.mp (mapM_eq_ok.mp h)
      exact present rfl
    · intro name member
      obtain ⟨value, -, read⟩ := exists_of_mem_mapM h member
      split at read
      · split at read
        · rename_i valid
          cases read
          exact valid
        · cases read
      · cases read

end Names

namespace Column

variable (c : Column)

/-- A size that was given is the one that was read, and nothing else changes. -/
theorem sized_cases (given : Value) :
    (c.sized given).2 = c ∨
      ∃ size, readSize c.name given = .ok size ∧
        (c.sized given).2 = { c with size := some size } := by
  unfold sized
  split
  · exact Or.inl rfl
  · split
    · rename_i size read
      exact Or.inr ⟨size, read, rfl⟩
    · exact Or.inl rfl

theorem valued_cases (given : List Value) :
    (c.valued given).2 = c ∨ ∃ values, (c.valued given).2 = { c with values } := by
  unfold valued
  split
  · exact Or.inr ⟨_, rfl⟩
  · exact Or.inl rfl

/-- What one declaration leaves of a column: its name, the key but for a claim, and the size but for
one that was read. -/
structure Follows (claims : Bool) (after : Column) : Prop where
  name : after.name = c.name
  isKey : after.isKey = (c.isKey || claims)
  size : after.size = c.size ∨
    ∃ given size, readSize c.name given = .ok size ∧ after.size = some size

variable {c}

theorem follows_sized {type : Option ColumnType} (given : Value) :
    c.Follows false ({ c with type }.sized given).2 := by
  rcases Column.sized_cases { c with type } given with same | ⟨size, read, sized⟩
  · rw [same]
    exact ⟨rfl, (Bool.or_false _).symm, Or.inl rfl⟩
  · rw [sized]
    exact ⟨rfl, (Bool.or_false _).symm, Or.inr ⟨given, size, read, rfl⟩⟩

theorem follows_valued {type : Option ColumnType} (given : List Value) :
    c.Follows false ({ c with type }.valued given).2 := by
  rcases Column.valued_cases { c with type } given with same | ⟨values, valued⟩
  · rw [same]
    exact ⟨rfl, (Bool.or_false _).symm, Or.inl rfl⟩
  · rw [valued]
    exact ⟨rfl, (Bool.or_false _).symm, Or.inl rfl⟩

/-- A column keeps its name, and takes the key only by a declaration that claims it. -/
theorem follows_apply (c : Column) (call : ColumnCall) :
    c.Follows call.claims (c.apply call).2 := by
  have plain {after : Column} (name : after.name = c.name) (key : after.isKey = c.isKey)
      (size : after.size = c.size) : c.Follows false after :=
    ⟨name, key.trans (Bool.or_false _).symm, Or.inl size⟩
  cases call with
  | typed type length => exact follows_sized length
  | typedAs word length =>
    unfold apply
    dsimp only
    split
    · exact follows_sized length
    · exact plain rfl rfl rfl
  | decimal precision scale =>
    unfold apply
    dsimp only
    split
    · exact plain rfl rfl rfl
    · exact plain rfl rfl rfl
    · exact follows_sized _
    · exact follows_sized _
  | enum values => exact follows_valued values
  | set values => exact follows_valued values
  | length given =>
    unfold apply
    dsimp only
    split
    · rename_i size read
      exact ⟨rfl, (Bool.or_false _).symm, Or.inr ⟨given, size, read, rfl⟩⟩
    · exact plain rfl rfl rfl
  | default value => cases value <;> exact plain rfl rfl rfl
  | auto => exact ⟨rfl, by simp [apply, isKey, ColumnCall.claims], Or.inl rfl⟩
  | primary => exact ⟨rfl, by simp [apply, isKey, ColumnCall.claims], Or.inl rfl⟩
  | check expression =>
    unfold apply
    dsimp only
    split
    · exact plain rfl rfl rfl
    · exact plain rfl rfl rfl
  | unsigned | null | notNull | useCurrent | unique | index | comment => exact plain rfl rfl rfl

/-- A claim is never refused by the column itself. -/
theorem apply_of_claims {call : ColumnCall} (h : call.claims = true) :
    (c.apply call).1 = .ok () := by
  cases call with
  | auto | primary => rfl
  | _ => cases h

end Column

def TableOptions.words (o : TableOptions) : List String :=
  [o.engine, o.charset, o.collation].filterMap id

theorem TableOptions.mem_words {o : TableOptions} {word : String} :
    word ∈ o.words ↔ o.engine = some word ∨ o.charset = some word ∨ o.collation = some word := by
  simp [words, eq_comm]

/-- The columns of an index, and its name if it has one, are names. -/
structure Index.WellFormed (i : Index) : Prop where
  columns : ∀ name ∈ i.columns, Identifier.isName name.toList = true
  name : ∀ name, i.name = some name → Identifier.isName name.toList = true

/-- The columns, the table and the name of a foreign key are names. -/
structure ForeignKey.WellFormed (k : ForeignKey) : Prop where
  columns : ∀ name ∈ k.columns, Identifier.isName name.toList = true
  referenced : ∀ name ∈ k.referenced, Identifier.isName name.toList = true
  table : ∀ table, k.table = some table → Identifier.isQualified table.toList = true
  name : ∀ name, k.name = some name → Identifier.isName name.toList = true

/-- A foreign key refers to names only, whatever is said about it. -/
theorem ForeignKey.WellFormed.apply {k next : ForeignKey} (wf : k.WellFormed)
    {call : ForeignKeyCall} (h : k.apply call = .ok next) : next.WellFormed := by
  cases call with
  | references columns =>
    obtain ⟨names, read, rfl⟩ := map_eq_ok.mp h
    exact { wf with referenced := (readNames_eq_ok read).2 }
  | on table =>
    obtain ⟨table, read, rfl⟩ := map_eq_ok.mp h
    refine { wf with table := ?_ }
    rintro _ ⟨⟩
    exact readTable_eq_ok read
  | onDelete action =>
    obtain ⟨action, -, h⟩ := bind_eq_ok.mp h
    cases h
    exact { wf with }
  | onUpdate action =>
    obtain ⟨action, -, h⟩ := bind_eq_ok.mp h
    cases h
    exact { wf with }
  | cascade =>
    cases h
    exact { wf with }
  | named name =>
    obtain ⟨name, read, rfl⟩ := map_eq_ok.mp h
    refine { wf with name := ?_ }
    rintro _ ⟨⟩
    exact readName_eq_ok read

namespace Blueprint

/-- The owner of the primary key if it is a list of columns. -/
def listOwner (names : List String) : String := "(" ++ join ", " names ++ ")"

/-- The definition after a declaration on the column that is found under a name. -/
def declared (b : Blueprint) (name : String) (c : Column) (call : ColumnCall) : Blueprint :=
  { b.setColumn name (c.apply call).2 with owner := if call.claims then some c.name else b.owner }

/-- The single changes that steps consist of. -/
inductive Change (b : Blueprint) : Blueprint → Prop
  | column {name : String} (valid : Identifier.isName name.toList = true)
    (absent : b.places.find? name = none) : Change b (b.addColumn { name })
  | declaration {name : String} {c : Column} {call : ColumnCall} (found : b.column? name = some c)
    (free : call.claims = true → b.claim c.name = .ok ()) : Change b (b.declared name c call)
  | key {names : List String} (present : names ≠ [])
    (valid : ∀ name ∈ names, Identifier.isName name.toList = true)
    (free : b.claim (listOwner names) = .ok ()) :
    Change b { b with owner := some (listOwner names), composite := some names }
  | index {i : Index} (wf : i.WellFormed) : Change b { b with indexes := b.indexes ++ [i] }
  | foreignKey {k : ForeignKey} (wf : k.WellFormed) :
    Change b { b with foreignKeys := b.foreignKeys ++ [k] }
  | reference {place : Nat} {k next : ForeignKey} {call : ForeignKeyCall}
    (found : b.foreignKeys[place]? = some k) (h : k.apply call = .ok next) :
    Change b { b with foreignKeys := b.foreignKeys.set place next }
  | options {o : TableOptions}
    (h : ∀ word ∈ o.words, word ∈ b.options.words ∨ Identifier.isOption word.toList = true) :
    Change b { b with options := o }
  | lock : Change b { b with locked := true }

abbrev Changes : Blueprint → Blueprint → Prop := Relation.ReflTransGen Change

variable {b next : Blueprint}

theorem requireOpen_eq_ok : b.requireOpen = .ok () ↔ b.locked = false := by
  unfold requireOpen
  cases b.locked <;> simp

theorem requireOpen_of_locked (h : b.locked = true) :
    b.requireOpen = .error (.blueprintLocked b.table) := by
  rw [requireOpen, if_pos h]

/-- The key may be claimed by its owner again. -/
theorem claim_eq_ok {claimant : String} :
    b.claim claimant = .ok () ↔ ∀ owner, b.owner = some owner → owner = claimant := by
  unfold claim
  cases b.owner with
  | none => simp
  | some owner =>
    dsimp only
    split
    · rename_i same
      simp [same]
    · rename_i other
      simp [other]

theorem column?_eq_some {name : String} {c : Column} :
    b.column? name = some c ↔
      ∃ place, b.places.find? name = some place ∧ b.columns[place]? = some c :=
  Option.bind_eq_some_iff

theorem getColumn_text_eq_ok {name : String} {c : Column} :
    b.getColumn (.text name) = .ok c ↔ b.column? name = some c := by
  unfold getColumn
  dsimp only
  cases b.column? name <;> simp

/-- A new column needs a name that no column has. -/
theorem newName_eq_ok {given : Value} {name : String} (h : b.newName given = .ok name) :
    b.locked = false ∧ Identifier.isName name.toList = true ∧ b.places.find? name = none := by
  obtain ⟨_, unlocked, h⟩ := bind_eq_ok.mp h
  refine ⟨requireOpen_eq_ok.mp unlocked, ?_⟩
  cases given with
  | text given =>
    dsimp only at h
    split at h
    · cases h
    · rename_i absent
      have valid := readName_eq_ok h
      unfold readName at h
      split at h
      · cases h
        exact ⟨valid, by simpa [hasColumn, Keyed.has] using absent⟩
      · cases h
  | _ => cases h

theorem receiver_eq_ok {name : String} {call : ColumnCall} {c : Column}
    (h : b.receiver name call = .ok c) :
    b.locked = false ∧ b.column? name = some c ∧
      (call.claims = true → b.claim c.name = .ok ()) := by
  obtain ⟨_, unlocked, h⟩ := bind_eq_ok.mp h
  obtain ⟨found, get, h⟩ := bind_eq_ok.mp h
  obtain ⟨_, free, rfl⟩ := map_eq_ok.mp h
  refine ⟨requireOpen_eq_ok.mp unlocked, getColumn_text_eq_ok.mp get, ?_⟩
  intro claims
  rwa [if_pos claims] at free

theorem readOption_eq_ok {given : Value} {word : String} (h : b.readOption given = .ok word) :
    Identifier.isOption word.toList = true := by
  obtain ⟨-, -, h⟩ := bind_eq_ok.mp h
  cases given with
  | text s =>
    dsimp only at h
    split at h
    · rename_i valid
      cases h
      exact valid
    · cases h
  | _ => cases h

theorem changes_of_attempt {result : Except Error Blueprint}
    (h : ∀ next, result = .ok next → b.Change next) : b.Changes (b.attempt result).2 := by
  cases result with
  | ok next => exact .single (h next rfl)
  | error e => exact .refl

theorem changes_declare (b : Blueprint) (name : String) (call : ColumnCall) :
    b.Changes (b.declare name call).2 := by
  unfold declare
  split
  · rename_i c received
    obtain ⟨-, found, free⟩ := receiver_eq_ok received
    exact .single (.declaration found free)
  · exact .refl

theorem changes_declareAll (b : Blueprint) (name : String) (calls : List ColumnCall) :
    b.Changes (b.declareAll name calls).2 := by
  induction calls generalizing b with
  | nil => exact .refl
  | cons call rest ih =>
    have first := b.changes_declare name call
    unfold declareAll
    split
    · rename_i next declared
      rw [declared] at first
      exact first.trans (ih next)
    · exact first

theorem changes_addDeclared (b : Blueprint) (given : Value) (calls : List ColumnCall) :
    b.Changes (b.addDeclared given calls).2 := by
  unfold addDeclared
  split
  · rename_i name new
    obtain ⟨-, valid, absent⟩ := newName_eq_ok new
    exact .head (.column valid absent) (changes_declareAll _ name calls)
  · exact .refl

theorem change_setPrimary {given : List Value} (h : b.setPrimary given = .ok next) :
    b.Change next := by
  obtain ⟨-, -, h⟩ := bind_eq_ok.mp h
  obtain ⟨names, read, h⟩ := bind_eq_ok.mp h
  obtain ⟨_, free, h⟩ := bind_eq_ok.mp h
  cases h
  obtain ⟨present, valid⟩ := readNames_eq_ok read
  exact .key present valid free

theorem change_addIndex {given : List Value} {unique : Bool} {name : Option String}
    (h : b.addIndex given unique name = .ok next) : b.Change next := by
  obtain ⟨-, -, h⟩ := bind_eq_ok.mp h
  obtain ⟨name', named, h⟩ := bind_eq_ok.mp h
  obtain ⟨names, read, h⟩ := bind_eq_ok.mp h
  cases h
  refine .index ⟨(readNames_eq_ok read).2, ?_⟩
  rintro _ rfl
  cases name with
  | none => cases named
  | some given =>
    obtain ⟨_, read, same⟩ := map_eq_ok.mp named
    cases same
    exact readName_eq_ok read

theorem change_addForeignKey {given : List Value} (h : b.addForeignKey given = .ok next) :
    b.Change next := by
  obtain ⟨-, -, h⟩ := bind_eq_ok.mp h
  obtain ⟨names, read, h⟩ := bind_eq_ok.mp h
  cases h
  have id : ∀ name ∈ ["id"], Identifier.isName name.toList = true := by decide
  exact .foreignKey ⟨(readNames_eq_ok read).2, id, by simp, by simp⟩

theorem changes_declareForeignKey (b : Blueprint) (place : Nat) (call : ForeignKeyCall) :
    b.Changes (b.attempt (b.declareForeignKey place call)).2 := by
  cases result : b.declareForeignKey place call with
  | error e => exact .refl
  | ok next =>
    obtain ⟨-, -, h⟩ := bind_eq_ok.mp result
    split at h
    · rename_i k found
      obtain ⟨changed, applied, rfl⟩ := map_eq_ok.mp h
      exact .single (.reference found applied)
    · cases h
      exact .refl

theorem change_lock (h : b.lock = .ok next) : b.Change next := by
  obtain ⟨-, -, h⟩ := bind_eq_ok.mp h
  cases h
  exact .lock

/-- Whatever a call comes to, it gets there by changes. -/
theorem changes_apply (b : Blueprint) (call : BlueprintCall) : b.Changes (b.apply call).2 := by
  have option {given : Value} {set : String → Blueprint}
      (h : ∀ word, Identifier.isOption word.toList = true → b.Change (set word)) :
      b.Changes (b.attempt ((b.readOption given).map set)).2 := by
    refine changes_of_attempt fun next made => ?_
    obtain ⟨word, read, rfl⟩ := map_eq_ok.mp made
    exact h word (readOption_eq_ok read)
  cases call with
  | column name => exact b.changes_addDeclared name _
  | onColumn name call => exact b.changes_declare name call
  | onForeignKey place call => exact b.changes_declareForeignKey place call
  | id name => exact b.changes_addDeclared name _
  | increments name => exact b.changes_addDeclared name _
  | uid name => exact b.changes_addDeclared name _
  | timestamps =>
    have first := b.changes_addDeclared (.text "created_at") [.typed .timestamp .null, .null]
    unfold apply
    dsimp only
    split
    · rename_i next added
      rw [added] at first
      exact first.trans (next.changes_addDeclared _ _)
    · exact first
  | softDeletes name => exact b.changes_addDeclared _ _
  | primary columns => exact changes_of_attempt fun _ => change_setPrimary
  | index columns unique name => exact changes_of_attempt fun _ => change_addIndex
  | foreign columns => exact changes_of_attempt fun _ => change_addForeignKey
  | engine value | charset value | collation value =>
    refine option fun word valid => .options fun w member => ?_
    rw [TableOptions.mem_words] at member ⊢
    grind
  | lock => exact changes_of_attempt fun _ => change_lock

/-- Statements lock the definition if they are there and it was not locked before. -/
theorem lockOn_eq (b : Blueprint) (statements : Except Error (List String)) :
    b.lockOn statements =
      match statements with
      | .ok texts =>
        if b.locked then (.error (.blueprintLocked b.table), b)
        else (.ok texts, { b with locked := true })
      | .error e => (.error e, b) := by
  unfold lockOn
  cases statements with
  | error e => rfl
  | ok texts =>
    cases locked : b.locked with
    | true => simp [lock, requireOpen_of_locked locked, bind, Except.bind]
    | false => simp [lock, requireOpen_eq_ok.mpr locked, bind, Except.bind, pure, Except.pure]

/-- Statements come out of an open definition only. -/
theorem lockOn_eq_ok {statements : Except Error (List String)} {texts : List String} :
    (b.lockOn statements).1 = .ok texts ↔ statements = .ok texts ∧ b.locked = false := by
  rw [lockOn_eq]
  cases statements with
  | error e => simp
  | ok answered => cases b.locked <;> simp

theorem changes_lockOn (b : Blueprint) (statements : Except Error (List String)) :
    b.Changes (b.lockOn statements).2 := by
  rw [lockOn_eq]
  split
  · split
    · exact .refl
    · exact .single .lock
  · exact .refl

theorem changes_act (b : Blueprint) (step : BlueprintStep) : b.Changes (b.act step).2 := by
  cases step with
  | call call => exact b.changes_apply call
  | create d => exact b.changes_lockOn _
  | add d => exact b.changes_lockOn _

theorem run_cons (b : Blueprint) (step : BlueprintStep) (steps : List BlueprintStep) :
    b.run (step :: steps) = (b.act step).2.run steps := rfl

/-- Definitions that steps lead to, refused ones included. -/
inductive Reachable : Blueprint → Prop
  | start {table : Value} {deletedAtColumn : String} {b : Blueprint}
    (h : Blueprint.start table deletedAtColumn = .ok b) : Reachable b
  | step {b : Blueprint} (h : Reachable b) (step : BlueprintStep) : Reachable (b.act step).2

namespace Reachable

theorem run (h : b.Reachable) (steps : List BlueprintStep) : (b.run steps).Reachable := by
  induction steps generalizing b with
  | nil => exact h
  | cons step rest ih => exact ih (h.step step)

/-- What a fresh definition has and every change keeps, every reachable definition has. -/
theorem invariant {P : Blueprint → Prop} (h : b.Reachable)
    (fresh : ∀ {table deletedAtColumn}, Identifier.isQualified table.toList = true →
      P { table, deletedAtColumn })
    (kept : ∀ {b next : Blueprint}, P b → b.Change next → P next) : P b := by
  induction h with
  | start h =>
    obtain ⟨table, read, rfl⟩ := map_eq_ok.mp h
    exact fresh (readTable_eq_ok read)
  | @step b _ step before =>
    have changes := b.changes_act step
    generalize (b.act step).2 = after at changes
    induction changes with
    | refl => exact before
    | tail _ change ih => exact kept ih change

end Reachable

end Blueprint

end Sqlwright
