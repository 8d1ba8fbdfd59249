import Sqlwright.Dialect.BuiltIn
import Sqlwright.Proofs.Schema.WellFormed

/-!
Creating a table and adding to one agree. Both are refused with the same error, or both put the same
texts of columns, constraints and indexes into their statements, in the same order; only a key of
several columns has a name where a table is added to. Main statement:
`Blueprint.Reachable.create_add_agree`.
-/

namespace Sqlwright

open Text

variable {d : Dialect} {b : Blueprint}

namespace Ddl

/-- The texts that the statements of a table are put together from. -/
structure Fragments where
  columns : List String
  key : Option String
  constraints : List String
  indexes : List String

namespace Fragments

def create (f : Fragments) (d : Dialect) (b : Blueprint) (table : String) : List String :=
  let definitions := f.columns ++ f.key.toList ++ f.constraints
  (createHead d b.table table ++ " (" ++ join ", " definitions ++ ")" ++
    tableOptions d b.options ++ ";") :: f.indexes

/-- The constraints for a table that is there, where a key has a name. -/
def named (f : Fragments) (keyName : String) : List String :=
  f.key.toList.map (fun key => "CONSTRAINT " ++ keyName ++ " " ++ key) ++ f.constraints

/-- One statement for each column and each constraint of a table that is there, and those of its
indexes. -/
def alter (f : Fragments) (d : Dialect) (table keyName : String) : List String :=
  let alter := "ALTER TABLE " ++ table ++ " "
  f.columns.map (fun text => alter ++ d.addColumn ++ " " ++ text ++ ";") ++
    (f.named keyName).map (fun text => alter ++ "ADD " ++ text ++ ";") ++ f.indexes

def isConstrained (f : Fragments) : Bool := f.key.isSome || !f.constraints.isEmpty

theorem isEmpty_named (f : Fragments) (keyName : String) :
    (f.named keyName).isEmpty = !f.isConstrained := by
  unfold named isConstrained
  cases f.key <;> simp

/-- The texts that belong to a definition: of its columns in the order of their declaration, of a
key of several columns, of its foreign keys behind the checks, and of its indexes. -/
structure Of (f : Fragments) (d : Dialect) (b : Blueprint) : Prop where
  columns : List.Forall₂ (fun c text => Definition.column d b c = .ok text) b.columns f.columns
  key : ∀ names, b.composite = some names →
    ∃ quoted, d.quoteList names = .ok quoted ∧ f.key = some ("PRIMARY KEY (" ++ quoted ++ ")")
  keyless : b.composite = none → f.key = none
  constraints : ∃ checks foreignKeys, f.constraints = checks ++ foreignKeys ∧
    emulatedChecks d b = .ok checks ∧
    List.Forall₂ (fun k text => Definition.foreignKey d b k = .ok text) b.foreignKeys foreignKeys
  indexes : List.Forall₂ (fun i text => indexStatement d b.table i = .ok text) (indexesOf b)
    f.indexes

end Fragments

theorem prepare_of_present (present : b.columns ≠ []) :
    prepare b false = prepare b true := by
  unfold prepare
  have filled : b.columns.isEmpty = false := by simpa using present
  rw [filled]
  rfl

/-- A key of several columns is the same text on both ways, but for its name. -/
theorem keyConstraint_eq {key : Option String} {keyName : String}
    (composite : compositeList d b = .ok key)
    (named : d.quoteIdentifier (constraintName "pk" b.table "key") = .ok keyName) :
    keyConstraint d b =
      .ok (key.toList.map fun names =>
        "CONSTRAINT " ++ keyName ++ " PRIMARY KEY (" ++ names ++ ")") := by
  unfold keyConstraint
  rw [composite]
  cases key with
  | none => rfl
  | some names =>
    dsimp only [bind, Except.bind]
    rw [named]
    rfl

end Ddl

namespace Blueprint

open Ddl

theorem compileCreate_of_unlocked (unlocked : b.locked = false) :
    (b.compileCreate d).1 = create d b := by
  unfold compileCreate
  rw [lockOn_eq, unlocked]
  cases create d b <;> rfl

theorem compileAdd_of_unlocked (unlocked : b.locked = false) :
    (b.compileAdd d).1 = add d b := by
  unfold compileAdd
  rw [lockOn_eq, unlocked]
  cases add d b <;> rfl

/-- Both ways go through the same computations in the same order, so they are refused together.
Behind the columns nothing but a database that takes no constraints later can refuse what creates
the table. -/
theorem WellFormed.create_or_add (wf : b.WellFormed) (present : b.columns ≠ []) (d : Dialect) :
    (∃ e, create d b = .error e ∧ add d b = .error e) ∨
      ∃ table keyName f, d.quoteIdentifier b.table = .ok table ∧
        d.quoteIdentifier (constraintName "pk" b.table "key") = .ok keyName ∧ Fragments.Of f d b ∧
        create d b = .ok (f.create d b table) ∧
        add d b =
          if f.isConstrained && !d.can .alterConstraints then
            .error (.constraintsOnExistingTable d.name b.table)
          else .ok (f.alter d table keyName) := by
  obtain ⟨table, htable⟩ := exists_quoteIdentifier (d := d) wf.table
  obtain ⟨key, hkey⟩ := wf.exists_compositeList (d := d)
  obtain ⟨keyName, hname⟩ := wf.exists_keyName (d := d)
  obtain ⟨indexes, hindexes⟩ := wf.exists_indexStatements (d := d)
  have hadded := keyConstraint_eq hkey hname
  have hprepare := prepare_of_present present
  unfold create add
  rw [hprepare]
  cases ready : prepare b true with
  | error e => exact Or.inl ⟨e, rfl, rfl⟩
  | ok _ =>
  rw [htable]
  cases hcolumns : b.columns.mapM (Definition.column d b) with
  | error e => exact Or.inl ⟨e, rfl, rfl⟩
  | ok columns =>
  rw [hkey, hadded]
  cases hchecks : emulatedChecks d b with
  | error e => exact Or.inl ⟨e, rfl, rfl⟩
  | ok checks =>
  cases hforeign : b.foreignKeys.mapM (Definition.foreignKey d b) with
  | error e => exact Or.inl ⟨e, rfl, rfl⟩
  | ok foreignKeys =>
  rw [hindexes]
  let f : Fragments :=
    { columns, key := key.map fun names => "PRIMARY KEY (" ++ names ++ ")",
      constraints := checks ++ foreignKeys, indexes }
  refine Or.inr ⟨table, keyName, f, rfl, hname, ?_, ?_, ?_⟩
  · refine ⟨mapM_eq_ok.mp hcolumns, ?_, ?_,
      ⟨checks, foreignKeys, rfl, hchecks, mapM_eq_ok.mp hforeign⟩, mapM_eq_ok.mp hindexes⟩
    · intro names composite
      unfold compositeList at hkey
      rw [composite] at hkey
      obtain ⟨quoted, list, rfl⟩ := map_eq_ok.mp hkey
      exact ⟨quoted, list, rfl⟩
    · intro composite
      unfold compositeList at hkey
      rw [composite] at hkey
      cases hkey
      rfl
  · change Except.ok _ = Except.ok (f.create d b table)
    simp only [Fragments.create, f, List.append_assoc]
  · have constraints : (key.toList.map fun names =>
        "CONSTRAINT " ++ keyName ++ " PRIMARY KEY (" ++ names ++ ")") ++ checks ++ foreignKeys =
        f.named keyName := by
      have blank (names : String) :
          " PRIMARY KEY (" ++ names = " " ++ ("PRIMARY KEY (" ++ names) := by
        rw [← String.append_assoc]
        rfl
      cases key <;> simp [f, Fragments.named, String.append_assoc, blank]
    change (if (!_) && _ then _ else Except.ok _) = _
    simp only [constraints, f.isEmpty_named keyName, Bool.not_not]
    rfl

/-- Whether a table is created or added to, the same definition is refused with the same error, or
the same texts of columns, constraints and indexes are written in the same order; a key of several
columns has a name in front where the table is added to. A database that takes no constraints on an
existing table refuses to add them, and nothing else. -/
theorem Reachable.create_add_agree (h : b.Reachable) (unlocked : b.locked = false)
    (present : b.columns ≠ []) (d : Dialect) :
    (∃ e, (b.compileCreate d).1 = .error e ∧ (b.compileAdd d).1 = .error e) ∨
      ∃ table keyName f, d.quoteIdentifier b.table = .ok table ∧
        d.quoteIdentifier (constraintName "pk" b.table "key") = .ok keyName ∧ Fragments.Of f d b ∧
        (b.compileCreate d).1 = .ok (f.create d b table) ∧
        (b.compileAdd d).1 =
          if f.isConstrained && !d.can .alterConstraints then
            .error (.constraintsOnExistingTable d.name b.table)
          else .ok (f.alter d table keyName) := by
  rw [compileCreate_of_unlocked unlocked, compileAdd_of_unlocked unlocked]
  exact h.wellFormed.create_or_add present d

/-- A table of two columns that are the key together, with a foreign key, an enumeration and an
index. -/
def memberships : Blueprint :=
  Blueprint.run { table := "role_user" }
    [.call (.column (.text "role")),
      .call (.onColumn "role" (.enum [.text "admin", .text "guest"])),
      .call (.column (.text "user_id")), .call (.onColumn "user_id" (.typed .int .null)),
      .call (.onColumn "user_id" .index), .call (.primary [.text "role", .text "user_id"]),
      .call (.foreign [.text "user_id"]), .call (.onForeignKey 0 (.on (.text "users")))]

theorem Reachable.create_add_agree_memberships :
    memberships.locked = false ∧ memberships.columns ≠ [] ∧
      ∃ f, Fragments.Of f Dialect.sqlServer memberships ∧
        (memberships.compileCreate Dialect.sqlServer).1 =
          .ok (f.create Dialect.sqlServer memberships "[role_user]") ∧
        (memberships.compileAdd Dialect.sqlServer).1 =
          .ok (f.alter Dialect.sqlServer "[role_user]" "[pk_role_user_key]") := by
  have fresh : Reachable { table := "role_user" } :=
    .start (show Blueprint.start (.text "role_user") "deleted_at" = _ from rfl)
  have unlocked : memberships.locked = false := by decide +kernel
  have present : memberships.columns ≠ [] := by
    refine List.length_pos_iff.mp ?_
    decide +kernel
  refine ⟨unlocked, present, ?_⟩
  rcases Reachable.create_add_agree (fresh.run _) unlocked present Dialect.sqlServer with
    ⟨e, refused, -⟩ | ⟨table, keyName, f, htable, hname, of, created, added⟩
  · obtain ⟨texts, answered⟩ :
        ∃ texts, (memberships.compileCreate Dialect.sqlServer).1 = .ok texts :=
      exists_of_isOk (by decide +kernel)
    exact absurd (answered.symm.trans refused) (by simp)
  · have quoted : Dialect.sqlServer.quoteIdentifier "role_user" = .ok "[role_user]" := by
      rfl
    have named : Dialect.sqlServer.quoteIdentifier "pk_role_user_key" =
        .ok "[pk_role_user_key]" := by
      rfl
    cases quoted.symm.trans htable
    cases named.symm.trans hname
    have takes : Dialect.sqlServer.can .alterConstraints = true := by decide
    rw [takes, Bool.not_true, Bool.and_false, if_neg Bool.false_ne_true] at added
    exact ⟨f, of, created, added⟩

end Blueprint

end Sqlwright
