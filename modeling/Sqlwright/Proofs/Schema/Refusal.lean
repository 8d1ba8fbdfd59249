import Sqlwright.Proofs.Schema.Agreement
import Sqlwright.Proofs.Schema.Lock

/-!
What a table definition can be refused for when its statement is put together, and in which order
that is looked at: the lock, a table without columns, a column without a type, a default that does
not fit its column, a foreign key without a table. Whatever else is read on the way, such as a name
that is made up for a constraint or the type of a column, is always there. Main statement:
`Blueprint.Reachable.compileCreate_refused_iff`.
-/

namespace Sqlwright

open Text

variable {d : Dialect} {b : Blueprint} {c : Column}

def Error.defaultColumn? : Error → Option String
  | .booleanDefault column _ | .setDefaultNotText column | .defaultOutsideValues _ _ column
  | .unsupportedDefault _ column => some column
  | _ => none

def Value.isScalar : Value → Bool
  | .bool _ | .text _ => true
  | v => v.isNumber

namespace Definition

/-- Whether a default can be written for a type: a truth value for a column of truth values, a
declared value for an enumeration, a text for a set that is an array, and a truth value, a number or
a text for all others. -/
def fitsType (d : Dialect) (c : Column) (v : Value) : Bool :=
  match c.type, d.setStyle with
  | some .boolean, _ => (v matches .bool _)
  | some .set, .array => (v matches .text _)
  | some .enum, _ => isDeclared c v
  | _, _ => v.isScalar

/-- Whether the default in force can be written. No default and an expression always can. -/
def fitsDefault (d : Dialect) (c : Column) : Bool :=
  match c.effectiveDefault with
  | none | some (.raw _) => true
  | some v => fitsType d c v

section Literals

theorem exists_plainLiteral {v : Value} (h : v.isScalar = true) :
    ∃ literal, plainLiteral d c v = .ok literal := by
  cases v with
  | bool | int | float | decimal | text => exact ⟨_, rfl⟩
  | _ => cases h

theorem plainLiteral_eq_error {v : Value} (h : v.isScalar = false) :
    plainLiteral d c v = .error (.unsupportedDefault v c.name) := by
  cases v with
  | bool | int | float | decimal | text => cases h
  | _ => rfl

/-- Declared values are texts, and so they can be written. -/
theorem isScalar_of_isDeclared {v : Value} (h : isDeclared c v = true) : v.isScalar = true := by
  cases v with
  | text => rfl
  | _ => cases h

/-- Columns of most types take any truth value, number or text. -/
theorem fittingLiteral_eq_plainLiteral {v : Value} (boolean : c.type ≠ some .boolean)
    (enum : c.type ≠ some .enum) (array : c.type = some .set → d.setStyle ≠ .array) :
    fittingLiteral d c v = plainLiteral d c v := by
  unfold fittingLiteral
  split
  · rename_i typed
    exact absurd typed boolean
  · rename_i typed style
    exact absurd style (array typed)
  · rename_i typed
    exact absurd typed enum
  · rfl

/-- A value is written if it fits. -/
theorem exists_fittingLiteral {v : Value} (h : fitsType d c v = true) :
    ∃ literal, fittingLiteral d c v = .ok literal := by
  unfold fitsType at h
  split at h
  · rename_i typed
    simp only [fittingLiteral, typed]
    cases v with
    | bool => exact ⟨_, rfl⟩
    | _ => cases h
  · rename_i typed style
    simp only [fittingLiteral, typed, style]
    cases v with
    | text => exact ⟨_, rfl⟩
    | _ => cases h
  · rename_i typed
    simp only [fittingLiteral, typed, h, if_true]
    exact exists_plainLiteral (isScalar_of_isDeclared h)
  · rename_i boolean enum array
    rw [fittingLiteral_eq_plainLiteral boolean enum array]
    exact exists_plainLiteral h

/-- A value that does not fit is refused, and the error names the column. -/
theorem fittingLiteral_eq_error {v : Value} (h : fitsType d c v = false) :
    ∃ e, fittingLiteral d c v = .error e ∧ e.kind = .invalidDefault ∧
      e.defaultColumn? = some c.name := by
  unfold fitsType at h
  split at h
  · rename_i typed
    simp only [fittingLiteral, typed]
    cases v with
    | bool => cases h
    | _ => exact ⟨_, rfl, rfl, rfl⟩
  · rename_i typed style
    simp only [fittingLiteral, typed, style]
    cases v with
    | text => cases h
    | _ => exact ⟨_, rfl, rfl, rfl⟩
  · rename_i typed
    simp only [fittingLiteral, typed, h, Bool.false_eq_true, if_false]
    exact ⟨_, rfl, rfl, rfl⟩
  · rename_i boolean enum array
    rw [fittingLiteral_eq_plainLiteral boolean enum array]
    exact ⟨_, plainLiteral_eq_error h, rfl, rfl⟩

theorem exists_defaultLiteral (h : fitsDefault d c = true) :
    ∃ literal, defaultLiteral d c = .ok literal := by
  unfold fitsDefault at h
  unfold defaultLiteral
  cases given : c.effectiveDefault with
  | none => exact ⟨_, rfl⟩
  | some v =>
    rw [given] at h
    split
    · exact ⟨_, rfl⟩
    · exact ⟨_, rfl⟩
    · rename_i plain same
      cases same
      obtain ⟨literal, written⟩ := exists_fittingLiteral (by simpa [plain] using h)
      exact ⟨some literal, map_eq_ok.mpr ⟨literal, written, rfl⟩⟩

/-- A default that does not fit is refused, and the refusal names the column. -/
theorem defaultLiteral_eq_error (h : fitsDefault d c = false) :
    ∃ e, defaultLiteral d c = .error e ∧ e.kind = .invalidDefault ∧
      e.defaultColumn? = some c.name := by
  unfold fitsDefault at h
  split at h
  · cases h
  · cases h
  · rename_i v plain given
    obtain ⟨e, refused, about⟩ := fittingLiteral_eq_error h
    refine ⟨e, ?_, about⟩
    simp only [defaultLiteral, given, refused]
    rfl

end Literals

section Parts

variable (table : Identifier.isQualified b.table.toList = true)
  (name : Identifier.isName c.name.toList = true)

include table name

theorem exists_namedCheck (expression : String) :
    ∃ text, namedCheck d b.table c expression = .ok text := by
  have kind : Identifier.isName "chk".toList = true := by decide
  obtain ⟨quoted, h⟩ := exists_quoteName (d := d) (isName_constraintName kind table fun _ inside =>
    Identifier.isName_tail name inside)
  unfold namedCheck
  rw [h]
  exact ⟨_, rfl⟩

/-- The check of an enumeration, inside its type or behind the columns. -/
theorem exists_enumCheck {α : Type} (place : String → α) :
    ∃ result, (do return place (← namedCheck d b.table c (← enumExpression d c)) :
      Except Error α) = .ok result := by
  obtain ⟨quoted, h⟩ := exists_quoteName (d := d) name
  obtain ⟨check, hcheck⟩ := exists_namedCheck (d := d) table name
    (quoted ++ " IN (" ++ valueList d c ++ ")")
  refine ⟨place check, bind_eq_ok.mpr ⟨_, ?_, bind_eq_ok.mpr ⟨check, hcheck, rfl⟩⟩⟩
  unfold enumExpression
  rw [h]
  rfl

/-- The check of a set, whose style is one of those that are written as a check. -/
theorem exists_setCheck {α : Type} (place : String → α) (native : d.setStyle ≠ .native)
    (known : ∀ style, d.setStyle ≠ .other style) :
    ∃ result, (do return place (← namedCheck d b.table c (← setExpression d c)) :
      Except Error α) = .ok result := by
  obtain ⟨quoted, h⟩ := exists_quoteName (d := d) name
  have written : ∃ expression, setExpression d c = .ok expression := by
    unfold setExpression
    rw [h]
    cases style : d.setStyle with
    | native => exact absurd style native
    | other style' => exact absurd style (known style')
    | _ => exact ⟨_, rfl⟩
  obtain ⟨expression, hexpression⟩ := written
  obtain ⟨check, hcheck⟩ := exists_namedCheck (d := d) table name expression
  exact ⟨place check,
    bind_eq_ok.mpr ⟨expression, hexpression, bind_eq_ok.mpr ⟨check, hcheck, rfl⟩⟩⟩

/-- Each type is found. -/
theorem exists_columnType (typed : c.type ≠ none) :
    ∃ text, columnType d b.table c = .ok text := by
  unfold columnType
  split
  · contradiction
  · unfold enumType
    split
    · exact ⟨_, rfl⟩
    · exact exists_enumCheck table name _
    · exact ⟨_, rfl⟩
  · unfold setType
    split
    · exact ⟨_, rfl⟩
    · rename_i style
      exact exists_setCheck table name _ (by simp [style]) (by simp [style])
    · rename_i style
      exact exists_setCheck table name _ (by simp [style]) (by simp [style])
    · exact ⟨_, rfl⟩
  · split
    · exact ⟨_, rfl⟩
    · exact ⟨_, rfl⟩

/-- The check of a column can be written whatever its values are. -/
theorem exists_emulatedCheck : ∃ check, emulatedCheck d b.table c = .ok check := by
  unfold emulatedCheck
  split
  · split
    · exact exists_enumCheck table name some
    · exact ⟨_, rfl⟩
  · split
    · rename_i style
      exact exists_setCheck table name some (by simp [style]) (by simp [style])
    · rename_i style
      exact exists_setCheck table name some (by simp [style]) (by simp [style])
    · rename_i style
      exact exists_setCheck table name some (by simp [style]) (by simp [style])
    · exact ⟨_, rfl⟩
  · exact ⟨_, rfl⟩

/-- A column with a type is written if its default fits. -/
theorem exists_column (typed : c.type ≠ none) (fits : fitsDefault d c = true) :
    ∃ text, column d b c = .ok text := by
  obtain ⟨quoted, hquoted⟩ := exists_quoteName (d := d) name
  obtain ⟨type, htype⟩ := exists_columnType (d := d) table name typed
  obtain ⟨default, hdefault⟩ := exists_defaultLiteral fits
  unfold column
  rw [hquoted, htype, hdefault]
  exact ⟨_, rfl⟩

/-- A column whose default does not fit is refused for it. -/
theorem column_eq_error (typed : c.type ≠ none) (misfit : fitsDefault d c = false) :
    ∃ e, column d b c = .error e ∧ e.kind = .invalidDefault ∧
      e.defaultColumn? = some c.name := by
  obtain ⟨quoted, hquoted⟩ := exists_quoteName (d := d) name
  obtain ⟨type, htype⟩ := exists_columnType (d := d) table name typed
  obtain ⟨e, refused, about⟩ := defaultLiteral_eq_error misfit
  refine ⟨e, ?_, about⟩
  unfold column
  rw [hquoted, htype, refused]
  rfl

end Parts

theorem foreignKey_eq_error {k : ForeignKey} (unfinished : k.table = none) :
    foreignKey d b k = .error (.foreignKeyWithoutTable b.table k.columns) := by
  unfold foreignKey
  rw [unfinished]

def foreignKeyName (table : String) (k : ForeignKey) : String :=
  k.name.getD (constraintName "fk" table (join "_" k.columns))

theorem isName_foreignKeyName {table : String} (htable : Identifier.isQualified table.toList = true)
    {k : ForeignKey} (wf : k.WellFormed) :
    Identifier.isName (foreignKeyName table k).toList = true := by
  unfold foreignKeyName
  cases named : k.name with
  | some name => exact wf.name name named
  | none => exact isName_constraintName (by decide) htable (isTail_of_mem_join wf.columns)

/-- A foreign key with a table is written. -/
theorem exists_foreignKey (table : Identifier.isQualified b.table.toList = true) {k : ForeignKey}
    (wf : k.WellFormed) (finished : k.table ≠ none) : ∃ text, foreignKey d b k = .ok text := by
  obtain ⟨referenced, hreferenced⟩ := Option.ne_none_iff_exists'.mp finished
  obtain ⟨name, hname⟩ := exists_quoteName (d := d) (isName_foreignKeyName table wf)
  obtain ⟨columns, hcolumns⟩ := exists_quoteList (d := d) wf.columns
  obtain ⟨table', htable⟩ := exists_quoteIdentifier (d := d) (wf.table _ hreferenced)
  obtain ⟨others, hothers⟩ := exists_quoteList (d := d) wf.referenced
  unfold foreignKeyName at hname
  unfold foreignKey
  rw [hreferenced]
  dsimp only
  rw [hname, hcolumns, htable, hothers]
  exact ⟨_, rfl⟩

end Definition

namespace Blueprint

open Definition

/-- All names that are quoted for a table: its own, those of its columns, and those of its keys,
checks, foreign keys and indexes, given or made up. -/
def quotedNames (b : Blueprint) : List String :=
  b.table :: constraintName "pk" b.table "key" :: b.composite.getD [] ++
    b.columns.flatMap (fun c => [c.name, constraintName "chk" b.table c.name]) ++
    b.foreignKeys.flatMap (fun k =>
      foreignKeyName b.table k :: k.table.toList ++ k.columns ++ k.referenced) ++
    (Ddl.indexesOf b).flatMap fun i => Ddl.indexName b.table i :: i.columns

/-- Whether the statement of a new table comes to the defaults of its columns. -/
def IsTyped (b : Blueprint) : Prop := b.columns ≠ [] ∧ ∀ c ∈ b.columns, c.type ≠ none

/-- How a request for the statements of a new table ends. Each way is taken only past the obstacles
that stand before it. -/
inductive CreateEnding (d : Dialect) (b : Blueprint) : Except Error (List String) → Prop
  | locked (h : b.locked = true) : CreateEnding d b (.error (.blueprintLocked b.table))
  | empty (unlocked : b.locked = false) (h : b.columns = []) :
    CreateEnding d b (.error (.emptyTable b.table))
  | untyped {c : Column} (unlocked : b.locked = false)
    (first : b.columns.find? (·.type.isNone) = some c) :
    CreateEnding d b (.error (.missingColumnType b.table c.name))
  | misfit {c : Column} {e : Error} (unlocked : b.locked = false) (typed : b.IsTyped)
    (first : b.columns.find? (!fitsDefault d ·) = some c) (kind : e.kind = .invalidDefault)
    (about : e.defaultColumn? = some c.name) : CreateEnding d b (.error e)
  | unfinished {k : ForeignKey} (unlocked : b.locked = false) (typed : b.IsTyped)
    (fit : ∀ c ∈ b.columns, fitsDefault d c = true)
    (first : b.foreignKeys.find? (·.table.isNone) = some k) :
    CreateEnding d b (.error (.foreignKeyWithoutTable b.table k.columns))
  | written {texts : List String} (unlocked : b.locked = false) (typed : b.IsTyped)
    (fit : ∀ c ∈ b.columns, fitsDefault d c = true)
    (finished : ∀ k ∈ b.foreignKeys, k.table ≠ none) : CreateEnding d b (.ok texts)

namespace WellFormed

variable (wf : b.WellFormed)

include wf

/-- No name is refused when it is quoted. -/
theorem exists_quoted {name : String} (h : name ∈ b.quotedNames) :
    ∃ text, d.quoteIdentifier name = .ok text := by
  unfold quotedNames at h
  rcases List.mem_append.mp h with h | index
  · rcases List.mem_append.mp h with h | foreignKey
    · rcases List.mem_append.mp h with table | column
      · rcases List.mem_cons.mp table with rfl | key
        · exact exists_quoteIdentifier wf.table
        · rcases List.mem_cons.mp key with rfl | member
          · exact wf.exists_keyName
          · cases composite : b.composite with
            | none => simp [composite] at member
            | some names =>
              rw [composite] at member
              exact exists_quoteName ((wf.composite names composite).2 name member)
      · obtain ⟨c, known, member⟩ := List.mem_flatMap.mp column
        have valid := wf.names c known
        rcases List.mem_cons.mp member with rfl | check
        · exact exists_quoteName valid
        · obtain rfl := List.mem_singleton.mp check
          exact exists_quoteName (isName_constraintName (by decide) wf.table
            fun _ inside => Identifier.isName_tail valid inside)
    · obtain ⟨k, known, member⟩ := List.mem_flatMap.mp foreignKey
      have valid := wf.foreignKeys k known
      rcases List.mem_append.mp member with member | referenced
      · rcases List.mem_append.mp member with member | column
        · rcases List.mem_cons.mp member with rfl | table
          · exact exists_quoteName (isName_foreignKeyName wf.table valid)
          · exact exists_quoteIdentifier (valid.table name (Option.mem_toList.mp table))
        · exact exists_quoteName (valid.columns name column)
      · exact exists_quoteName (valid.referenced name referenced)
  · obtain ⟨i, known, member⟩ := List.mem_flatMap.mp index
    have valid := wf.indexesOf i known
    rcases List.mem_cons.mp member with rfl | column
    · exact exists_quoteName (valid.isName_indexName wf.table)
    · exact exists_quoteName (valid.columns name column)

/-- The statements of an unlocked table whose columns have types end as its columns and foreign keys
say. -/
theorem ending_of_typed (d : Dialect) (unlocked : b.locked = false) (typed : b.IsTyped) :
    CreateEnding d b (Ddl.create d b) := by
  have ready : Ddl.prepare b true = .ok () := by
    have none_untyped : b.columns.find? (·.type.isNone) = none := by
      simpa using typed.2
    simp [Ddl.prepare, unlocked, typed.1, none_untyped]
  obtain ⟨table, htable⟩ := exists_quoteIdentifier (d := d) wf.table
  unfold Ddl.create
  rw [ready, htable]
  cases misfit : b.columns.find? (!fitsDefault d ·) with
  | some c =>
    have known := List.mem_of_find?_eq_some misfit
    obtain ⟨e, refused, kind, about⟩ := column_eq_error (d := d) wf.table (wf.names c known)
      (typed.2 c known) (by simpa using List.find?_some misfit)
    rw [mapM_eq_error_of_find? (fun other member fits => exists_column wf.table
      (wf.names other member) (typed.2 other member) (by simpa using fits)) misfit refused]
    exact .misfit unlocked typed misfit kind about
  | none =>
  have fit : ∀ c ∈ b.columns, fitsDefault d c = true := by simpa using misfit
  obtain ⟨columns, hcolumns⟩ := exists_mapM_eq_ok fun c member =>
    exists_column (d := d) wf.table (wf.names c member) (typed.2 c member) (fit c member)
  obtain ⟨key, hkey⟩ := wf.exists_compositeList (d := d)
  obtain ⟨checks, hchecks⟩ := exists_mapM_eq_ok fun c member =>
    exists_emulatedCheck (d := d) wf.table (wf.names c member)
  unfold Ddl.emulatedChecks
  rw [hcolumns, hkey, hchecks]
  cases unfinished : b.foreignKeys.find? (·.table.isNone) with
  | some k =>
    have none_table : k.table = none := by simpa using List.find?_some unfinished
    have finished (other : ForeignKey) (member : other ∈ b.foreignKeys)
        (h : other.table.isNone = false) :
        ∃ text, Definition.foreignKey d b other = .ok text :=
      exists_foreignKey wf.table (wf.foreignKeys other member)
        (by simpa [Option.isSome_iff_ne_none] using h)
    rw [mapM_eq_error_of_find? finished unfinished (foreignKey_eq_error none_table)]
    exact .unfinished unlocked typed fit unfinished
  | none =>
    have finished : ∀ k ∈ b.foreignKeys, k.table ≠ none := by simpa using unfinished
    obtain ⟨foreignKeys, hforeignKeys⟩ := exists_mapM_eq_ok fun k member =>
      exists_foreignKey (d := d) wf.table (wf.foreignKeys k member) (finished k member)
    obtain ⟨indexes, hindexes⟩ := wf.exists_indexStatements (d := d)
    rw [hforeignKeys, hindexes]
    exact .written unlocked typed fit finished

/-- Every request for the statements of a new table ends in one of the ways. -/
theorem ending (d : Dialect) : CreateEnding d b (b.compileCreate d).1 := by
  cases locked : b.locked with
  | true =>
    have refused : (b.compileCreate d).1 = .error (.blueprintLocked b.table) := by
      unfold compileCreate
      rw [lockOn_eq, Ddl.create_of_locked locked]
    rw [refused]
    exact .locked locked
  | false =>
  rw [compileCreate_of_unlocked locked]
  cases untyped : b.columns.find? (·.type.isNone) with
  | some c =>
    have present : b.columns ≠ [] := List.ne_nil_of_mem (List.mem_of_find?_eq_some untyped)
    have refused : Ddl.prepare b true = .error (.missingColumnType b.table c.name) := by
      simp [Ddl.prepare, locked, present, untyped]
    unfold Ddl.create
    rw [refused]
    exact .untyped locked untyped
  | none =>
  by_cases present : b.columns = []
  · have refused : Ddl.prepare b true = .error (.emptyTable b.table) := by
      simp [Ddl.prepare, locked, present]
    unfold Ddl.create
    rw [refused]
    exact .empty locked present
  · exact wf.ending_of_typed d locked ⟨present, by simpa using untyped⟩

end WellFormed

/-- For what the request for the statements of a new table is refused, and when it is answered. -/
structure CreateRefusals (d : Dialect) (b : Blueprint) (answer : Except Error (List String)) :
    Prop where
  locked : answer = .error (.blueprintLocked b.table) ↔ b.locked = true
  empty : answer = .error (.emptyTable b.table) ↔ b.locked = false ∧ b.columns = []
  untyped : ∀ name, answer = .error (.missingColumnType b.table name) ↔
    b.locked = false ∧ (b.columns.find? (·.type.isNone)).map (·.name) = some name
  misfit : ∀ name, (∃ e, answer = .error e ∧ e.kind = .invalidDefault ∧
      e.defaultColumn? = some name) ↔
    b.locked = false ∧ b.IsTyped ∧
      (b.columns.find? (!fitsDefault d ·)).map (·.name) = some name
  unfinished : ∀ columns, answer = .error (.foreignKeyWithoutTable b.table columns) ↔
    b.locked = false ∧ b.IsTyped ∧ (∀ c ∈ b.columns, fitsDefault d c = true) ∧
      (b.foreignKeys.find? (·.table.isNone)).map (·.columns) = some columns
  written : (∃ texts, answer = .ok texts) ↔
    b.locked = false ∧ b.IsTyped ∧ (∀ c ∈ b.columns, fitsDefault d c = true) ∧
      ∀ k ∈ b.foreignKeys, k.table ≠ none
  others : ∀ e, answer = .error e →
    e.kind ∈ [.blueprintLocked, .emptyTable, .missingColumnType, .invalidDefault,
      .unsupportedOperation]

theorem CreateEnding.refusals {answer : Except Error (List String)}
    (h : CreateEnding d b answer) : CreateRefusals d b answer := by
  cases h with
  | locked h => constructor <;> simp [h, Error.kind]
  | empty unlocked h => constructor <;> simp [h, unlocked, Error.kind, IsTyped]
  | @untyped c unlocked first =>
    have untyped : ¬ b.IsTyped := fun typed =>
      typed.2 c (List.mem_of_find?_eq_some first) (by simpa using List.find?_some first)
    have present : b.columns ≠ [] := List.ne_nil_of_mem (List.mem_of_find?_eq_some first)
    constructor <;> simp [unlocked, present, untyped, first, Error.kind]
  | @misfit c e unlocked typed first kind about =>
    have misfit : ¬ ∀ c ∈ b.columns, fitsDefault d c = true := fun fit => by
      simpa [fit c (List.mem_of_find?_eq_some first)] using List.find?_some first
    have found : b.columns.find? (·.type.isNone) = none := by simpa using typed.2
    have other (e' : Error) (h : e'.kind ≠ .invalidDefault) :
        Except.error e ≠ (Except.error e' : Except Error (List String)) := by
      rintro ⟨⟩
      exact h kind
    refine ⟨?_, ?_, fun name => ?_, fun name => ?_, fun columns => ?_, ?_, ?_⟩
    · simp [unlocked, other (.blueprintLocked b.table) nofun]
    · simp [typed.1, other (.emptyTable b.table) nofun]
    · simp [found, other (.missingColumnType b.table name) nofun]
    · simp [unlocked, typed, first, kind, about]
    · simp [misfit, other (.foreignKeyWithoutTable b.table columns) nofun]
    · simp [misfit]
    · simp [kind]
  | @unfinished k unlocked typed fit first =>
    have fitting : b.columns.find? (!fitsDefault d ·) = none := by simpa using fit
    have found : b.columns.find? (·.type.isNone) = none := by simpa using typed.2
    have unfinished : ¬ ∀ k ∈ b.foreignKeys, k.table ≠ none := fun finished =>
      finished k (List.mem_of_find?_eq_some first) (by simpa using List.find?_some first)
    refine ⟨?_, ?_, fun name => ?_, fun name => ?_, fun columns => ?_, ?_, ?_⟩
    · simp [unlocked]
    · simp [typed.1]
    · simp [found]
    · simp [fitting, Error.kind]
    · simpa [unlocked, typed, first] using fun _ => fit
    · simp [unfinished]
    · simp [Error.kind]
  | written unlocked typed fit finished =>
    have fitting : b.columns.find? (!fitsDefault d ·) = none := by simpa using fit
    have found : b.columns.find? (·.type.isNone) = none := by simpa using typed.2
    have complete : b.foreignKeys.find? (·.table.isNone) = none := by simpa using finished
    refine ⟨?_, ?_, fun name => ?_, fun name => ?_, fun columns => ?_, ?_, ?_⟩
    · simp [unlocked]
    · simp [typed.1]
    · simp [found]
    · simp [fitting]
    · simp [complete]
    · exact ⟨fun _ => ⟨unlocked, typed, fit, finished⟩, fun _ => ⟨_, rfl⟩⟩
    · simp

/-- The request for the statements of a new table is refused for the lock; else for having no
column; else for the first column without a type; else for the first column whose default does not
fit; else for a foreign key without a table. Otherwise it is answered. No name is refused on the
way, given or made up, and no type is missing. -/
theorem Reachable.compileCreate_refused_iff (h : b.Reachable) (d : Dialect) :
    CreateRefusals d b (b.compileCreate d).1 ∧
      (∀ name ∈ b.quotedNames, ∃ text, d.quoteIdentifier name = .ok text) ∧
      (∀ word ∈ b.options.words, Identifier.isOption word.toList = true) ∧
      ∀ c ∈ b.columns, c.type ≠ none → ∃ text, columnType d b.table c = .ok text := by
  have wf := h.wellFormed
  refine ⟨(wf.ending d).refusals, fun _ => wf.exists_quoted, wf.options, ?_⟩
  intro c member typed
  exact exists_columnType wf.table (wf.names c member) typed

/-- Two columns with a default that does not fit, behind one whose default does, and a foreign key
without a table. -/
def orders : Blueprint :=
  Blueprint.run { table := "shop.orders" }
    [.call (.id (.text "id")),
      .call (.column (.text "note")), .call (.onColumn "note" (.typed .text .null)),
      .call (.onColumn "note" (.default (.int 7))),
      .call (.column (.text "paid")), .call (.onColumn "paid" (.typed .boolean .null)),
      .call (.onColumn "paid" (.default (.text "yes"))),
      .call (.column (.text "state")), .call (.onColumn "state" (.enum [.text "new"])),
      .call (.onColumn "state" (.default (.text "old"))),
      .call (.foreign [.text "id"])]

theorem Reachable.compileCreate_refused_iff_orders :
    orders.locked = false ∧ orders.IsTyped ∧
      ∃ e, (orders.compileCreate Dialect.sqlServer).1 = .error e ∧ e.kind = .invalidDefault ∧
        e.defaultColumn? = some "paid" := by
  have fresh : Reachable { table := "shop.orders" } :=
    .start (show Blueprint.start (.text "shop.orders") "deleted_at" = _ from rfl)
  have unlocked : orders.locked = false := by decide +kernel
  have typed : orders.IsTyped := by
    refine ⟨List.length_pos_iff.mp ?_, ?_⟩
    · decide +kernel
    · decide +kernel
  have first : (orders.columns.find? (!fitsDefault Dialect.sqlServer ·)).map (·.name) =
      some "paid" := by
    decide +kernel
  obtain ⟨refusals, -⟩ :=
    Reachable.compileCreate_refused_iff (fresh.run _) Dialect.sqlServer (b := orders)
  exact ⟨unlocked, typed, (refusals.misfit "paid").mpr ⟨unlocked, typed, first⟩⟩

end Blueprint

end Sqlwright
