import Sqlwright.Proofs.Dialect.Piece
import Sqlwright.Proofs.Outcome
import Sqlwright.Schema.Ddl

/-!
The statements of a table definition as rows of pieces. Each row says where a statement takes its
names, its literals and the caller's SQL from; rendered, the rows are the statements
(`Ddl.create_eq_rows`, `Ddl.add_eq_rows`). So what is proved of the rows holds of the statements.
-/

namespace Sqlwright

open Number Piece Text

variable {d : Dialect} {b : Blueprint} {c : Column} {table text : String}

namespace Piece

def literalList (texts : List String) : List Piece := joined "," (texts.map fun s => [literal s])

def nameList (names : List String) : List Piece := joined ", " (names.map fun s => [name s])

@[simp] theorem render_literalList (texts : List String) :
    render d (literalList texts) = join "," (texts.map d.quoteString) := by
  simp [literalList, Function.comp_def, sql]

@[simp] theorem literals_literalList (texts : List String) :
    literals (literalList texts) = texts := by
  simp [literalList, List.flatMap_map]

theorem render_nameList {names : List String} (h : d.quoteList names = .ok text) :
    render d (nameList names) = text := by
  obtain ⟨quoted, each, rfl⟩ := map_eq_ok.mp h
  have spelled : names.map d.spell = quoted :=
    map_of_mapM (fun name text ok => (Dialect.quoteIdentifier_eq_ok.mp ok).2) each
  simp [nameList, Function.comp_def, sql, ← spelled]

end Piece

namespace Definition

def namedCheckRow (table : String) (c : Column) (expression : List Piece) : List Piece :=
  [plain "CONSTRAINT ", name (constraintName "chk" table c.name), plain " CHECK ("] ++ expression ++
    [plain ")"]

def enumExpressionRow (c : Column) : List Piece :=
  [name c.name, plain " IN ("] ++ literalList c.values ++ [plain ")"]

def setPattern (c : Column) : String :=
  "(" ++ join "|" (c.values.map fun v => String.ofList (escapePattern v.toList)) ++ ")"

def setExpressionRow (d : Dialect) (c : Column) : List Piece :=
  let each (word : String) (pattern : String → String) : List Piece :=
    joined " OR " (c.values.map fun v => [name c.name, plain word, literal (pattern v)])
  match d.setStyle with
  | .array => [name c.name, plain " <@ ARRAY["] ++ literalList c.values ++ [plain "]"]
  | .orEquals => each " = " id
  | .like => each " LIKE " fun v => "%" ++ v ++ "%"
  | .regexp => [plain "REGEXP_LIKE(", name c.name, plain ", ", literal (setPattern c), plain ")"]
  | .containing => each " CONTAINING " id
  | .native | .other _ => []

def enumTypeRow (d : Dialect) (table : String) (c : Column) : List Piece :=
  let base := word ((d.types .enum).render c.size)
  match d.enumStyle with
  | .native => [plain "ENUM("] ++ literalList c.values ++ [plain ")"]
  | .inlineCheck => [base, plain " "] ++ namedCheckRow table c (enumExpressionRow c)
  | _ => [base]

def setTypeRow (d : Dialect) (table : String) (c : Column) : List Piece :=
  let base := word ((d.types .set).render c.size)
  match d.setStyle with
  | .native => [plain "SET("] ++ literalList c.values ++ [plain ")"]
  | .array | .orEquals => [base, plain " "] ++ namedCheckRow table c (setExpressionRow d c)
  | _ => [base]

def typeRow (d : Dialect) (table : String) (c : Column) : List Piece :=
  match c.type with
  | none => []
  | some .enum => enumTypeRow d table c
  | some .set => setTypeRow d table c
  | some type =>
    match if c.auto then (d.serialTypes type).filter (!·.isEmpty) else none with
    | some serial => [word serial]
    | none => [word ((d.types type).render c.size)]

def emulatedCheckRows (d : Dialect) (table : String) (c : Column) : List (List Piece) :=
  match c.type with
  | some .enum =>
    if d.enumStyle = .namedConstraint then [namedCheckRow table c (enumExpressionRow c)] else []
  | some .set =>
    match d.setStyle with
    | .like | .regexp | .containing => [namedCheckRow table c (setExpressionRow d c)]
    | _ => []
  | _ => []

def defaultRow (d : Dialect) (c : Column) : Value → List Piece
  | .raw expression => [free expression]
  | .text s =>
    if c.type = some .set ∧ d.setStyle = .array then
      [plain "ARRAY["] ++ literalList (splitOn ',' s) ++ [plain "]"]
    else [literal s]
  | .bool v => [word (d.booleanLiteral v)]
  | .int n => [word (intText n)]
  | .float x => [word x.text]
  | .decimal n => [word n.text]
  | _ => []

def frontRows (d : Dialect) (b : Blueprint) (c : Column) : List (List Piece) :=
  (if c.unsigned && d.can .unsigned then [[plain "UNSIGNED"]] else []) ++
    (match c.effectiveDefault with
    | some v => [plain "DEFAULT " :: defaultRow d c v]
    | none => []) ++
    (if !c.nullable b.composite then [[plain "NOT NULL"]]
    else if d.can .explicitNull then [[plain "NULL"]] else []) ++
    (if c.auto && !d.autoIncrement.isEmpty then [[word d.autoIncrement]] else [])

def keyRows (c : Column) : List (List Piece) := if c.isKey then [[plain "PRIMARY KEY"]] else []

def commentRows (d : Dialect) (c : Column) : List (List Piece) :=
  match Column.commentText c with
  | some text => if d.can .columnComments then [[plain "COMMENT ", literal text]] else []
  | none => []

def checkRows (d : Dialect) (c : Column) : List (List Piece) :=
  (if c.unsigned && !d.can .unsigned then [[plain "CHECK (", name c.name, plain " >= 0)"]]
    else []) ++
    (match c.check with
    | some expression =>
      if expression.isEmpty then [] else [[plain "CHECK (", free expression, plain ")"]]
    | none => [])

def columnRow (d : Dialect) (b : Blueprint) (c : Column) : List Piece :=
  joined " " ([[name c.name], typeRow d b.table c] ++ frontRows d b c ++ keyRows c ++
    commentRows d c ++ checkRows d c)

def foreignKeyRow (b : Blueprint) (k : ForeignKey) : List Piece :=
  [plain "CONSTRAINT ", name (k.name.getD (constraintName "fk" b.table (join "_" k.columns))),
      plain " FOREIGN KEY ("] ++
    nameList k.columns ++ [plain ") REFERENCES ", name (k.table.getD ""), plain " ("] ++
    nameList k.referenced ++ [plain ")"] ++
    (k.onDelete.map fun action => plain (" ON DELETE " ++ action.sql)).toList ++
    (k.onUpdate.map fun action => plain (" ON UPDATE " ++ action.sql)).toList

/-- The phrases of the conditions that keep the values of an enumeration or a set. -/
def expressionPhrases : List String :=
  [" IN (", ",", ")", " <@ ARRAY[", "]", " OR ", " = ", " LIKE ", " CONTAINING ", "REGEXP_LIKE(",
    ", "]

/-- A piece of a condition: one of its phrases, a name or a literal. -/
inductive InExpression : Piece → Prop
  | phrase {text : String} (h : text ∈ expressionPhrases) : InExpression (plain text)
  | name (text : String) : InExpression (name text)
  | literal (text : String) : InExpression (literal text)

theorem inExpression_literalList (texts : List String) :
    ∀ piece ∈ literalList texts, InExpression piece := by
  refine forall_joined (.phrase (by simp [expressionPhrases])) fun row member => ?_
  obtain ⟨text, -, rfl⟩ := List.mem_map.mp member
  exact List.forall_mem_singleton.mpr (.literal text)

theorem inExpression_enum : ∀ piece ∈ enumExpressionRow c, InExpression piece := by
  simp only [enumExpressionRow, List.forall_mem_append, List.forall_mem_cons]
  exact ⟨⟨⟨.name _, .phrase (by simp [expressionPhrases]), nofun⟩, inExpression_literalList _⟩,
    .phrase (by simp [expressionPhrases]), nofun⟩

theorem inExpression_set : ∀ piece ∈ setExpressionRow d c, InExpression piece := by
  have each {keyword : String} (pattern : String → String) (h : keyword ∈ expressionPhrases) :
      ∀ piece ∈ joined " OR " (c.values.map fun v =>
        [name c.name, plain keyword, literal (pattern v)]), InExpression piece := by
    refine forall_joined (.phrase (by simp [expressionPhrases])) fun row inside => ?_
    obtain ⟨v, -, rfl⟩ := List.mem_map.mp inside
    simp only [List.forall_mem_cons]
    exact ⟨.name _, .phrase h, .literal _, nofun⟩
  unfold setExpressionRow
  split
  · simp only [List.forall_mem_append, List.forall_mem_cons]
    exact ⟨⟨⟨.name _, .phrase (by simp [expressionPhrases]), nofun⟩, inExpression_literalList _⟩,
      .phrase (by simp [expressionPhrases]), nofun⟩
  · exact each _ (by simp [expressionPhrases])
  · exact each _ (by simp [expressionPhrases])
  · simp only [List.forall_mem_cons]
    exact ⟨.phrase (by simp [expressionPhrases]), .name _, .phrase (by simp [expressionPhrases]),
      .literal _, .phrase (by simp [expressionPhrases]), nofun⟩
  · exact each _ (by simp [expressionPhrases])
  · exact nofun
  · exact nofun

section Members

variable {row : List Piece}

theorem mem_emulatedCheckRows (h : row ∈ emulatedCheckRows d table c) :
    row = namedCheckRow table c (enumExpressionRow c) ∨
      row = namedCheckRow table c (setExpressionRow d c) := by
  unfold emulatedCheckRows at h
  split at h
  · split at h
    · exact Or.inl (List.mem_singleton.mp h)
    · cases h
  · split at h
    · exact Or.inr (List.mem_singleton.mp h)
    · exact Or.inr (List.mem_singleton.mp h)
    · exact Or.inr (List.mem_singleton.mp h)
    · cases h
  · cases h

/-- In front of the key there stand the default, the word for counting and flags. -/
theorem mem_frontRows (h : row ∈ frontRows d b c) :
    (∃ v, c.effectiveDefault = some v ∧ row = plain "DEFAULT " :: defaultRow d c v) ∨
      row = [word d.autoIncrement] ∨
      ∃ text ∈ ["UNSIGNED", "NOT NULL", "NULL"], row = [plain text] := by
  have phrase {text : String} (known : text ∈ ["UNSIGNED", "NOT NULL", "NULL"])
      (h : row ∈ [[plain text]]) : ∃ text ∈ ["UNSIGNED", "NOT NULL", "NULL"], row = [plain text] :=
    ⟨text, known, List.mem_singleton.mp h⟩
  simp only [frontRows, List.mem_append] at h
  rcases h with ((unsigned | default) | null) | counting
  · split at unsigned
    · exact Or.inr (Or.inr (phrase (by simp) unsigned))
    · cases unsigned
  · split at default
    · rename_i v given
      exact Or.inl ⟨v, given, List.mem_singleton.mp default⟩
    · cases default
  · split at null
    · exact Or.inr (Or.inr (phrase (by simp) null))
    · split at null
      · exact Or.inr (Or.inr (phrase (by simp) null))
      · cases null
  · split at counting
    · exact Or.inr (Or.inl (List.mem_singleton.mp counting))
    · cases counting

theorem mem_keyRows (h : row ∈ keyRows c) : row = [plain "PRIMARY KEY"] := by
  unfold keyRows at h
  split at h
  · exact List.mem_singleton.mp h
  · cases h

theorem mem_commentRows (h : row ∈ commentRows d c) :
    ∃ text, row = [plain "COMMENT ", literal text] := by
  unfold commentRows at h
  split at h
  · split at h
    · exact ⟨_, List.mem_singleton.mp h⟩
    · cases h
  · cases h

theorem mem_checkRows (h : row ∈ checkRows d c) :
    row = [plain "CHECK (", name c.name, plain " >= 0)"] ∨
      ∃ expression, c.check = some expression ∧
        row = [plain "CHECK (", free expression, plain ")"] := by
  rcases List.mem_append.mp h with unsigned | declared
  · split at unsigned
    · exact Or.inl (List.mem_singleton.mp unsigned)
    · cases unsigned
  · split at declared
    · rename_i expression given
      split at declared
      · cases declared
      · exact Or.inr ⟨expression, given, List.mem_singleton.mp declared⟩
    · cases declared

end Members

theorem render_namedCheckRow {expression : String} {row : List Piece}
    (h : namedCheck d table c expression = .ok text) (hrow : render d row = expression) :
    render d (namedCheckRow table c row) = text := by
  obtain ⟨quoted, hname, h⟩ := bind_eq_ok.mp h
  cases h
  simp [namedCheckRow, sql, hrow, (Dialect.quoteIdentifier_eq_ok.mp hname).2, String.append_assoc]

theorem render_enumExpressionRow (h : enumExpression d c = .ok text) :
    render d (enumExpressionRow c) = text := by
  obtain ⟨quoted, hname, h⟩ := bind_eq_ok.mp h
  cases h
  simp [enumExpressionRow, sql, (Dialect.quoteIdentifier_eq_ok.mp hname).2, valueList,
    String.append_assoc]

theorem render_setExpressionRow (h : setExpression d c = .ok text) :
    render d (setExpressionRow d c) = text := by
  obtain ⟨quoted, hname, h⟩ := bind_eq_ok.mp h
  have spelled := (Dialect.quoteIdentifier_eq_ok.mp hname).2
  cases style : d.setStyle <;> simp only [style] at h <;> cases h
  all_goals
    simp [setExpressionRow, style, sql, spelled, valueList, setPattern, Function.comp_def,
      String.append_assoc]

theorem render_checked {base expression : String} {row : List Piece}
    (hrow : render d row = expression)
    (h : (do return base ++ " " ++ (← namedCheck d table c expression)) = Except.ok text) :
    render d ([word base, plain " "] ++ namedCheckRow table c row) = text := by
  obtain ⟨check, hcheck, h⟩ := bind_eq_ok.mp h
  cases h
  rw [render_append, render_namedCheckRow hcheck hrow]
  simp [sql, String.append_assoc]

theorem render_enumTypeRow (h : enumType d table c = .ok text) :
    render d (enumTypeRow d table c) = text := by
  unfold enumType at h
  dsimp only at h
  split at h <;> rename_i style
  · cases h
    simp [enumTypeRow, style, sql, valueList, String.append_assoc]
  · obtain ⟨expression, hexpression, h⟩ := bind_eq_ok.mp h
    simpa only [enumTypeRow, style] using
      render_checked (render_enumExpressionRow hexpression) h
  · cases h
    simp [enumTypeRow, sql]

theorem render_setTypeRow (h : setType d table c = .ok text) :
    render d (setTypeRow d table c) = text := by
  unfold setType at h
  dsimp only at h
  split at h <;> rename_i style
  · cases h
    simp [setTypeRow, style, sql, valueList, String.append_assoc]
  · obtain ⟨expression, hexpression, h⟩ := bind_eq_ok.mp h
    simpa only [setTypeRow, style] using render_checked (render_setExpressionRow hexpression) h
  · obtain ⟨expression, hexpression, h⟩ := bind_eq_ok.mp h
    simpa only [setTypeRow, style] using render_checked (render_setExpressionRow hexpression) h
  · cases h
    simp [setTypeRow, sql]

theorem render_typeRow (h : columnType d table c = .ok text) :
    render d (typeRow d table c) = text := by
  unfold columnType at h
  split at h <;> rename_i type
  · cases h
  · simpa only [typeRow, type] using render_enumTypeRow h
  · simpa only [typeRow, type] using render_setTypeRow h
  · split at h <;> rename_i serial <;> cases h <;> simp [typeRow, type, serial, sql]

theorem render_emulated {check : Option String} {expression : Except Error String}
    {row : List Piece} (hrow : ∀ text, expression = .ok text → render d row = text)
    (h : (do return some (← namedCheck d table c (← expression))) = Except.ok check) :
    [namedCheckRow table c row].map (render d) = check.toList := by
  obtain ⟨text, hexpression, h⟩ := bind_eq_ok.mp h
  obtain ⟨named, hnamed, h⟩ := bind_eq_ok.mp h
  cases h
  simp [render_namedCheckRow hnamed (hrow text hexpression)]

theorem render_emulatedCheckRows {check : Option String}
    (h : emulatedCheck d table c = .ok check) :
    (emulatedCheckRows d table c).map (render d) = check.toList := by
  unfold emulatedCheck at h
  split at h <;> rename_i type
  · split at h <;> rename_i style
    · simpa only [emulatedCheckRows, type, if_pos style] using
        render_emulated (fun _ => render_enumExpressionRow) h
    · cases h
      simp [emulatedCheckRows, type, style]
  · split at h <;> rename_i style
    · simpa only [emulatedCheckRows, type, style] using
        render_emulated (fun _ => render_setExpressionRow) h
    · simpa only [emulatedCheckRows, type, style] using
        render_emulated (fun _ => render_setExpressionRow) h
    · simpa only [emulatedCheckRows, type, style] using
        render_emulated (fun _ => render_setExpressionRow) h
    · cases h
      simp [emulatedCheckRows, type]
  · cases h
    simp [emulatedCheckRows]

theorem render_plainLiteral {v : Value} (notSet : ¬ (c.type = some .set ∧ d.setStyle = .array))
    (h : plainLiteral d c v = .ok text) : render d (defaultRow d c v) = text := by
  cases v with
  | bool | int | float | decimal =>
    cases h
    simp [defaultRow, sql]
  | text s =>
    cases h
    rw [defaultRow, if_neg notSet]
    simp [sql]
  | _ => cases h

theorem render_fittingLiteral {v : Value} (h : fittingLiteral d c v = .ok text) :
    render d (defaultRow d c v) = text := by
  unfold fittingLiteral at h
  split at h
  · rename_i boolean
    split at h
    · cases h
      simp [defaultRow, sql]
    · cases h
  · rename_i set array
    split at h
    · cases h
      rw [defaultRow, if_pos ⟨set, array⟩]
      simp [String.append_assoc, sql]
    · cases h
  · rename_i enum
    split at h
    · refine render_plainLiteral ?_ h
      rintro ⟨set, -⟩
      rw [enum] at set
      cases set
    · cases h
  · rename_i other
    exact render_plainLiteral (fun both => other both.1 both.2) h

theorem render_defaultRow {default : Option String} (h : defaultLiteral d c = .ok default) :
    c.effectiveDefault.map (fun v => render d (defaultRow d c v)) = default := by
  unfold defaultLiteral at h
  split at h <;> rename_i given <;> rw [given]
  · cases h
    rfl
  · cases h
    simp [defaultRow, sql]
  · obtain ⟨text, fitting, rfl⟩ := map_eq_ok.mp h
    rw [Option.map_some, render_fittingLiteral fitting]

theorem render_words {default : Option String} (h : defaultLiteral d c = .ok default) :
    (frontRows d b c ++ keyRows c ++ commentRows d c).map (render d) =
      columnWords d b c default := by
  have given := render_defaultRow h
  have each {P : Prop} [Decidable P] (rows others : List (List Piece)) :
      (if P then rows else others).map (render d) =
        if P then rows.map (render d) else others.map (render d) := apply_ite _ _ _ _
  clear h
  unfold frontRows keyRows commentRows columnWords
  generalize c.effectiveDefault = value at given ⊢
  subst given
  cases value <;> cases Column.commentText c <;>
    simp only [List.map_append, each, List.map_cons, List.map_nil, render_cons, render_nil, sql,
      String.append_empty, Option.map_some, Option.map_none]

theorem render_checkRows {quoted : String} (h : d.quoteIdentifier c.name = .ok quoted) :
    (checkRows d c).map (render d) =
      (columnChecks d c quoted).map fun expression => "CHECK (" ++ expression ++ ")" := by
  have spelled := (Dialect.quoteIdentifier_eq_ok.mp h).2
  unfold checkRows columnChecks
  rw [List.map_append, List.map_append]
  congr 1
  · split
    · simp [sql, spelled, String.append_assoc]
    · rfl
  · cases c.check with
    | none => rfl
    | some expression =>
      dsimp only
      split
      · rfl
      · simp [sql, String.append_assoc]

/-- What is written for a column is its row, piece by piece. -/
theorem render_columnRow (h : column d b c = .ok text) : render d (columnRow d b c) = text := by
  obtain ⟨quoted, hname, h⟩ := bind_eq_ok.mp h
  obtain ⟨type, htype, h⟩ := bind_eq_ok.mp h
  obtain ⟨default, hdefault, h⟩ := bind_eq_ok.mp h
  cases h
  have spelled := (Dialect.quoteIdentifier_eq_ok.mp hname).2
  rw [columnRow, render_joined, List.append_assoc [_, _], List.append_assoc [_, _],
    List.map_append, List.map_append, render_words hdefault, render_checkRows hname]
  simp [render_typeRow htype, sql, spelled]

theorem render_foreignKeyRow {k : ForeignKey} (h : foreignKey d b k = .ok text) :
    render d (foreignKeyRow b k) = text := by
  unfold foreignKey at h
  split at h
  · cases h
  · rename_i table referenced
    obtain ⟨quoted, hname, h⟩ := bind_eq_ok.mp h
    obtain ⟨columns, hcolumns, h⟩ := bind_eq_ok.mp h
    obtain ⟨target, htable, h⟩ := bind_eq_ok.mp h
    obtain ⟨others, hothers, h⟩ := bind_eq_ok.mp h
    cases h
    have spelled := (Dialect.quoteIdentifier_eq_ok.mp hname).2
    have spelledTable := (Dialect.quoteIdentifier_eq_ok.mp htable).2
    unfold foreignKeyRow
    rw [referenced]
    cases k.onDelete <;> cases k.onUpdate <;>
      simp [sql, spelled, spelledTable, render_nameList hcolumns, render_nameList hothers,
        String.append_assoc]

/-- Foreign keys that are written have a table. -/
theorem finished_of_foreignKey {texts : List String}
    (h : b.foreignKeys.mapM (foreignKey d b) = .ok texts) :
    ∀ k ∈ b.foreignKeys, ∃ table, k.table = some table := by
  intro k member
  obtain ⟨text, written⟩ := ok_of_mem_mapM h member
  unfold foreignKey at written
  split at written
  · cases written
  · rename_i table referenced
    exact ⟨table, referenced⟩

end Definition

namespace Ddl

def headRow (d : Dialect) (table : String) : List Piece :=
  match d.createGuard with
  | .ifNotExists => [plain "CREATE TABLE IF NOT EXISTS ", name table]
  | .sysobjects =>
    [plain "IF NOT EXISTS (SELECT * FROM sysobjects WHERE name = ", literal (bareName table),
      plain " AND xtype = ", literal "U", plain ") CREATE TABLE ", name table]
  | .unguarded | .other _ => [plain "CREATE TABLE ", name table]

def optionRow (keyword : String) (value : Option String) : List (List Piece) :=
  match value with
  | some s => if s.isEmpty then [] else [[word (keyword ++ "=" ++ s)]]
  | none => []

def tableOptionsRow (d : Dialect) (o : TableOptions) : List Piece :=
  if o.isEmpty || !d.can .tableOptions then []
  else
    plain " " :: joined " "
      (optionRow "ENGINE" o.engine ++ optionRow "DEFAULT CHARSET" o.charset ++
        optionRow "COLLATE" o.collation)

def indexHead (d : Dialect) (i : Index) : String :=
  if i.unique then
    if d.can .indexIfNotExists then "CREATE UNIQUE INDEX IF NOT EXISTS " else "CREATE UNIQUE INDEX "
  else if d.can .indexIfNotExists then "CREATE INDEX IF NOT EXISTS " else "CREATE INDEX "

def indexRow (d : Dialect) (table : String) (i : Index) : List Piece :=
  [plain (indexHead d i), name (indexName table i), plain " ON ", name table, plain " ("] ++
    nameList i.columns ++ [plain ")"]

def keyRow (names : List String) : List Piece :=
  [plain "PRIMARY KEY ("] ++ nameList names ++ [plain ")"]

def namedKeyRow (table : String) (names : List String) : List Piece :=
  [plain "CONSTRAINT ", name (constraintName "pk" table "key"), plain " "] ++ keyRow names

def constraintRows (d : Dialect) (b : Blueprint) : List (List Piece) :=
  b.columns.flatMap (Definition.emulatedCheckRows d b.table) ++
    b.foreignKeys.map (Definition.foreignKeyRow b)

def createRows (d : Dialect) (b : Blueprint) : List (List Piece) :=
  (headRow d b.table ++ [plain " ("] ++
      joined ", " (b.columns.map (Definition.columnRow d b) ++ (b.composite.map keyRow).toList ++
        constraintRows d b) ++
      [plain ")"] ++ tableOptionsRow d b.options) ::
    (indexesOf b).map (indexRow d b.table)

def alterRow (table : String) (change : List Piece) : List Piece :=
  [plain "ALTER TABLE ", name table, plain " "] ++ change

def addRows (d : Dialect) (b : Blueprint) : List (List Piece) :=
  b.columns.map (fun c =>
      alterRow b.table ([word d.addColumn, plain " "] ++ Definition.columnRow d b c)) ++
    ((b.composite.map (namedKeyRow b.table)).toList ++ constraintRows d b).map
      (fun row => alterRow b.table ([plain "ADD "] ++ row)) ++
    (indexesOf b).map (indexRow d b.table)

def statement (d : Dialect) (row : List Piece) : String := render d row ++ ";"

theorem mem_optionRow {keyword : String} {value : Option String} {row : List Piece}
    (h : row ∈ optionRow keyword value) :
    ∃ text, value = some text ∧ row = [word (keyword ++ "=" ++ text)] := by
  unfold optionRow at h
  split at h
  · split at h
    · cases h
    · exact ⟨_, rfl, List.mem_singleton.mp h⟩
  · cases h

theorem mem_constraintRows {row : List Piece} (h : row ∈ constraintRows d b) :
    (∃ c ∈ b.columns, row ∈ Definition.emulatedCheckRows d b.table c) ∨
      ∃ k ∈ b.foreignKeys, row = Definition.foreignKeyRow b k := by
  rcases List.mem_append.mp h with check | key
  · exact Or.inl (List.mem_flatMap.mp check)
  · obtain ⟨k, member, rfl⟩ := List.mem_map.mp key
    exact Or.inr ⟨k, member, rfl⟩

theorem render_headRow {quoted : String} (h : d.quoteIdentifier table = .ok quoted) :
    render d (headRow d table) = createHead d table quoted := by
  have spelled := (Dialect.quoteIdentifier_eq_ok.mp h).2
  unfold headRow createHead
  cases d.createGuard with
  | sysobjects =>
    have kind : d.quoteString "U" = "'U'" := by
      simp [Dialect.quoteString, Dialect.literalChar]
    have split (rest : String) : " AND xtype = " ++ ("'U'" ++ (") CREATE TABLE " ++ rest)) =
        " AND xtype = 'U') CREATE TABLE " ++ rest := by
      rw [← String.append_assoc, ← String.append_assoc]
      rfl
    simp [sql, spelled, kind, split, String.append_assoc]
  | _ => simp [sql, spelled]

theorem render_optionRow (keyword : String) (value : Option String) :
    (optionRow keyword value).map (render d) = option keyword value := by
  unfold optionRow option
  cases value with
  | none => rfl
  | some s =>
    dsimp only
    split
    · rfl
    · simp [sql]

theorem render_tableOptionsRow (o : TableOptions) :
    render d (tableOptionsRow d o) = tableOptions d o := by
  unfold tableOptionsRow tableOptions
  split
  · rfl
  · simp [sql, render_optionRow]

theorem statement_indexRow {i : Index} (h : indexStatement d table i = .ok text) :
    statement d (indexRow d table i) = text := by
  obtain ⟨quoted, hname, h⟩ := bind_eq_ok.mp h
  obtain ⟨target, htable, h⟩ := bind_eq_ok.mp h
  obtain ⟨columns, hcolumns, h⟩ := bind_eq_ok.mp h
  cases h
  have spelled := (Dialect.quoteIdentifier_eq_ok.mp hname).2
  have spelledTable := (Dialect.quoteIdentifier_eq_ok.mp htable).2
  have head : indexHead d i = "CREATE " ++ (if i.unique then "UNIQUE INDEX " else "INDEX ") ++
      (if d.can .indexIfNotExists then "IF NOT EXISTS " else "") := by
    unfold indexHead
    cases i.unique <;> cases d.can .indexIfNotExists <;> rfl
  simp [statement, indexRow, head, sql, spelled, spelledTable, render_nameList hcolumns,
    String.append_assoc]

theorem render_emulatedChecks {checks : List String} (h : emulatedChecks d b = .ok checks) :
    (b.columns.flatMap (Definition.emulatedCheckRows d b.table)).map (render d) = checks := by
  obtain ⟨each, heach, rfl⟩ := map_eq_ok.mp h
  have rows := mapM_eq_ok.mp heach
  clear h heach
  generalize b.columns = columns at rows ⊢
  induction rows with
  | nil => rfl
  | @cons c check _ _ here _ ih =>
    rw [List.flatMap_cons, List.map_append, Definition.render_emulatedCheckRows here, ih]
    cases check <;> rfl

theorem render_compositeList {key : Option String} (h : compositeList d b = .ok key) :
    b.composite.map (fun names => render d (nameList names)) = key := by
  unfold compositeList at h
  split at h <;> rename_i composite <;> rw [composite]
  · obtain ⟨names, list, rfl⟩ := map_eq_ok.mp h
    rw [Option.map_some, render_nameList list]
  · cases h
    rfl

/-- What the columns and the constraints behind them are rendered from, if none is refused. -/
theorem render_definitions {columns checks foreignKeys : List String}
    (hcolumns : b.columns.mapM (Definition.column d b) = .ok columns)
    (hchecks : emulatedChecks d b = .ok checks)
    (hforeign : b.foreignKeys.mapM (Definition.foreignKey d b) = .ok foreignKeys) :
    (b.columns.map (Definition.columnRow d b)).map (render d) = columns ∧
      (constraintRows d b).map (render d) = checks ++ foreignKeys := by
  have written := map_of_mapM (fun c text => Definition.render_columnRow) hcolumns
  refine ⟨List.map_map.trans written, ?_⟩
  have keys := map_of_mapM (fun k text => Definition.render_foreignKeyRow) hforeign
  rw [constraintRows, List.map_append, render_emulatedChecks hchecks, List.map_map]
  exact congrArg (checks ++ ·) keys

theorem render_keyConstraint {key : List String} (h : keyConstraint d b = .ok key) :
    (b.composite.map (namedKeyRow b.table)).toList.map (render d) = key := by
  obtain ⟨quoted, hkey, h⟩ := bind_eq_ok.mp h
  have names := render_compositeList hkey
  clear hkey
  generalize b.composite = composite at names ⊢
  subst names
  cases composite with
  | none =>
    cases h
    rfl
  | some columns =>
    obtain ⟨keyName, hname, h⟩ := bind_eq_ok.mp h
    cases h
    have blank (rest : String) : " " ++ ("PRIMARY KEY (" ++ rest) = " PRIMARY KEY (" ++ rest := by
      rw [← String.append_assoc]
      rfl
    simp [namedKeyRow, keyRow, sql, (Dialect.quoteIdentifier_eq_ok.mp hname).2, blank,
      String.append_assoc]

/-- What is written when a table is created, is rendered from its rows. -/
theorem create_eq_rows {texts : List String} (h : create d b = .ok texts) :
    texts = (createRows d b).map (statement d) ∧
      ∀ k ∈ b.foreignKeys, ∃ table, k.table = some table := by
  obtain ⟨_, -, h⟩ := bind_eq_ok.mp h
  obtain ⟨table, htable, h⟩ := bind_eq_ok.mp h
  obtain ⟨columns, hcolumns, h⟩ := bind_eq_ok.mp h
  obtain ⟨key, hkey, h⟩ := bind_eq_ok.mp h
  obtain ⟨checks, hchecks, h⟩ := bind_eq_ok.mp h
  obtain ⟨foreignKeys, hforeign, h⟩ := bind_eq_ok.mp h
  obtain ⟨indexes, hindexes, h⟩ := bind_eq_ok.mp h
  cases h
  obtain ⟨columns, constraints⟩ := render_definitions hcolumns hchecks hforeign
  have indexRows := map_of_mapM (fun i text => statement_indexRow) hindexes
  have keys := render_compositeList hkey
  subst indexRows keys
  refine ⟨?_, Definition.finished_of_foreignKey hforeign⟩
  rw [createRows, List.map_cons, List.map_map]
  congr 1
  have keys : (b.composite.map keyRow).toList.map (render d) =
      ((b.composite.map fun names => render d (nameList names)).map fun names =>
        "PRIMARY KEY (" ++ names ++ ")").toList := by
    cases b.composite <;> simp [keyRow, sql, String.append_assoc]
  simp only [statement, render_append, render_cons, render_nil, render_joined, List.map_append,
    render_headRow htable, render_tableOptionsRow, columns, constraints, keys, sql,
    String.append_assoc, String.append_empty, List.append_assoc]

/-- What is written when a table is added to, is rendered from its rows. -/
theorem add_eq_rows {texts : List String} (h : add d b = .ok texts) :
    texts = (addRows d b).map (statement d) ∧
      ∀ k ∈ b.foreignKeys, ∃ table, k.table = some table := by
  obtain ⟨_, -, h⟩ := bind_eq_ok.mp h
  obtain ⟨table, htable, h⟩ := bind_eq_ok.mp h
  obtain ⟨columns, hcolumns, h⟩ := bind_eq_ok.mp h
  obtain ⟨key, hkey, h⟩ := bind_eq_ok.mp h
  obtain ⟨checks, hchecks, h⟩ := bind_eq_ok.mp h
  obtain ⟨foreignKeys, hforeign, h⟩ := bind_eq_ok.mp h
  dsimp only at h
  split at h
  · cases h
  · obtain ⟨indexes, hindexes, h⟩ := bind_eq_ok.mp h
    cases h
    obtain ⟨columns, constraints⟩ := render_definitions hcolumns hchecks hforeign
    have indexRows := map_of_mapM (fun i text => statement_indexRow) hindexes
    have spelled := (Dialect.quoteIdentifier_eq_ok.mp htable).2
    have behind : ((b.composite.map (namedKeyRow b.table)).toList ++ constraintRows d b).map
        (render d) = key ++ checks ++ foreignKeys := by
      rw [List.map_append, render_keyConstraint hkey, constraints, List.append_assoc]
    have blank (rest : String) : " " ++ ("ADD " ++ rest) = " ADD " ++ rest := by
      rw [← String.append_assoc]
      rfl
    refine ⟨?_, Definition.finished_of_foreignKey hforeign⟩
    rw [← columns, ← behind, ← indexRows, ← spelled]
    simp [addRows, statement, alterRow, sql, Function.comp_def, String.append_assoc, blank]

end Ddl

end Sqlwright
