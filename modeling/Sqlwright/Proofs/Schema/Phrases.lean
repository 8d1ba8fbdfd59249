import Sqlwright.Proofs.Schema.Rows
import Sqlwright.Proofs.Schema.WellFormed

/-!
What the statements of a well-formed table definition are made of: fixed phrases, words that the
database or the definition spells, names, literals, and SQL that the caller wrote as a check or as a
raw default (`Ddl.Stated`). Main statements: `Ddl.stated_createRows` and `Ddl.stated_addRows`.
-/

namespace Sqlwright

open Number Piece Text

variable {d : Dialect} {b : Blueprint} {c : Column} {keyed : Bool}

namespace Ddl

/-- The keywords and the punctuation of statements about tables, but for those of the primary key
and of arrays. -/
def phrases : List String :=
  [" ", ",", ", ", ")", " (", " = ", " OR ", " IN (", " LIKE ", " CONTAINING ", "REGEXP_LIKE(",
    "CONSTRAINT ", " CHECK (", "CHECK (", " >= 0)", "ENUM(", "SET(", "UNSIGNED", "DEFAULT ",
    "NOT NULL", "NULL", "COMMENT ", " FOREIGN KEY (", ") REFERENCES ", " ON DELETE CASCADE",
    " ON DELETE SET NULL", " ON DELETE SET DEFAULT", " ON DELETE RESTRICT", " ON DELETE NO ACTION",
    " ON UPDATE CASCADE", " ON UPDATE SET NULL", " ON UPDATE SET DEFAULT", " ON UPDATE RESTRICT",
    " ON UPDATE NO ACTION", "CREATE TABLE IF NOT EXISTS ",
    "IF NOT EXISTS (SELECT * FROM sysobjects WHERE name = ", " AND xtype = ", ") CREATE TABLE ",
    "CREATE TABLE ", "CREATE UNIQUE INDEX ", "CREATE UNIQUE INDEX IF NOT EXISTS ", "CREATE INDEX ",
    "CREATE INDEX IF NOT EXISTS ", " ON ", "ALTER TABLE ", "ADD "]

def optionKeywords : List String := ["ENGINE", "DEFAULT CHARSET", "COLLATE"]

/-- The words that a database or a definition spells: types with their sizes, truth values, numbers,
what makes a column count, what adds one, and options. -/
inductive Spells (d : Dialect) (b : Blueprint) : String → Prop
  | type {c : Column} (member : c ∈ b.columns) (type : ColumnType) :
    Spells d b ((d.types type).render c.size)
  | serial {type : ColumnType} {text : String} (h : d.serialTypes type = some text) :
    Spells d b text
  | truth (v : Bool) : Spells d b (d.booleanLiteral v)
  | int (n : Int) : Spells d b (intText n)
  | float (x : Double) : Spells d b x.text
  | decimal (n : Decimal) : Spells d b n.text
  | counter : Spells d b d.autoIncrement
  | addition : Spells d b d.addColumn
  | option {keyword text : String} (known : keyword ∈ optionKeywords)
    (h : text ∈ b.options.words) : Spells d b (keyword ++ "=" ++ text)

def keyPhrases : List String := ["PRIMARY KEY", "PRIMARY KEY ("]

/-- What a statement may be made of, with the primary key or without it. -/
inductive Stated (d : Dialect) (b : Blueprint) (keyed : Bool) : Piece → Prop
  | key {text : String} (h : text ∈ keyPhrases) (allowed : keyed = true) :
    Stated d b keyed (plain text)
  | phrase {text : String} (h : text ∈ phrases) : Stated d b keyed (plain text)
  | array {text : String} (style : d.setStyle = .array)
    (h : text = " <@ ARRAY[" ∨ text = "ARRAY[" ∨ text = "]") : Stated d b keyed (plain text)
  | word {text : String} (h : Spells d b text) : Stated d b keyed (word text)
  | name {text : String} (h : Identifier.isQualified text.toList = true) :
    Stated d b keyed (name text)
  | literal (text : String) : Stated d b keyed (literal text)
  | check {c : Column} {text : String} (member : c ∈ b.columns) (h : c.check = some text) :
    Stated d b keyed (free text)
  | default {c : Column} {text : String} (member : c ∈ b.columns)
    (h : c.effectiveDefault = some (.raw text)) : Stated d b keyed (free text)

abbrev StatedRow (d : Dialect) (b : Blueprint) (keyed : Bool) (row : List Piece) : Prop :=
  ∀ piece ∈ row, Stated d b keyed piece

theorem StatedRow.append {a z : List Piece} (ha : StatedRow d b keyed a)
    (hz : StatedRow d b keyed z) : StatedRow d b keyed (a ++ z) :=
  List.forall_mem_append.mpr ⟨ha, hz⟩

theorem StatedRow.cons {piece : Piece} {row : List Piece} (h : Stated d b keyed piece)
    (hrow : StatedRow d b keyed row) : StatedRow d b keyed (piece :: row) :=
  List.forall_mem_cons.mpr ⟨h, hrow⟩

theorem StatedRow.phrase {text : String} {row : List Piece} (h : text ∈ phrases)
    (hrow : StatedRow d b keyed row) : StatedRow d b keyed (plain text :: row) :=
  .cons (.phrase h) hrow

theorem StatedRow.nil : StatedRow d b keyed [] := nofun

theorem StatedRow.joined {separator : String} {rows : List (List Piece)}
    (hseparator : separator ∈ phrases) (h : ∀ row ∈ rows, StatedRow d b keyed row) :
    StatedRow d b keyed (joined separator rows) := forall_joined (.phrase hseparator) h

theorem StatedRow.literalList (texts : List String) : StatedRow d b keyed (literalList texts) := by
  refine .joined (by simp [phrases]) fun row member => ?_
  obtain ⟨text, -, rfl⟩ := List.mem_map.mp member
  exact .cons (.literal text) .nil

theorem StatedRow.nameList {names : List String}
    (valid : ∀ name ∈ names, Identifier.isName name.toList = true) :
    StatedRow d b keyed (nameList names) := by
  refine .joined (by simp [phrases]) fun row member => ?_
  obtain ⟨name, known, rfl⟩ := List.mem_map.mp member
  exact .cons (.name (Identifier.isQualified_of_isName (valid name known))) .nil

section Definitions

variable (wf : b.WellFormed)

include wf

theorem stated_columnName (member : c ∈ b.columns) : Stated d b keyed (name c.name) :=
  .name (Identifier.isQualified_of_isName (wf.names c member))

theorem StatedRow.namedCheckRow (member : c ∈ b.columns) {expression : List Piece}
    (h : StatedRow d b keyed expression) :
    StatedRow d b keyed (Definition.namedCheckRow b.table c expression) := by
  have valid : Identifier.isName (constraintName "chk" b.table c.name).toList = true :=
    isName_constraintName (by decide) wf.table fun _ => Identifier.isName_tail (wf.names c member)
  refine .append (.append ?_ h) (.phrase (by simp [phrases]) .nil)
  exact .phrase (by simp [phrases]) (.cons (.name (Identifier.isQualified_of_isName valid))
    (.phrase (by simp [phrases]) .nil))

theorem StatedRow.enumExpressionRow (member : c ∈ b.columns) :
    StatedRow d b keyed (Definition.enumExpressionRow c) := by
  refine .append (.append ?_ (.literalList _)) (.phrase (by simp [phrases]) .nil)
  exact .cons (stated_columnName wf member) (.phrase (by simp [phrases]) .nil)

theorem StatedRow.setExpressionRow (member : c ∈ b.columns) :
    StatedRow d b keyed (Definition.setExpressionRow d c) := by
  have each {keyword : String} (pattern : String → String) (h : keyword ∈ phrases) :
      StatedRow d b keyed (Piece.joined " OR "
        (c.values.map fun v => [name c.name, plain keyword, literal (pattern v)])) := by
    refine .joined (by simp [phrases]) fun row inside => ?_
    obtain ⟨v, -, rfl⟩ := List.mem_map.mp inside
    exact .cons (stated_columnName wf member) (.phrase h (.cons (.literal _) .nil))
  unfold Definition.setExpressionRow
  split
  · rename_i style
    refine .append (.append ?_ (.literalList _)) (.cons (.array style (by simp)) .nil)
    exact .cons (stated_columnName wf member) (.cons (.array style (by simp)) .nil)
  · exact each _ (by simp [phrases])
  · exact each _ (by simp [phrases])
  · exact .phrase (by simp [phrases]) (.cons (stated_columnName wf member)
      (.phrase (by simp [phrases]) (.cons (.literal _)
        (.phrase (by simp [phrases]) .nil))))
  · exact each _ (by simp [phrases])
  · exact .nil
  · exact .nil

theorem StatedRow.typeRow (member : c ∈ b.columns) :
    StatedRow d b keyed (Definition.typeRow d b.table c) := by
  have listed {keyword : String} (h : keyword ∈ phrases) :
      StatedRow d b keyed ([plain keyword] ++ Piece.literalList c.values ++ [plain ")"]) :=
    .append (.append (.phrase h .nil) (.literalList _))
      (.phrase (by simp [phrases]) .nil)
  have base (type : ColumnType) : Stated d b keyed (word ((d.types type).render c.size)) :=
    .word (.type member type)
  have checked (type : ColumnType) {row : List Piece} (h : StatedRow d b keyed row) :
      StatedRow d b keyed ([word ((d.types type).render c.size), plain " "] ++
        Definition.namedCheckRow b.table c row) :=
    .append (.cons (base type) (.phrase (by simp [phrases]) .nil))
      (.namedCheckRow wf member h)
  unfold Definition.typeRow
  split
  · exact .nil
  · unfold Definition.enumTypeRow
    dsimp only
    split
    · exact listed (by simp [phrases])
    · exact checked _ (.enumExpressionRow wf member)
    · exact .cons (base _) .nil
  · unfold Definition.setTypeRow
    dsimp only
    split
    · exact listed (by simp [phrases])
    · exact checked _ (.setExpressionRow wf member)
    · exact checked _ (.setExpressionRow wf member)
    · exact .cons (base _) .nil
  · split
    · rename_i counting
      split at counting
      · exact .cons (.word (.serial (Option.filter_eq_some_iff.mp counting).1)) .nil
      · cases counting
    · exact .cons (base _) .nil

theorem StatedRow.emulatedCheckRows (member : c ∈ b.columns) :
    ∀ row ∈ Definition.emulatedCheckRows d b.table c, StatedRow d b keyed row := by
  intro row inside
  rcases Definition.mem_emulatedCheckRows inside with rfl | rfl
  · exact .namedCheckRow wf member (.enumExpressionRow wf member)
  · exact .namedCheckRow wf member (.setExpressionRow wf member)

omit wf in
theorem StatedRow.defaultRow (member : c ∈ b.columns) {v : Value}
    (h : c.effectiveDefault = some v) : StatedRow d b keyed (Definition.defaultRow d c v) := by
  unfold Definition.defaultRow
  split
  · exact .cons (.default member h) .nil
  · split
    · rename_i array
      exact .append (.append (.cons (.array array.2 (by simp)) .nil) (.literalList _))
        (.cons (.array array.2 (by simp)) .nil)
    · exact .cons (.literal _) .nil
  · exact .cons (.word (.truth _)) .nil
  · exact .cons (.word (.int _)) .nil
  · exact .cons (.word (.float _)) .nil
  · exact .cons (.word (.decimal _)) .nil
  · exact .nil

omit wf in
theorem StatedRow.frontRows (member : c ∈ b.columns) :
    ∀ row ∈ Definition.frontRows d b c, StatedRow d b keyed row := by
  intro row inside
  rcases Definition.mem_frontRows inside with ⟨v, given, rfl⟩ | rfl | ⟨text, known, rfl⟩
  · exact .phrase (by simp [phrases]) (.defaultRow member given)
  · exact .cons (.word .counter) .nil
  · have all : ∀ text ∈ ["UNSIGNED", "NOT NULL", "NULL"], text ∈ phrases := by simp [phrases]
    exact .phrase (all text known) .nil

omit wf in
theorem StatedRow.commentRows (c : Column) :
    ∀ row ∈ Definition.commentRows d c, StatedRow d b keyed row := by
  intro row inside
  obtain ⟨text, rfl⟩ := Definition.mem_commentRows inside
  exact .phrase (by simp [phrases]) (.cons (.literal text) .nil)

theorem StatedRow.checkRows (member : c ∈ b.columns) :
    ∀ row ∈ Definition.checkRows d c, StatedRow d b keyed row := by
  intro row inside
  rcases Definition.mem_checkRows inside with rfl | ⟨expression, declared, rfl⟩
  · exact .phrase (by simp [phrases]) (.cons (stated_columnName wf member)
      (.phrase (by simp [phrases]) .nil))
  · exact .phrase (by simp [phrases]) (.cons (.check member declared)
      (.phrase (by simp [phrases]) .nil))

/-- A foreign key can be stated once its table is known. -/
theorem StatedRow.foreignKeyRow {k : ForeignKey} (h : k.WellFormed) {table : String}
    (finished : k.table = some table) : StatedRow d b keyed (Definition.foreignKeyRow b k) := by
  have named : Identifier.isName (k.name.getD
      (constraintName "fk" b.table (join "_" k.columns))).toList = true := by
    cases given : k.name with
    | none => exact isName_constraintName (by decide) wf.table (isTail_of_mem_join h.columns)
    | some text => exact h.name text given
  have action {keyword : String} (h : ∀ a : ForeignKeyAction, keyword ++ a.sql ∈ phrases)
      (action : Option ForeignKeyAction) :
      StatedRow d b keyed (action.map fun a => plain (keyword ++ a.sql)).toList := by
    cases action with
    | none => exact .nil
    | some a => exact .phrase (h a) .nil
  have deleted (a : ForeignKeyAction) : " ON DELETE " ++ a.sql ∈ phrases := by
    cases a <;> simp [phrases, ForeignKeyAction.sql]
  have updated (a : ForeignKeyAction) : " ON UPDATE " ++ a.sql ∈ phrases := by
    cases a <;> simp [phrases, ForeignKeyAction.sql]
  have target : Stated d b keyed (name (k.table.getD "")) := by
    rw [finished]
    exact .name (h.table table finished)
  refine .append (.append (.append (.append (.append (.append ?_ (.nameList h.columns)) ?_)
    (.nameList h.referenced)) ?_) (action deleted k.onDelete)) (action updated k.onUpdate)
  · exact .phrase (by simp [phrases]) (.cons (.name (Identifier.isQualified_of_isName named))
      (.phrase (by simp [phrases]) .nil))
  · exact .phrase (by simp [phrases]) (.cons target
      (.phrase (by simp [phrases]) .nil))
  · exact .phrase (by simp [phrases]) .nil

theorem StatedRow.headRow : StatedRow d b keyed (Ddl.headRow d b.table) := by
  have table : Stated d b keyed (name b.table) := .name wf.table
  unfold Ddl.headRow
  split
  · exact .phrase (by simp [phrases]) (.cons table .nil)
  · exact .phrase (by simp [phrases]) (.cons (.literal _) (.phrase (by simp [phrases])
      (.cons (.literal _) (.phrase (by simp [phrases]) (.cons table .nil)))))
  · exact .phrase (by simp [phrases]) (.cons table .nil)
  · exact .phrase (by simp [phrases]) (.cons table .nil)

omit wf in
theorem StatedRow.tableOptionsRow : StatedRow d b keyed (Ddl.tableOptionsRow d b.options) := by
  have option {keyword : String} {value : Option String} (h : keyword ∈ optionKeywords)
      (known : ∀ text, value = some text → text ∈ b.options.words) :
      ∀ row ∈ optionRow keyword value, StatedRow d b keyed row := by
    intro row inside
    obtain ⟨text, given, rfl⟩ := mem_optionRow inside
    exact .cons (.word (.option h (known text given))) .nil
  unfold Ddl.tableOptionsRow
  split
  · exact .nil
  · refine .phrase (by simp [phrases]) (.joined (by simp [phrases]) ?_)
    simp only [List.forall_mem_append]
    exact ⟨⟨option (by simp [optionKeywords]) fun _ given =>
        TableOptions.mem_words.mpr (Or.inl given),
      option (by simp [optionKeywords]) fun _ given =>
        TableOptions.mem_words.mpr (Or.inr (Or.inl given))⟩,
      option (by simp [optionKeywords]) fun _ given =>
        TableOptions.mem_words.mpr (Or.inr (Or.inr given))⟩

theorem StatedRow.indexRow {i : Index} (h : i.WellFormed) :
    StatedRow d b keyed (Ddl.indexRow d b.table i) := by
  have named := Identifier.isQualified_of_isName (h.isName_indexName wf.table)
  have head : Ddl.indexHead d i ∈ phrases := by
    unfold indexHead
    split <;> split <;> simp [phrases]
  refine .append (.append ?_ (.nameList h.columns)) (.phrase (by simp [phrases]) .nil)
  exact .phrase head (.cons (.name named) (.phrase (by simp [phrases]) (.cons (.name wf.table)
    (.phrase (by simp [phrases]) .nil))))

/-- A column is put together from known phrases and from what was given for it. -/
theorem StatedRow.columnRow (member : c ∈ b.columns) :
    StatedRow d b true (Definition.columnRow d b c) := by
  have front : ∀ row ∈ [[name c.name], Definition.typeRow d b.table c], StatedRow d b true row :=
    List.forall_mem_cons.mpr ⟨.cons (stated_columnName wf member) .nil,
      List.forall_mem_singleton.mpr (.typeRow wf member)⟩
  have key : ∀ row ∈ Definition.keyRows c, StatedRow d b true row := by
    intro row inside
    obtain rfl := Definition.mem_keyRows inside
    exact .cons (.key (by simp [keyPhrases]) rfl) .nil
  refine .joined (by simp [phrases]) ?_
  simp only [List.forall_mem_append]
  exact ⟨⟨⟨⟨front, .frontRows member⟩, key⟩, .commentRows c⟩, .checkRows wf member⟩

theorem StatedRow.keyRow {names : List String} (h : b.composite = some names) :
    StatedRow d b true (Ddl.keyRow names) :=
  .append (.append (.cons (.key (by simp [keyPhrases]) rfl) .nil)
    (.nameList (wf.composite names h).2)) (.phrase (by simp [phrases]) .nil)

theorem StatedRow.namedKeyRow {names : List String} (h : b.composite = some names) :
    StatedRow d b true (Ddl.namedKeyRow b.table names) := by
  have named : Identifier.isName (constraintName "pk" b.table "key").toList = true :=
    isName_constraintName (by decide) wf.table (List.all_eq_true.mp (by decide))
  refine .append ?_ (.keyRow wf h)
  exact .phrase (by simp [phrases]) (.cons (.name (Identifier.isQualified_of_isName named))
    (.phrase (by simp [phrases]) .nil))

theorem StatedRow.indexRows :
    ∀ row ∈ (indexesOf b).map (Ddl.indexRow d b.table), StatedRow d b keyed row := by
  intro row member
  obtain ⟨i, inside, rfl⟩ := List.mem_map.mp member
  exact .indexRow wf (wf.indexesOf i inside)

variable (finished : ∀ k ∈ b.foreignKeys, ∃ table, k.table = some table)

include finished

theorem StatedRow.constraintRows : ∀ row ∈ Ddl.constraintRows d b, StatedRow d b keyed row := by
  intro row inside
  rcases mem_constraintRows inside with ⟨c, member, check⟩ | ⟨k, member, rfl⟩
  · exact StatedRow.emulatedCheckRows wf member row check
  · obtain ⟨table, on⟩ := finished k member
    exact .foreignKeyRow wf (wf.foreignKeys k member) on

/-- Nothing else stands in the statements that create a table. -/
theorem stated_createRows : ∀ row ∈ createRows d b, StatedRow d b true row := by
  refine List.forall_mem_cons.mpr ⟨?_, StatedRow.indexRows wf⟩
  refine .append (.append (.append (.append (.headRow wf) (.phrase (by simp [phrases]) .nil))
    (.joined (by simp [phrases]) ?_)) (.phrase (by simp [phrases]) .nil)) .tableOptionsRow
  refine List.forall_mem_append.mpr ⟨List.forall_mem_append.mpr ⟨?_, ?_⟩,
    StatedRow.constraintRows wf finished⟩
  · intro row member
    obtain ⟨c, inside, rfl⟩ := List.mem_map.mp member
    exact .columnRow wf inside
  · intro row member
    obtain ⟨names, composite, rfl⟩ := Option.map_eq_some_iff.mp (Option.mem_toList.mp member)
    exact .keyRow wf composite

theorem stated_addRows : ∀ row ∈ addRows d b, StatedRow d b true row := by
  have alter {change : List Piece} (h : StatedRow d b true change) :
      StatedRow d b true (alterRow b.table change) :=
    .append (.phrase (by simp [phrases]) (.cons (.name wf.table)
      (.phrase (by simp [phrases]) .nil))) h
  refine List.forall_mem_append.mpr ⟨List.forall_mem_append.mpr ⟨?_, ?_⟩, StatedRow.indexRows wf⟩
  · intro row member
    obtain ⟨c, inside, rfl⟩ := List.mem_map.mp member
    exact alter (.append (.cons (.word .addition) (.phrase (by simp [phrases]) .nil))
      (.columnRow wf inside))
  · intro row member
    obtain ⟨constraint, inside, rfl⟩ := List.mem_map.mp member
    refine alter (.append (.phrase (by simp [phrases]) .nil) ?_)
    rcases List.mem_append.mp inside with key | other
    · obtain ⟨names, composite, rfl⟩ := Option.map_eq_some_iff.mp (Option.mem_toList.mp key)
      exact .namedKeyRow wf composite
    · exact StatedRow.constraintRows wf finished constraint other

end Definitions

end Ddl

end Sqlwright
