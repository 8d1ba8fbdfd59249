import Sqlwright.Proofs.Schema.Agreement
import Sqlwright.Proofs.Schema.Words

/-!
The statements of a table definition, read back. In the statements for a database known from the
start no name and no literal is left open, nothing but the last mark ends a statement, and the
literals that are read are the strings that were declared. Main statement:
`Blueprint.Reachable.statements_read`.
-/

namespace Sqlwright

open Piece Text

variable {d : Dialect} {b : Blueprint} {c : Column} {table : String}

namespace Piece

theorem apart_literalList (texts : List String) : Apart (literalList texts) := by
  refine .joined fun row member => ?_
  obtain ⟨text, -, rfl⟩ := List.mem_map.mp member
  exact .single _

theorem apart_nameList (names : List String) : Apart (nameList names) := by
  refine .joined fun row member => ?_
  obtain ⟨name, -, rfl⟩ := List.mem_map.mp member
  exact .single _

@[simp] theorem literals_nameList (names : List String) : literals (nameList names) = [] := by
  simp [nameList, List.flatMap_map]

end Piece

/-- Whether the caller put no SQL into a column: no check, and no raw default but the time of day. -/
def Column.isWithoutSql (c : Column) : Bool :=
  c.check.isNone &&
    match c.effectiveDefault with
    | some (.raw text) => text = "CURRENT_TIMESTAMP"
    | _ => true

/-- SQL of the caller gets into a column by a check or by a raw default only. -/
theorem Column.isWithoutSql_iff :
    c.isWithoutSql = true ↔ c.check = none ∧
      ∀ text, c.effectiveDefault = some (.raw text) → text = "CURRENT_TIMESTAMP" := by
  unfold isWithoutSql
  rw [Bool.and_eq_true, Option.isNone_iff_eq_none]
  refine and_congr_right fun _ => ?_
  split
  · rename_i text given
    simp [given]
  · rename_i other
    exact iff_of_true rfl fun text given => (other text given).elim

namespace Definition

/-- The literals in the type of a column: the values of an enumeration or a set that are kept where
the type stands. -/
def typeLiterals (d : Dialect) (c : Column) : List String :=
  match c.type with
  | some .enum =>
    match d.enumStyle with
    | .native | .inlineCheck => c.values
    | _ => []
  | some .set =>
    match d.setStyle with
    | .native | .array | .orEquals => c.values
    | _ => []
  | _ => []

/-- The literals of a default: the text, or its parts between the commas where sets are arrays. -/
def defaultLiterals (d : Dialect) (c : Column) : List String :=
  match c.effectiveDefault with
  | some (.text s) => if c.type = some .set ∧ d.setStyle = .array then splitOn ',' s else [s]
  | _ => []

def commentLiterals (d : Dialect) (c : Column) : List String :=
  if d.can .columnComments then (Column.commentText c).toList else []

def columnLiterals (d : Dialect) (c : Column) : List String :=
  typeLiterals d c ++ defaultLiterals d c ++ commentLiterals d c

/-- The literals of each check that stands behind the columns: the values of an enumeration, or what
a set is compared with. -/
def checkLiterals (d : Dialect) (c : Column) : List (List String) :=
  match c.type with
  | some .enum => if d.enumStyle = .namedConstraint then [c.values] else []
  | some .set =>
    match d.setStyle with
    | .like => [c.values.map fun v => "%" ++ v ++ "%"]
    | .regexp => [[setPattern c]]
    | .containing => [c.values]
    | _ => []
  | _ => []

theorem apart_namedCheckRow {expression : List Piece} (h : Apart expression) :
    Apart (namedCheckRow table c expression) := .append (.plain (.before h)) .nil

theorem apart_enumExpressionRow (c : Column) : Apart (enumExpressionRow c) :=
  .append (.before (apart_literalList c.values)) .nil

theorem apart_setExpressionRow (d : Dialect) (c : Column) : Apart (setExpressionRow d c) := by
  have each (keyword : String) (pattern : String → String) :
      Apart (joined " OR " (c.values.map fun v =>
        [name c.name, plain keyword, literal (pattern v)])) := by
    refine .joined fun row member => ?_
    obtain ⟨v, -, rfl⟩ := List.mem_map.mp member
    exact .before (.single _)
  unfold setExpressionRow
  split
  · exact .append (.before (apart_literalList c.values)) .nil
  · exact each " = " id
  · exact each " LIKE " _
  · exact .plain (.before (.before .nil))
  · exact each " CONTAINING " id
  · exact .nil
  · exact .nil

theorem apart_typeRow (d : Dialect) (table : String) (c : Column) : Apart (typeRow d table c) := by
  have listed {keyword : String} :
      Apart ([plain keyword] ++ literalList c.values ++ [plain ")"]) :=
    .append (.plain (apart_literalList c.values)) .nil
  have checked {base : String} {row : List Piece} (h : Apart row) :
      Apart ([word base, plain " "] ++ namedCheckRow table c row) :=
    .word (.plain (apart_namedCheckRow h))
  unfold typeRow
  split
  · exact .nil
  · unfold enumTypeRow
    dsimp only
    split
    · exact listed
    · exact checked (apart_enumExpressionRow c)
    · exact .single _
  · unfold setTypeRow
    dsimp only
    split
    · exact listed
    · exact checked (apart_setExpressionRow d c)
    · exact checked (apart_setExpressionRow d c)
    · exact .single _
  · split <;> exact .single _

theorem apart_emulatedCheckRows (d : Dialect) (table : String) (c : Column) :
    ∀ row ∈ emulatedCheckRows d table c, Apart row := by
  intro row inside
  rcases mem_emulatedCheckRows inside with rfl | rfl
  · exact apart_namedCheckRow (apart_enumExpressionRow c)
  · exact apart_namedCheckRow (apart_setExpressionRow d c)

theorem apart_defaultRow (d : Dialect) (c : Column) (v : Value) : Apart (defaultRow d c v) := by
  cases v with
  | text s =>
    unfold defaultRow
    dsimp only
    split
    · exact .append (.plain (apart_literalList _)) .nil
    · exact .single _
  | raw | bool | int | float | decimal => exact .single _
  | _ => exact .nil

theorem apart_columnRow (d : Dialect) (b : Blueprint) (c : Column) : Apart (columnRow d b c) := by
  have front : ∀ row ∈ [[name c.name], typeRow d b.table c], Apart row :=
    List.forall_mem_cons.mpr ⟨.single _, List.forall_mem_singleton.mpr (apart_typeRow d b.table c)⟩
  have words : ∀ row ∈ frontRows d b c, Apart row := by
    intro row inside
    rcases mem_frontRows inside with ⟨v, -, rfl⟩ | rfl | ⟨text, -, rfl⟩
    · exact (apart_defaultRow d c v).plain
    · exact .single _
    · exact .single _
  have key : ∀ row ∈ keyRows c, Apart row := fun row inside => mem_keyRows inside ▸ .single _
  have comment : ∀ row ∈ commentRows d c, Apart row := by
    intro row inside
    obtain ⟨text, rfl⟩ := mem_commentRows inside
    exact .plain (.single _)
  have checks : ∀ row ∈ checkRows d c, Apart row := by
    intro row inside
    rcases mem_checkRows inside with rfl | ⟨expression, -, rfl⟩
    · exact .plain (.before .nil)
    · exact .plain (.before .nil)
  refine .joined ?_
  simp only [List.forall_mem_append]
  exact ⟨⟨⟨⟨front, words⟩, key⟩, comment⟩, checks⟩

theorem apart_foreignKeyRow (b : Blueprint) (k : ForeignKey) : Apart (foreignKeyRow b k) := by
  have action (keyword : String) (action : Option ForeignKeyAction) {row : List Piece}
      (h : Apart row) : Apart (row ++ (action.map fun a => plain (keyword ++ a.sql)).toList) := by
    cases action with
    | none => exact (List.append_nil row).symm ▸ h
    | some a => exact h.append .nil
  refine action " ON UPDATE " _ (action " ON DELETE " _ (.append ?_ .nil))
  rw [List.append_assoc, List.append_assoc]
  refine .plain (.before ?_)
  exact .append (apart_nameList k.columns) (.before (apart_nameList k.referenced))

section Literals

theorem literals_namedCheckRow (table : String) (c : Column) (expression : List Piece) :
    literals (namedCheckRow table c expression) = literals expression := by
  simp [namedCheckRow]

theorem literals_enumExpressionRow (c : Column) : literals (enumExpressionRow c) = c.values := by
  simp [enumExpressionRow]

theorem literals_typeRow (d : Dialect) (table : String) (c : Column) :
    literals (typeRow d table c) = typeLiterals d c := by
  unfold typeRow
  split <;> rename_i type
  · rw [typeLiterals, type]
    rfl
  · rw [typeLiterals, type]
    unfold enumTypeRow
    cases d.enumStyle <;> simp [literals_namedCheckRow, literals_enumExpressionRow]
  · rw [typeLiterals, type]
    unfold setTypeRow
    cases style : d.setStyle <;>
      simp [literals_namedCheckRow, setExpressionRow, style, List.flatMap_map]
  · rename_i other notEnum notSet
    have none : typeLiterals d c = [] := by
      unfold typeLiterals
      split <;> simp_all
    rw [none]
    split <;> rfl

theorem literals_emulatedCheckRows (d : Dialect) (table : String) (c : Column) :
    (emulatedCheckRows d table c).map literals = checkLiterals d c := by
  unfold emulatedCheckRows
  split <;> rename_i type
  · rw [checkLiterals, type]
    dsimp only
    split <;> simp [literals_namedCheckRow, literals_enumExpressionRow]
  · rw [checkLiterals, type]
    cases style : d.setStyle <;>
      simp [literals_namedCheckRow, setExpressionRow, style, List.flatMap_map,
        ← List.map_eq_flatMap]
  · simp [checkLiterals]

theorem literals_frontRows (d : Dialect) (b : Blueprint) (c : Column) :
    (frontRows d b c).flatMap literals = defaultLiterals d c := by
  have unsigned : (if c.unsigned && d.can .unsigned then [[plain "UNSIGNED"]] else []).flatMap
      literals = [] := by
    split <;> rfl
  have null : (if !c.nullable b.composite then [[plain "NOT NULL"]]
      else if d.can .explicitNull then [[plain "NULL"]] else []).flatMap literals = [] := by
    split
    · rfl
    · split <;> rfl
  have counting : (if c.auto && !d.autoIncrement.isEmpty then [[word d.autoIncrement]]
      else []).flatMap literals = [] := by
    split <;> rfl
  unfold frontRows defaultLiterals
  rw [List.flatMap_append, List.flatMap_append, List.flatMap_append, unsigned, null, counting]
  cases c.effectiveDefault with
  | none => rfl
  | some v =>
    cases v with
    | text s =>
      dsimp only [defaultRow]
      split <;> simp
    | _ => rfl

theorem literals_columnRow (d : Dialect) (b : Blueprint) (c : Column) :
    literals (columnRow d b c) = columnLiterals d c := by
  have key : (keyRows c).flatMap literals = [] := by
    unfold keyRows
    split <;> rfl
  have comment : (commentRows d c).flatMap literals = commentLiterals d c := by
    unfold commentRows commentLiterals
    cases Column.commentText c <;> cases d.can .columnComments <;> rfl
  have checks : (checkRows d c).flatMap literals = [] := by
    unfold checkRows
    rw [List.flatMap_append, List.append_eq_nil_iff]
    constructor
    · split <;> rfl
    · split
      · split <;> rfl
      · rfl
  rw [columnRow, literals_joined]
  simp [literals_frontRows, key, comment, checks, literals_typeRow, columnLiterals]

theorem literals_foreignKeyRow (b : Blueprint) (k : ForeignKey) :
    literals (foreignKeyRow b k) = [] := by
  unfold foreignKeyRow
  cases k.onDelete <;> cases k.onUpdate <;> simp

end Literals

end Definition

namespace Ddl

def guardLiterals (d : Dialect) (table : String) : List String :=
  match d.createGuard with
  | .sysobjects => [bareName table, "U"]
  | _ => []

/-- The literals of each statement that creates a table. Those of indexes have none. -/
def createLiterals (d : Dialect) (b : Blueprint) : List (List String) :=
  (guardLiterals d b.table ++ b.columns.flatMap (Definition.columnLiterals d) ++
      (b.columns.flatMap (Definition.checkLiterals d)).flatten) ::
    (indexesOf b).map fun _ => []

/-- The literals of each statement that adds to a table. Those of keys and indexes have none. -/
def addLiterals (d : Dialect) (b : Blueprint) : List (List String) :=
  b.columns.map (Definition.columnLiterals d) ++ b.composite.toList.map (fun _ => []) ++
    b.columns.flatMap (Definition.checkLiterals d) ++ b.foreignKeys.map (fun _ => []) ++
    (indexesOf b).map fun _ => []

theorem apart_headRow (d : Dialect) (table : String) {rest : List Piece} (h : Apart rest) :
    Apart (headRow d table ++ plain " (" :: rest) := by
  unfold headRow
  split
  · exact .plain (.before h)
  · exact .plain (.before (.before (.before h)))
  · exact .plain (.before h)
  · exact .plain (.before h)

theorem apart_tableOptionsRow (d : Dialect) (o : TableOptions) :
    Apart (tableOptionsRow d o) := by
  have option (keyword : String) (value : Option String) :
      ∀ row ∈ optionRow keyword value, Apart row := by
    intro row inside
    obtain ⟨text, -, rfl⟩ := mem_optionRow inside
    exact .single _
  unfold tableOptionsRow
  split
  · exact .nil
  · refine .plain (.joined ?_)
    simp only [List.forall_mem_append]
    exact ⟨⟨option _ _, option _ _⟩, option _ _⟩

theorem apart_indexRow (d : Dialect) (table : String) (i : Index) : Apart (indexRow d table i) :=
  .append (.plain (.before (.before (apart_nameList i.columns)))) .nil

theorem apart_keyRow (names : List String) : Apart (keyRow names) :=
  .append (.plain (apart_nameList names)) .nil

theorem apart_namedKeyRow (table : String) (names : List String) :
    Apart (namedKeyRow table names) := .plain (.before (apart_keyRow names))

theorem apart_constraintRows (d : Dialect) (b : Blueprint) :
    ∀ row ∈ constraintRows d b, Apart row := by
  intro row inside
  rcases mem_constraintRows inside with ⟨c, -, check⟩ | ⟨k, -, rfl⟩
  · exact Definition.apart_emulatedCheckRows d b.table c row check
  · exact Definition.apart_foreignKeyRow b k

theorem apart_indexRows (d : Dialect) (b : Blueprint) :
    ∀ row ∈ (indexesOf b).map (indexRow d b.table), Apart row := by
  intro row member
  obtain ⟨i, -, rfl⟩ := List.mem_map.mp member
  exact apart_indexRow d b.table i

theorem apart_createRows (d : Dialect) (b : Blueprint) : ∀ row ∈ createRows d b, Apart row := by
  refine List.forall_mem_cons.mpr ⟨?_, apart_indexRows d b⟩
  rw [List.append_assoc, List.append_assoc, List.append_assoc]
  refine apart_headRow d b.table (.append ?_ (apart_tableOptionsRow d b.options))
  refine .joined (List.forall_mem_append.mpr ⟨List.forall_mem_append.mpr ⟨?_, ?_⟩,
    apart_constraintRows d b⟩)
  · intro row member
    obtain ⟨c, -, rfl⟩ := List.mem_map.mp member
    exact Definition.apart_columnRow d b c
  · intro row member
    obtain ⟨names, -, rfl⟩ := Option.map_eq_some_iff.mp (Option.mem_toList.mp member)
    exact apart_keyRow names

theorem apart_addRows (d : Dialect) (b : Blueprint) : ∀ row ∈ addRows d b, Apart row := by
  have alter {change : List Piece} (h : Apart change) : Apart (alterRow b.table change) :=
    .plain (.before h)
  refine List.forall_mem_append.mpr ⟨List.forall_mem_append.mpr ⟨?_, ?_⟩, apart_indexRows d b⟩
  · intro row member
    obtain ⟨c, -, rfl⟩ := List.mem_map.mp member
    exact alter (.word (.plain (Definition.apart_columnRow d b c)))
  · intro row member
    obtain ⟨constraint, inside, rfl⟩ := List.mem_map.mp member
    refine alter (.plain ?_)
    rcases List.mem_append.mp inside with key | other
    · obtain ⟨names, -, rfl⟩ := Option.map_eq_some_iff.mp (Option.mem_toList.mp key)
      exact apart_namedKeyRow b.table names
    · exact apart_constraintRows d b constraint other

theorem literals_headRow (d : Dialect) (table : String) :
    literals (headRow d table) = guardLiterals d table := by
  unfold headRow guardLiterals
  cases d.createGuard <;> rfl

theorem literals_tableOptionsRow (d : Dialect) (o : TableOptions) :
    literals (tableOptionsRow d o) = [] := by
  have option (keyword : String) (value : Option String) :
      (optionRow keyword value).flatMap literals = [] := by
    unfold optionRow
    split
    · split <;> rfl
    · rfl
  unfold tableOptionsRow
  split
  · rfl
  · simp [option]

theorem literals_constraintRows (d : Dialect) (b : Blueprint) :
    (constraintRows d b).map literals =
      b.columns.flatMap (Definition.checkLiterals d) ++ b.foreignKeys.map fun _ => [] := by
  simp [constraintRows, List.map_flatMap, Definition.literals_emulatedCheckRows, Function.comp_def,
    Definition.literals_foreignKeyRow]

theorem literals_indexRows (d : Dialect) (b : Blueprint) :
    ((indexesOf b).map (indexRow d b.table)).map literals = (indexesOf b).map fun _ => [] := by
  rw [List.map_map]
  refine List.map_congr_left fun i _ => ?_
  simp [indexRow]

theorem literals_createRows (d : Dialect) (b : Blueprint) :
    (createRows d b).map literals = createLiterals d b := by
  have key : (b.composite.map keyRow).toList.flatMap literals = [] := by
    cases b.composite <;> simp [keyRow]
  have constraints : (constraintRows d b).flatMap literals =
      (b.columns.flatMap (Definition.checkLiterals d)).flatten := by
    rw [List.flatMap_def, literals_constraintRows]
    simp
  rw [createRows, List.map_cons, literals_indexRows]
  simp [createLiterals, literals_headRow, literals_tableOptionsRow, key, constraints,
    List.flatMap_map, Definition.literals_columnRow]

theorem literals_addRows (d : Dialect) (b : Blueprint) :
    (addRows d b).map literals = addLiterals d b := by
  have key : (b.composite.map (namedKeyRow b.table)).toList.map literals =
      b.composite.toList.map fun _ => [] := by
    cases b.composite <;> simp [namedKeyRow, keyRow]
  have alter (row : List Piece) : literals (alterRow b.table row) = literals row := by
    simp [alterRow]
  have added : ((b.composite.map (namedKeyRow b.table)).toList ++ constraintRows d b).map
      (literals ∘ fun row => alterRow b.table ([plain "ADD "] ++ row)) =
      b.composite.toList.map (fun _ => []) ++ b.columns.flatMap (Definition.checkLiterals d) ++
        b.foreignKeys.map fun _ => [] := by
    have same : (literals ∘ fun row => alterRow b.table ([plain "ADD "] ++ row)) = literals := by
      funext row
      simp [alter]
    rw [same, List.map_append, key, literals_constraintRows, List.append_assoc]
  have columns : b.columns.map (literals ∘ fun c =>
      alterRow b.table ([word d.addColumn, plain " "] ++ Definition.columnRow d b c)) =
      b.columns.map (Definition.columnLiterals d) :=
    List.map_congr_left fun c _ => by simp [alter, Definition.literals_columnRow]
  rw [addRows, List.map_append, literals_indexRows, List.map_append, List.map_map, List.map_map,
    columns, added]
  simp only [addLiterals, List.append_assoc]

section Known

variable (known : d ∈ Dialect.builtIn) (wf : b.WellFormed)
  (plain : ∀ c ∈ b.columns, c.isWithoutSql = true)

include known wf plain

/-- Where no SQL comes from the caller but the time of day, everything in a statement is read back.
-/
theorem Stated.isOrdinary {keyed : Bool} {piece : Piece} (h : Stated d b keyed piece) :
    piece.IsOrdinary d := by
  cases h with
  | key listed allowed =>
    have all : ∀ text ∈ keyPhrases, text ≠ "" ∧
        text.toList.all (· ∉ Dialect.reserved) = true := by decide
    obtain ⟨present, ordinary⟩ := all _ listed
    exact ⟨present, Dialect.isOrdinary_of_all known ordinary⟩
  | phrase listed =>
    have all : ∀ text ∈ phrases, text ≠ "" ∧
        text.toList.all (· ∉ Dialect.reserved) = true := by decide +kernel
    obtain ⟨present, ordinary⟩ := all _ listed
    exact ⟨present, Dialect.isOrdinary_of_all known ordinary⟩
  | array style listed =>
    have all : ∀ d ∈ Dialect.builtIn, d.setStyle = .array →
        ∀ text ∈ [" <@ ARRAY[", "ARRAY[", "]"], text ≠ "" ∧
          text.toList.all (d.IsOrdinary ·) = true := by
      decide +kernel
    obtain ⟨present, ordinary⟩ := all d known style _ (by simpa using listed)
    exact ⟨present, fun c member => of_decide_eq_true (List.all_eq_true.mp ordinary c member)⟩
  | word spells => exact spells.isOrdinary known wf
  | name valid => exact valid
  | literal text => trivial
  | check member declared =>
    rw [(Column.isWithoutSql_iff.mp (plain _ member)).1] at declared
    cases declared
  | default member given =>
    obtain rfl := (Column.isWithoutSql_iff.mp (plain _ member)).2 _ given
    exact Dialect.isOrdinary_of_all known (by decide)

/-- Every statement is read with the literals of its pieces, in order. -/
theorem reads_statements {rows : List (List Piece)} (stated : ∀ row ∈ rows, StatedRow d b true row)
    (apart : ∀ row ∈ rows, Apart row) :
    List.Forall₂ d.Reads (rows.map (statement d)) (rows.map literals) := by
  obtain ⟨opening, closing, quotes⟩ := Dialect.apart_of_mem_builtIn known
  rw [List.forall₂_map_left_iff, List.forall₂_map_right_iff, List.forall₂_same]
  exact fun row member => Piece.reads_render quotes
    (fun piece inside => (stated row member piece inside).isOrdinary known wf plain)
    (apart row member)

end Known

end Ddl

namespace Blueprint

open Ddl

/-- The statements of a reachable definition, written for a database known from the start, are read
back: no name and no literal is left open, nothing but the last mark ends a statement, and the
literals are the declared strings, whatever characters they hold. The caller's own SQL is left out
but for the time of day. -/
theorem Reachable.statements_read (h : b.Reachable) (known : d ∈ Dialect.builtIn)
    (plain : ∀ c ∈ b.columns, c.isWithoutSql = true) (texts : List String) :
    ((b.compileCreate d).1 = .ok texts → List.Forall₂ d.Reads texts (createLiterals d b)) ∧
      ((b.compileAdd d).1 = .ok texts → List.Forall₂ d.Reads texts (addLiterals d b)) := by
  have wf := h.wellFormed
  constructor
  · intro created
    obtain ⟨rfl, finished⟩ := create_eq_rows (lockOn_eq_ok.mp created).1
    rw [← literals_createRows]
    exact reads_statements known wf plain (stated_createRows wf finished) (apart_createRows d b)
  · intro added
    obtain ⟨rfl, finished⟩ := add_eq_rows (lockOn_eq_ok.mp added).1
    rw [← literals_addRows]
    exact reads_statements known wf plain (stated_addRows wf finished) (apart_addRows d b)

def hostile : Blueprint :=
  Blueprint.run { table := "notes" }
    [.call (.column (.text "kind")),
      .call (.onColumn "kind" (.enum [.text "it's", .text "back\\", .text "a;b?\n'--"])),
      .call (.onColumn "kind" (.default (.text "back\\"))),
      .call (.onColumn "kind" (.comment (some "'); DROP TABLE notes; --\\"))),
      .call (.column (.text "seen")), .call (.onColumn "seen" (.typed .timestamp .null)),
      .call (.onColumn "seen" .useCurrent)]

theorem Reachable.statements_read_hostile :
    hostile.Reachable ∧ Dialect.mysql ∈ Dialect.builtIn ∧
      (∀ c ∈ hostile.columns, c.isWithoutSql = true) ∧
      ∃ text, (hostile.compileCreate Dialect.mysql).1 = .ok [text] ∧
        Dialect.mysql.Reads text ["it's", "back\\", "a;b?\n'--", "back\\",
          "'); DROP TABLE notes; --\\"] := by
  have reachable : hostile.Reachable :=
    (Reachable.start (show Blueprint.start (.text "notes") "deleted_at" = _ from rfl)).run _
  have known : Dialect.mysql ∈ Dialect.builtIn := List.mem_cons_self
  have plain : ∀ c ∈ hostile.columns, c.isWithoutSql = true :=
    List.all_eq_true.mp (by decide +kernel)
  obtain ⟨texts, answered⟩ : ∃ texts, (hostile.compileCreate Dialect.mysql).1 = .ok texts :=
    exists_of_isOk (by decide +kernel)
  have read := (Reachable.statements_read reachable known plain texts).1 answered
  have literals : createLiterals Dialect.mysql hostile = [["it's", "back\\", "a;b?\n'--", "back\\",
      "'); DROP TABLE notes; --\\"]] := by decide +kernel
  rw [literals] at read
  cases read with
  | cons first rest =>
    cases rest
    exact ⟨reachable, known, plain, _, answered, first⟩

end Blueprint

end Sqlwright
