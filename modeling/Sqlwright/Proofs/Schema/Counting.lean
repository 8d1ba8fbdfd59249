import Sqlwright.Dialect.BuiltIn
import Sqlwright.Proofs.Dialect.Piece
import Sqlwright.Proofs.Schema.WellFormed

/-!
Columns of whole numbers that count by themselves. Where a database has a word for it, the word
stands before PRIMARY KEY; otherwise the text of the type is what counts, and has to be just that
(`Dialect.Counts`). A size is written behind SQLite's type, and there alone it matters. Main
statement: `Blueprint.Reachable.counts_iff`.
-/

namespace Sqlwright

open Text

namespace Dialect

/-- PostgreSQL's counting types beside the plain types of the same width. -/
def serialNames : List (String × String) :=
  [("SMALLINT", "SMALLSERIAL"), ("INTEGER", "SERIAL"), ("BIGINT", "BIGSERIAL")]

/-- What makes a column count, by the database: the word before PRIMARY KEY, or the text of the
type. -/
structure Counts (d : Dialect) (type : ColumnType) (typeText : String) (word : Option String) :
    Prop where
  mysql : d.name = "mysql" → word = some "AUTO_INCREMENT"
  sqlServer : d.name = "sqlsrv" → word = some "IDENTITY(1,1)"
  oracle : d.name = "oci" → word = some "GENERATED BY DEFAULT AS IDENTITY"
  firebird : d.name = "firebird" → word = some "GENERATED BY DEFAULT AS IDENTITY"
  pgsql : d.name = "pgsql" → ((d.types type).name, typeText) ∈ serialNames
  sqlite : d.name = "sqlite" → typeText = "INTEGER"

/-- The type of a column that counts, with the size that was declared for it. -/
def countingType (d : Dialect) (type : ColumnType) (size : Option Size) : String :=
  ((d.serialTypes type).filter (!·.isEmpty)).getD ((d.types type).render size)

def countingWord (d : Dialect) : Option String :=
  if d.autoIncrement.isEmpty then none else some d.autoIncrement

end Dialect

namespace TypeName

variable {type : TypeName}

theorem render_some (plain : '(' ∉ type.name.toList) (size : Size) :
    type.render (some size) = type.name ++ "(" ++ size.render ++ ")" := by
  have closed : type.name.toList.contains '(' = false := by simpa using plain
  rw [render, Option.some_or]
  dsimp only
  rw [closed, if_neg Bool.false_ne_true]

/-- A size that is written makes the text of a type another one. -/
theorem render_some_ne (plain : '(' ∉ type.name.toList) (size : Size) :
    type.render (some size) ≠ type.name := by
  intro same
  rw [render_some plain] at same
  have longer := congrArg String.length same
  have bracket : "(".length = 1 := rfl
  simp only [String.length_append, bracket] at longer
  omega

end TypeName

namespace Dialect

variable {d e : Dialect} {type : ColumnType}

/-- The databases known from the start have different names. -/
theorem eq_of_name (known : d ∈ builtIn) (other : e ∈ builtIn) (same : d.name = e.name) : d = e :=
  List.inj_on_of_nodup_map (f := name) (by decide) known other same

/-- On every database but SQLite a column counts whatever its size is. -/
theorem counts_of_ne (known : d ∈ builtIn) (integer : type.isInteger = true)
    (other : d.name ≠ "sqlite") (size : Option Size) :
    d.Counts type (d.countingType type size) d.countingWord where
  mysql named := by
    obtain rfl := eq_of_name (e := mysql) known (by simp [builtIn]) named
    rfl
  sqlServer named := by
    obtain rfl := eq_of_name (e := sqlServer) known (by simp [builtIn]) named
    rfl
  oracle named := by
    obtain rfl := eq_of_name (e := oracle) known (by simp [builtIn]) named
    rfl
  firebird named := by
    obtain rfl := eq_of_name (e := firebird) known (by simp [builtIn]) named
    rfl
  pgsql named := by
    obtain rfl := eq_of_name (e := pgsql) known (by simp [builtIn]) named
    cases type with
    | int | mediumint => exact .tail _ (.head _)
    | tinyint | smallint => exact .head _
    | bigint => exact .tail _ (.tail _ (.head _))
    | _ => cases integer
  sqlite named := absurd named other

/-- On SQLite the type alone decides, since a key of that type counts by itself. -/
theorem counts_sqlite_iff {typeText : String} {word : Option String} :
    sqlite.Counts type typeText word ↔ typeText = "INTEGER" := by
  refine ⟨fun counts => counts.sqlite rfl, fun text => ?_⟩
  constructor <;> simp [sqlite, text]

/-- A column that counts is an INTEGER, with the size that it was given. -/
theorem countingType_sqlite (integer : type.isInteger = true) (size : Option Size) :
    sqlite.countingType type size = TypeName.render ⟨"INTEGER", none⟩ size := by
  cases type with
  | int | tinyint | smallint | mediumint | bigint => rfl
  | _ => cases integer

/-- On SQLite a column counts exactly if it has no size. -/
theorem counts_countingType_iff (known : d ∈ builtIn) (integer : type.isInteger = true)
    (size : Option Size) :
    d.Counts type (d.countingType type size) d.countingWord ↔
      (d.name = "sqlite" → size = none) := by
  by_cases named : d.name = "sqlite"
  · obtain rfl := eq_of_name (e := sqlite) known (by simp [builtIn]) named
    rw [counts_sqlite_iff, countingType_sqlite integer]
    cases size with
    | none => exact iff_of_true rfl fun _ => rfl
    | some size =>
      have plain : '(' ∉ "INTEGER".toList := by decide
      exact iff_of_false (TypeName.render_some_ne plain size) fun unsized => nomatch unsized rfl
  · exact iff_of_true (counts_of_ne known integer named size) fun h => absurd h named

end Dialect

namespace Column

variable {c : Column}

theorem effectiveDefault_of_auto (auto : c.auto = true) : c.effectiveDefault = none := by
  rw [effectiveDefault, auto, Bool.true_or, Bool.true_or, if_pos rfl]

theorem isKey_of_auto (auto : c.auto = true) : c.isKey = true := by
  rw [isKey, auto, Bool.or_true]

theorem nullable_of_auto (auto : c.auto = true) (composite : Option (List String)) :
    c.nullable composite = false := by
  simp [nullable, isKey_of_auto auto]

end Column

namespace Definition

variable {d : Dialect} {b : Blueprint} {c : Column} {type : ColumnType}

theorem columnType_of_auto (auto : c.auto = true) (typed : c.type = some type)
    (integer : type.isInteger = true) :
    columnType d b.table c = .ok (d.countingType type c.size) := by
  unfold columnType Dialect.countingType
  rw [typed, auto]
  cases type with
  | int | tinyint | smallint | mediumint | bigint =>
    dsimp only
    rw [if_pos rfl]
    cases (d.serialTypes _).filter (!·.isEmpty) <;> rfl
  | _ => cases integer

/-- The words of a column that counts: there is no default and no NULL. -/
theorem columnWords_of_auto (auto : c.auto = true) :
    ∃ behind, columnWords d b c none =
      (if c.unsigned && d.can .unsigned then ["UNSIGNED"] else []) ++ ["NOT NULL"] ++
        d.countingWord.toList ++ ["PRIMARY KEY"] ++ behind := by
  have word : (if c.auto && !d.autoIncrement.isEmpty then [d.autoIncrement] else []) =
      d.countingWord.toList := by
    rw [auto, Dialect.countingWord, Bool.true_and]
    cases d.autoIncrement.isEmpty <;> rfl
  rw [columnWords, word, Column.isKey_of_auto auto, Column.nullable_of_auto auto, List.append_nil,
    Bool.not_false, if_pos rfl, if_pos rfl]
  exact ⟨_, rfl⟩

/-- The text of a column that counts. -/
theorem column_of_auto (valid : Identifier.isName c.name.toList = true) (auto : c.auto = true)
    (typed : c.type = some type) (integer : type.isInteger = true) :
    ∃ behind, column d b c = .ok (join " " ([d.spell c.name, d.countingType type c.size] ++
      (if c.unsigned && d.can .unsigned then ["UNSIGNED"] else []) ++ ["NOT NULL"] ++
        d.countingWord.toList ++ ["PRIMARY KEY"] ++ behind)) := by
  obtain ⟨quoted, named⟩ := exists_quoteName (d := d) valid
  obtain ⟨behind, words⟩ := columnWords_of_auto (d := d) (b := b) auto
  have spelled := (Dialect.quoteIdentifier_eq_ok.mp named).2
  have unset : defaultLiteral d c = .ok none := by
    rw [defaultLiteral, Column.effectiveDefault_of_auto auto]
  refine ⟨behind ++ (columnChecks d c quoted).map fun expression => "CHECK (" ++ expression ++ ")",
    ?_⟩
  rw [column, named, columnType_of_auto auto typed integer, unset]
  dsimp only [bind, Except.bind, pure, Except.pure]
  rw [words, spelled]
  simp only [List.append_assoc]

end Definition

namespace Blueprint

variable {d : Dialect} {b : Blueprint} {c : Column} {type : ColumnType}

/-- The definition of a column of whole numbers that counts is never refused: it is NOT NULL and the
PRIMARY KEY, without a default. Its text makes it count on every database, but for SQLite where a
size has been declared: the size stands behind the type there, which is another type then. -/
theorem Reachable.counts_iff (h : b.Reachable) (member : c ∈ b.columns) (auto : c.auto = true)
    (typed : c.type = some type) (integer : type.isInteger = true) (known : d ∈ Dialect.builtIn) :
    ∃ typeText word behind,
      Definition.columnType d b.table c = .ok typeText ∧
      Definition.column d b c = .ok (join " " ([d.spell c.name, typeText] ++
        (if c.unsigned && d.can .unsigned then ["UNSIGNED"] else []) ++ ["NOT NULL"] ++
          word.toList ++ ["PRIMARY KEY"] ++ behind)) ∧
      (d.Counts type typeText word ↔ (d.name = "sqlite" → c.size = none)) ∧
      ∀ size, d.name = "sqlite" → c.size = some size →
        typeText = "INTEGER(" ++ size.render ++ ")" := by
  obtain ⟨behind, text⟩ := Definition.column_of_auto (d := d) (b := b)
    (h.wellFormed.names c member) auto typed integer
  refine ⟨_, _, behind, Definition.columnType_of_auto auto typed integer, text,
    Dialect.counts_countingType_iff known integer c.size, fun size named sized => ?_⟩
  obtain rfl := Dialect.eq_of_name (e := Dialect.sqlite) known (by simp [Dialect.builtIn]) named
  rw [Dialect.countingType_sqlite integer, sized, TypeName.render_some (by decide)]
  rfl

def guestKey : Column where
  name := "id"
  type := some .int
  size := some (.count 11)
  auto := true
  primary := true

def guests : Blueprint :=
  Blueprint.run { table := "guests" }
    [.call (.column (.text "id")), .call (.onColumn "id" (.typed .int (.int 11))),
      .call (.onColumn "id" .auto)]

theorem reachable_guests : guests.Reachable :=
  (Reachable.start (show Blueprint.start (.text "guests") "deleted_at" = _ from rfl)).run _

theorem Reachable.counts_iff_guests :
    guests.Reachable ∧ guestKey ∈ guests.columns ∧ Dialect.pgsql ∈ Dialect.builtIn ∧
      ∃ typeText word behind,
        Definition.columnType Dialect.pgsql "guests" guestKey = .ok typeText ∧
        Definition.column Dialect.pgsql guests guestKey = .ok (join " "
          (["\"id\"", typeText, "NOT NULL"] ++ word.toList ++ ["PRIMARY KEY"] ++ behind)) ∧
        Dialect.pgsql.Counts .int typeText word := by
  have member : guestKey ∈ guests.columns := List.mem_singleton.mpr rfl
  have known : Dialect.pgsql ∈ Dialect.builtIn := by simp [Dialect.builtIn]
  have typed : guestKey.type = some .int := rfl
  obtain ⟨typeText, word, behind, type, text, counts, -⟩ :=
    Reachable.counts_iff reachable_guests member rfl typed rfl known
  exact ⟨reachable_guests, member, known, typeText, word, behind, type, text,
    counts.mpr fun named => absurd named (by decide)⟩

/-- A key that is declared to count and has a size is not just INTEGER on SQLite. -/
theorem sized_key_counts_not :
    guests.Reachable ∧ guestKey ∈ guests.columns ∧ guestKey.auto = true ∧
      guestKey.type = some .int ∧ ColumnType.int.isInteger = true ∧
      Dialect.sqlite ∈ Dialect.builtIn ∧
      Definition.columnType Dialect.sqlite "guests" guestKey = .ok "INTEGER(11)" ∧
      Definition.column Dialect.sqlite guests guestKey =
        .ok "\"id\" INTEGER(11) NOT NULL PRIMARY KEY" ∧
      ∀ word, ¬ Dialect.sqlite.Counts .int "INTEGER(11)" word := by
  have known : Dialect.sqlite ∈ Dialect.builtIn := by simp [Dialect.builtIn]
  refine ⟨reachable_guests, List.mem_singleton.mpr rfl, rfl, rfl, rfl, known, rfl, rfl,
    fun word counts => ?_⟩
  have text : "INTEGER(11)" = "INTEGER" := counts.sqlite rfl
  simp at text

end Blueprint

end Sqlwright
