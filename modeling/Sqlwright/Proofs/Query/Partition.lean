import Mathlib.Algebra.Order.BigOperators.Group.List
import Mathlib.Algebra.Order.Ring.Nat
import Mathlib.Data.List.Nodup
import Mathlib.Data.List.Perm.Basic
import Mathlib.Tactic.Ring
import Sqlwright.Dialect.BuiltIn
import Sqlwright.Proofs.Query.Compile
import Sqlwright.Proofs.Query.Marks

/-!
How the rows of an INSERT are divided among statements. The runs are consecutive, none is empty, and
all but the last are full, so no split into runs within the same bound has fewer of them. The bound
on a run, in turn, is exactly what the caller and the database allow (`Insert.fits_iff`). Main
statement: `Query.compileInsert_partition`.
-/

namespace Sqlwright

open Text

namespace Insert

section Runs

variable {α : Type} {size : Nat} {items : List α} {run : List α}

/-- No item is lost, moved or doubled. -/
theorem flatten_runs (size : Nat) (items : List α) : (runs size items).flatten = items := by
  induction items using runs.induct size with
  | case1 => rw [runs, List.flatten_nil]
  | case2 a rest ih =>
    rw [runs, List.flatten_cons, ih, List.cons_append, List.take_append_drop]

theorem length_pos_of_mem_runs (member : run ∈ runs size items) : 1 ≤ run.length := by
  induction items using runs.induct size with
  | case1 =>
    rw [runs] at member
    cases member
  | case2 a rest ih =>
    rw [runs] at member
    rcases List.mem_cons.mp member with rfl | later
    · simp
    · exact ih later

theorem length_le_of_mem_runs (h : 1 ≤ size) (member : run ∈ runs size items) :
    run.length ≤ size := by
  induction items using runs.induct size with
  | case1 =>
    rw [runs] at member
    cases member
  | case2 a rest ih =>
    rw [runs] at member
    rcases List.mem_cons.mp member with rfl | later
    · simp only [List.length_cons, List.length_take]
      omega
    · exact ih later

/-- All runs but the last are full. -/
theorem length_runs_mul_lt (h : 1 ≤ size) (items : List α) :
    (runs size items).length * size < items.length + size := by
  induction items using runs.induct size with
  | case1 =>
    rw [runs]
    simp only [List.length_nil]
    omega
  | case2 a rest ih =>
    rw [runs, List.length_cons, List.length_cons, Nat.succ_mul]
    by_cases short : rest.length ≤ size - 1
    · -- This run is the last one.
      rw [List.drop_eq_nil_of_le short, runs, List.length_nil]
      omega
    · rw [List.length_drop] at ih
      omega

/-- No split into parts of at most that size has fewer parts. -/
theorem length_runs_le (h : 1 ≤ size) {split : List (List α)} (whole : split.flatten = items)
    (small : ∀ part ∈ split, part.length ≤ size) : (runs size items).length ≤ split.length := by
  have room : items.length ≤ split.length * size := by
    rw [← whole, List.length_flatten]
    have := List.sum_le_card_nsmul (split.map List.length) size (by simpa using small)
    simpa using this
  have full := length_runs_mul_lt h items
  -- Fewer parts would not have room for all items.
  by_contra fewer
  have more : (split.length + 1) * size ≤ (runs size items).length * size :=
    Nat.mul_le_mul_right size (by omega)
  rw [Nat.succ_mul] at more
  omega

end Runs

/-- The bounds on the number of rows in one statement. -/
structure Bounded (d : Dialect) (columns : Nat) (chunkSize : Int) (rows : Nat) : Prop where
  present : 1 ≤ rows
  chunk : (rows : Int) ≤ max 1 chunkSize
  most : ∀ most, d.maxInsertRows = some most → (rows : Int) ≤ most
  single : d.insertStyle = .single → rows = 1
  parameters : (columns : Int) ≤ d.maxParameters → (rows * columns : Int) ≤ d.maxParameters

/-- The bounds, where a row with more columns than there may be parameters goes alone. -/
structure Fits (d : Dialect) (columns : Nat) (chunkSize : Int) (rows : Nat) : Prop extends
    Bounded d columns chunkSize rows where
  alone : d.maxParameters < columns → rows = 1

variable {d : Dialect} {columns rows : Nat} {chunkSize : Int}

/-- What the bound on parameters and the caller's bound come to. -/
theorem le_byParameters_iff (hcolumns : 1 ≤ columns) (hrows : 1 ≤ rows) :
    (rows : Int) ≤ max 1 (min chunkSize (d.maxParameters / columns)) ↔
      (rows : Int) ≤ max 1 chunkSize ∧
        ((columns : Int) ≤ d.maxParameters → (rows * columns : Int) ≤ d.maxParameters) ∧
        (d.maxParameters < columns → rows = 1) := by
  have positive : (0 : Int) < columns := by omega
  have several : (rows : Int) ≤ d.maxParameters / columns ↔
      (rows * columns : Int) ≤ d.maxParameters := Int.le_ediv_iff_mul_le positive
  have one : (1 : Int) ≤ d.maxParameters / columns ↔ (columns : Int) ≤ d.maxParameters := by
    rw [Int.le_ediv_iff_mul_le positive, one_mul]
  by_cases room : (columns : Int) ≤ d.maxParameters
  · have := one.mpr room
    constructor
    · intro h
      exact ⟨by omega, fun _ => several.mp (by omega), fun _ => by omega⟩
    · rintro ⟨chunk, parameters, -⟩
      have := several.mpr (parameters room)
      omega
  · have := mt one.mp room
    constructor
    · intro h
      exact ⟨by omega, fun _ => by omega, fun _ => by omega⟩
    · rintro ⟨-, -, alone⟩
      have := alone (by omega)
      omega

/-- A number of rows is within the bound exactly if the chunk size and the parameters, the rows that
the database takes at once and its way of inserting allow for it. -/
theorem le_rowsPerStatement_iff (hmost : ∀ most, d.maxInsertRows = some most → 1 ≤ most)
    (hrows : 1 ≤ rows) :
    (rows : Int) ≤ rowsPerStatement d columns chunkSize ↔
      (rows : Int) ≤ max 1 (min chunkSize (d.maxParameters / columns)) ∧
        (∀ most, d.maxInsertRows = some most → (rows : Int) ≤ most) ∧
        (d.insertStyle = .single → rows = 1) := by
  unfold rowsPerStatement
  have byParameters : 1 ≤ max 1 (min chunkSize (d.maxParameters / columns)) := by omega
  generalize max 1 (min chunkSize (d.maxParameters / columns)) = bound at byParameters ⊢
  by_cases single : d.insertStyle = .single
  · simp only [single, if_true, true_implies]
    constructor
    · intro h
      refine ⟨by omega, ?_, by omega⟩
      intro most found
      have := hmost most found
      omega
    · rintro ⟨-, -, one⟩
      omega
  · simp only [single, if_false, false_implies, and_true]
    cases found : d.maxInsertRows with
    | none => simp
    | some most =>
      have nonzero : most ≠ 0 := by
        have := hmost most found
        omega
      simp [nonzero]

/-- A number of rows is within the bounds exactly if it is between one and the number of rows that
go into one statement. -/
theorem fits_iff (hcolumns : 1 ≤ columns) (hmost : ∀ most, d.maxInsertRows = some most → 1 ≤ most) :
    Fits d columns chunkSize rows ↔
      1 ≤ rows ∧ (rows : Int) ≤ rowsPerStatement d columns chunkSize := by
  constructor
  · intro fits
    have byParameters := (le_byParameters_iff hcolumns fits.present).mpr
      ⟨fits.chunk, fits.parameters, fits.alone⟩
    exact ⟨fits.present,
      (le_rowsPerStatement_iff hmost fits.present).mpr ⟨byParameters, fits.most, fits.single⟩⟩
  · rintro ⟨present, h⟩
    obtain ⟨byParameters, most, single⟩ := (le_rowsPerStatement_iff hmost present).mp h
    obtain ⟨chunk, parameters, alone⟩ := (le_byParameters_iff hcolumns present).mp byParameters
    exact { present, chunk, most, single, parameters, alone }

/-- At least one row goes into a statement. -/
theorem one_le_rowsPerStatement (columns : Nat) (chunkSize : Int)
    (hmost : ∀ most, d.maxInsertRows = some most → 1 ≤ most) :
    1 ≤ rowsPerStatement d columns chunkSize :=
  (le_rowsPerStatement_iff hmost (le_refl 1)).mpr ⟨by omega, hmost, fun _ => rfl⟩

def SameColumns (a b : Row) : Prop := ∀ column, column ∈ columnsOf a ↔ column ∈ columnsOf b

theorem hasColumns_iff {a b : Row} : hasColumns (columnsOf a) b = true ↔ SameColumns a b := by
  simp only [hasColumns, Bool.and_eq_true, List.all_eq_true, List.contains_iff_mem]
  constructor
  · rintro ⟨known, complete⟩ column
    exact ⟨complete column, known column⟩
  · intro same
    exact ⟨fun column member => (same column).mpr member,
      fun column member => (same column).mp member⟩

/-- Records are accepted exactly if all of them are rows with the given columns. -/
theorem alike_eq_ok {columns : List Key} {index : Nat} {records : Records} {rows : List Row} :
    alike columns index records = .ok rows ↔
      records = rows.map some ∧ ∀ row ∈ rows, hasColumns columns row = true := by
  induction records generalizing index rows with
  | nil =>
    rw [alike]
    constructor
    · rintro ⟨⟩
      simp
    · rintro ⟨h, -⟩
      rw [List.map_eq_nil_iff.mp h.symm]
  | cons record rest ih =>
    cases record with
    | none =>
      constructor
      · intro h
        cases h
      · rintro ⟨h, -⟩
        cases rows <;> cases h
    | some row =>
      rw [alike]
      cases known : hasColumns columns row with
      | false =>
        constructor
        · intro h
          cases h
        · rintro ⟨h, each⟩
          cases rows with
          | nil => cases h
          | cons first others =>
            cases h
            simp [known] at each
      | true =>
        rw [if_pos rfl, bind_eq_ok]
        constructor
        · rintro ⟨others, hothers, h⟩
          cases h
          obtain ⟨rfl, each⟩ := ih.mp hothers
          exact ⟨rfl, by simpa [known] using each⟩
        · rintro ⟨h, each⟩
          cases rows with
          | nil => cases h
          | cons first others =>
            cases h
            exact ⟨others, ih.mpr ⟨rfl, fun row member => each row (by simp [member])⟩, rfl⟩

/-- The first row with other columns is the one that is reported. -/
theorem alike_eq_error {columns : List Key} {rows : List Row} {start index : Nat} {row : Row}
    (found : rows[index]? = some row) (differs : hasColumns columns row = false)
    (before : ∀ earlier < index, ∀ other, rows[earlier]? = some other →
      hasColumns columns other = true) :
    alike columns start (rows.map some) =
      .error (.inconsistentColumns (start + index) columns (columnsOf row)) := by
  induction rows generalizing start index with
  | nil => simp at found
  | cons first rest ih =>
    rw [List.map_cons, alike]
    cases index with
    | zero =>
      obtain rfl : first = row := by simpa using found
      simp [differs]
    | succ index =>
      rw [before 0 (by omega) first rfl, if_pos rfl,
        ih found fun earlier h other member =>
          before (earlier + 1) (by omega) other member,
        Nat.add_right_comm]
      rfl

/-- A column that is named once holds the value given with it. -/
theorem cell_of_mem {row : Row} (distinct : (columnsOf row).Nodup) {entry : Key × Value}
    (member : entry ∈ row) : cell row entry.1 = entry.2 := by
  induction row with
  | nil => cases member
  | cons first rest ih =>
    obtain ⟨fresh, later⟩ := List.nodup_cons.mp distinct
    unfold cell
    rw [List.lookup_cons]
    rcases List.mem_cons.mp member with rfl | inside
    · simp
    · have other : entry.1 ≠ first.1 := by
        intro same
        exact fresh (List.mem_map.mpr ⟨entry, inside, same⟩)
      rw [beq_false_of_ne other]
      exact ih later inside

/-- Read off by the names of another row's columns, a row is complete. -/
theorem cells_perm {first row : Row} (same : SameColumns first row)
    (hfirst : (columnsOf first).Nodup) (hrow : (columnsOf row).Nodup) :
    ((columnsOf first).map fun column => (column, cell row column)).Perm row := by
  have columns : (columnsOf first).Perm (columnsOf row) :=
    (List.perm_ext_iff_of_nodup hfirst hrow).mpr same
  have whole : (columnsOf row).map (fun column => (column, cell row column)) = row := by
    rw [columnsOf, List.map_map]
    conv_rhs => rw [← List.map_id row]
    apply List.map_congr_left
    intro entry member
    simp [cell_of_mem hrow member]
  calc ((columnsOf first).map fun column => (column, cell row column)).Perm
        ((columnsOf row).map fun column => (column, cell row column)) := columns.map _
    _ = row := whole

def target (table : String) (names : List String) : String :=
  table ++ " (" ++ join ", " names ++ ")"

/-- How often an INSERT of some rows names its table and columns. -/
def mentions (d : Dialect) (rows : Nat) : Nat :=
  if 1 < rows && d.insertStyle = .insertAll then rows else 1

theorem marks_rowMarks (columns : Nat) : marks (rowMarks columns) = columns := by
  have comma : marks ", " = 0 := rfl
  have mark : marks "?" = 1 := rfl
  simp [rowMarks, marks_join_replicate comma, mark]

/-- An INSERT has one mark for each column of each row, and those of the names. -/
theorem marks_sql (d : Dialect) (named : String) (columns rows : Nat) :
    marks (sql d named columns rows) = rows * columns + mentions d rows * marks named := by
  have comma : marks ", " = 0 := rfl
  have blank : marks " " = 0 := rfl
  unfold sql mentions
  split
  · simp [marks_join_replicate blank, marks_rowMarks]
    ring
  · simp [marks_join_replicate comma, marks_rowMarks]
    ring

/-- The text of an INSERT: behind the table and its columns a mark for each column of each row, in
parentheses for each row, or the table and its columns named again for each row. -/
inductive Written (d : Dialect) (named : String) (columns rows : Nat) : String → Prop
  | once (h : 1 < rows → d.insertStyle ≠ .insertAll) :
    Written d named columns rows
      ("INSERT INTO " ++ named ++ " VALUES " ++ join ", " (List.replicate rows (rowMarks columns)))
  | each (style : d.insertStyle = .insertAll) (several : 1 < rows) :
    Written d named columns rows
      ("INSERT ALL " ++
        join " " (List.replicate rows ("INTO " ++ named ++ " VALUES " ++ rowMarks columns)) ++
        " SELECT 1 FROM DUAL")

/-- The text of an INSERT is one of the two forms. -/
theorem written_sql (d : Dialect) (named : String) (columns rows : Nat) :
    Written d named columns rows (sql d named columns rows) := by
  unfold sql
  split
  · rename_i all
    simp only [Bool.and_eq_true, decide_eq_true_eq] at all
    exact .each all.2 all.1
  · rename_i one
    simp only [Bool.and_eq_true, decide_eq_true_eq, not_and] at one
    exact .once one

/-- The statement for some rows: it names the columns in this order, and under them stand the values
of each row. -/
structure Spells (d : Dialect) (named : String) (columns : List Key) (rows : List Row)
    (s : Statement) : Prop where
  sql : Written d named columns.length rows.length s.sql
  params : s.params = rows.flatMap fun row => columns.map (cell row)

theorem spells_statement (d : Dialect) (named : String) (columns : List Key) (rows : List Row) :
    Spells d named columns rows (statement d named columns rows) :=
  ⟨written_sql d named columns.length rows.length, rfl⟩

/-- The table and its columns bring no marks. -/
theorem marks_target (free : d.Markless) {table : String} {keys : List Key} {names : List String}
    (htable : marks table = 0) (h : keys.mapM d.quoteKey = .ok names) :
    marks (target table names) = 0 := by
  have comma : marks ", " = 0 := rfl
  have listed : marks (join ", " names) = 0 := by
    refine marks_join_eq_zero comma ?_
    intro name member
    obtain ⟨key, -, hkey⟩ := exists_of_mem_mapM h member
    exact free.key hkey
  simp [target, htable, listed]

theorem quoteKey_eq_error {key : Key} {e : Error} (h : d.quoteKey key = .error e) :
    e.kind = .invalidIdentifier := by
  cases key with
  | text name =>
    obtain rfl := Dialect.eq_of_quoteIdentifier_error h
    rfl
  | other shown =>
    cases h
    rfl

/-- Records that disagree are refused for their columns, never for their values. -/
theorem alike_kind {columns : List Key} {index : Nat} {records : Records} {e : Error}
    (h : alike columns index records = .error e) : e.kind = .inconsistentInsertColumns := by
  induction records generalizing index with
  | nil => cases h
  | cons record rest ih =>
    cases record with
    | none =>
      cases h
      rfl
    | some row =>
      rw [alike] at h
      cases known : hasColumns columns row with
      | false =>
        rw [known] at h
        cases h
        rfl
      | true =>
        rw [known, if_pos rfl] at h
        cases later : alike columns (index + 1) rest with
        | error e' =>
          rw [later] at h
          cases h
          exact ih later
        | ok rows =>
          rw [later] at h
          cases h

/-- Statements that insert rows: in order, each statement some whole rows within the bounds and with
their values under the columns that it names, every row once and complete, and no split within the
bounds has fewer parts. -/
structure Divides (d : Dialect) (chunkSize : Int) (named : String) (columns : List Key)
    (rows : List Row) (statements : List Statement) : Prop where
  runs : ∃ runs : List (List Row), runs.flatten = rows ∧
    List.Forall₂
      (fun run statement =>
        Fits d columns.length chunkSize run.length ∧
          Spells d named columns run statement ∧
          statement.params.length = run.length * columns.length ∧
          statement.markCount =
            run.length * columns.length + mentions d run.length * marks named)
      runs statements
  params : statements.flatMap (·.params) = rows.flatMap fun row => columns.map (cell row)
  complete : ∀ row ∈ rows, (columns.map fun column => (column, cell row column)).Perm row
  fewest : ∀ split : List (List Row), split.flatten = rows →
    (∀ part ∈ split, Fits d columns.length chunkSize part.length) →
    statements.length ≤ split.length

/-- The number of marks and of parameters of the statement for some rows. -/
theorem markCount_statement (d : Dialect) (named : String) (columns : List Key) (rows : List Row) :
    (statement d named columns rows).markCount =
      rows.length * columns.length + mentions d rows.length * marks named :=
  marks_sql d named columns.length rows.length

theorem length_params_statement (d : Dialect) (named : String) (columns : List Key)
    (rows : List Row) :
    (statement d named columns rows).params.length = rows.length * columns.length := by
  simp [statement, List.length_flatMap]

/-- The runs of full size divide the rows. -/
theorem divides_runs (named : String) {first : Row} {rows : List Row} (present : first ≠ [])
    (same : ∀ row ∈ rows, SameColumns first row) (hfirst : (columnsOf first).Nodup)
    (mappings : ∀ row ∈ rows, (columnsOf row).Nodup)
    (hmost : ∀ most, d.maxInsertRows = some most → 1 ≤ most) :
    Divides d chunkSize named (columnsOf first) rows
      ((runs (rowsPerStatement d (columnsOf first).length chunkSize).toNat rows).map
        (statement d named (columnsOf first))) := by
  have hcolumns : 1 ≤ (columnsOf first).length := by
    rw [columnsOf, List.length_map]
    exact List.length_pos_iff.mpr present
  have one := one_le_rowsPerStatement (columnsOf first).length chunkSize hmost
  have fits (k : Nat) : Fits d (columnsOf first).length chunkSize k ↔
      1 ≤ k ∧ k ≤ (rowsPerStatement d (columnsOf first).length chunkSize).toNat := by
    rw [fits_iff hcolumns hmost]
    omega
  have hsize : 1 ≤ (rowsPerStatement d (columnsOf first).length chunkSize).toNat := by omega
  generalize (rowsPerStatement d (columnsOf first).length chunkSize).toNat = size at fits hsize
  refine ⟨⟨runs size rows, flatten_runs size rows, ?_⟩, ?_, ?_, ?_⟩
  · rw [List.forall₂_map_right_iff, List.forall₂_same]
    intro run member
    exact ⟨(fits _).mpr ⟨length_pos_of_mem_runs member, length_le_of_mem_runs hsize member⟩,
      spells_statement d named _ run, length_params_statement d named _ run,
      markCount_statement d named _ run⟩
  · calc ((runs size rows).map (statement d named (columnsOf first))).flatMap (·.params)
        = (runs size rows).flatMap
            fun run => run.flatMap fun row => (columnsOf first).map (cell row) := by
          rw [List.flatMap_map]
          rfl
      _ = (runs size rows).flatten.flatMap fun row => (columnsOf first).map (cell row) := by
          rw [List.flatten_eq_flatMap, List.flatMap_assoc]
          rfl
      _ = rows.flatMap fun row => (columnsOf first).map (cell row) := by
          rw [flatten_runs]
  · intro row member
    exact cells_perm (same row member) hfirst (mappings row member)
  · intro split whole parts
    rw [List.length_map]
    exact length_runs_le hsize whole fun part member => ((fits _).mp (parts part member)).2

theorem firstRow_eq_ok {records : Records} {row : Row} :
    firstRow records = .ok row ↔ row ≠ [] ∧ ∃ rest, records = some row :: rest := by
  cases records with
  | nil => simp [firstRow]
  | cons record rest =>
    cases record with
    | none => simp [firstRow]
    | some first =>
      rw [firstRow]
      cases first with
      | nil =>
        constructor
        · intro h
          cases h
        · rintro ⟨present, others, h⟩
          cases h
          exact absurd rfl present
      | cons entry more =>
        constructor
        · intro h
          cases h
          exact ⟨by simp, rest, rfl⟩
        · rintro ⟨-, others, h⟩
          cases h
          rfl

end Insert

namespace Query

open Sqlwright.Insert

variable {d : Dialect} {q : Query} {chunkSize : Int} {table : String} {statements : List Statement}

/-- What an accepted INSERT consists of. -/
theorem compileInsert_eq_ok {records : Records} :
    q.compileInsert d records chunkSize = .ok statements ↔
      ∃ table first rest names, q.requireTable = .ok table ∧ first ≠ [] ∧
        records = (first :: rest).map some ∧ (∀ row ∈ first :: rest, SameColumns first row) ∧
        (columnsOf first).mapM d.quoteKey = .ok names ∧
        statements =
          if rowsPerStatement d (columnsOf first).length chunkSize < 1 then []
          else
            (runs (rowsPerStatement d (columnsOf first).length chunkSize).toNat
              (first :: rest)).map (statement d (target table names) (columnsOf first)) := by
  constructor
  · intro h
    obtain ⟨table, htable, h⟩ := bind_eq_ok.mp h
    obtain ⟨first, hfirst, h⟩ := bind_eq_ok.mp h
    obtain ⟨rows, hrows, h⟩ := bind_eq_ok.mp h
    obtain ⟨names, hnames, h⟩ := bind_eq_ok.mp h
    obtain ⟨present, others, rfl⟩ := firstRow_eq_ok.mp hfirst
    obtain ⟨hrecords, each⟩ := alike_eq_ok.mp hrows
    obtain ⟨rest, rfl⟩ : ∃ rest, rows = first :: rest := by
      cases rows with
      | nil => cases hrecords
      | cons row rest =>
        cases hrecords
        exact ⟨rest, rfl⟩
    refine ⟨table, first, rest, names, htable, present, hrecords,
      fun row member => hasColumns_iff.mp (each row member), hnames, ?_⟩
    dsimp only at h
    by_cases none : rowsPerStatement d (columnsOf first).length chunkSize < 1
    · rw [if_pos none] at h ⊢
      cases h
      rfl
    · rw [if_neg none] at h ⊢
      cases h
      rfl
  · rintro ⟨table, first, rest, names, htable, present, rfl, same, hnames, rfl⟩
    have hfirst : firstRow ((first :: rest).map some) = .ok first :=
      firstRow_eq_ok.mpr ⟨present, rest.map some, rfl⟩
    have hrows : alike (columnsOf first) 0 ((first :: rest).map some) = .ok (first :: rest) :=
      alike_eq_ok.mpr ⟨rfl, fun row member => hasColumns_iff.mpr (same row member)⟩
    simp only [compileInsert, htable, hfirst, hrows, hnames, bind, Except.bind]
    split <;> rfl

/-- Only a first row that is missing or empty is refused as nothing to insert. -/
theorem compileInsert_empty (htable : q.requireTable = .ok table) (rows : List Row) :
    q.compileInsert d (rows.map some) chunkSize = .error .emptyInsert ↔
      rows = [] ∨ rows.head? = some [] := by
  cases rows with
  | nil => simp [compileInsert, htable, firstRow, bind, Except.bind]
  | cons first rest =>
    cases first with
    | nil => simp [compileInsert, htable, firstRow, bind, Except.bind]
    | cons entry more =>
      simp only [reduceCtorEq, List.head?_cons, Option.some.injEq, or_self, iff_false]
      intro h
      have hfirst : firstRow (((entry :: more) :: rest).map some) = .ok (entry :: more) := rfl
      simp only [compileInsert, htable, hfirst, bind, Except.bind] at h
      split at h
      · rename_i e refused
        cases h
        have := alike_kind refused
        cases this
      · split at h
        · rename_i e refused
          cases h
          obtain ⟨key, -, hkey⟩ := exists_of_mapM_eq_error refused
          have := quoteKey_eq_error hkey
          cases this
        · split at h <;> cases h

/-- A list of rows is inserted as a whole or refused as a whole. Nothing to insert is told apart
from rows that disagree, and of those the first is reported. Rows that agree are divided in order
among as few statements as the bounds allow. A mark that is none of a row's is part of a quoted
name. -/
theorem compileInsert_partition (d : Dialect) (q : Query) (chunkSize : Int) (rows : List Row)
    (named : q.table = some table) (nonempty : table ≠ "")
    (most : ∀ most, d.maxInsertRows = some most → 1 ≤ most)
    (mappings : ∀ row ∈ rows, (columnsOf row).Nodup) :
    (q.compileInsert d (rows.map some) chunkSize = .error .emptyInsert ↔
      rows = [] ∨ rows.head? = some []) ∧
    ∀ first, rows.head? = some first → first ≠ [] →
      (∀ index row, rows[index]? = some row → ¬ SameColumns first row →
        (∀ earlier < index, ∀ other, rows[earlier]? = some other → SameColumns first other) →
        q.compileInsert d (rows.map some) chunkSize =
          .error (.inconsistentColumns index (columnsOf first) (columnsOf row))) ∧
      ((∀ row ∈ rows, SameColumns first row) →
        (∀ column ∈ columnsOf first, ∃ name,
          column = .text name ∧ Identifier.isQualified name.toList = true) →
        ∃ names statements,
          (columnsOf first).mapM d.quoteKey = .ok names ∧
          (d.Markless → marks table = 0 → marks (target table names) = 0) ∧
          q.compileInsert d (rows.map some) chunkSize = .ok statements ∧
          Divides d chunkSize (target table names) (columnsOf first) rows statements) := by
  have htable := requireTable_eq_ok.mpr ⟨named, nonempty⟩
  refine ⟨compileInsert_empty htable rows, ?_⟩
  intro first hfirst present
  obtain ⟨rest, rfl⟩ : ∃ rest, rows = first :: rest := by
    cases rows with
    | nil => cases hfirst
    | cons row rest =>
      cases hfirst
      exact ⟨rest, rfl⟩
  have head : firstRow ((first :: rest).map some) = .ok first :=
    firstRow_eq_ok.mpr ⟨present, rest.map some, rfl⟩
  constructor
  · intro index row found differs before
    have refused : alike (columnsOf first) 0 ((first :: rest).map some) =
        .error (.inconsistentColumns (0 + index) (columnsOf first) (columnsOf row)) :=
      alike_eq_error found (by simpa using mt hasColumns_iff.mp differs)
        (fun earlier h other member => hasColumns_iff.mpr (before earlier h other member))
    rw [Nat.zero_add] at refused
    simp only [compileInsert, htable, head, refused, bind, Except.bind]
  · intro same valid
    have quoted : ∀ column ∈ columnsOf first, ∃ name, d.quoteKey column = .ok name := by
      intro column member
      obtain ⟨name, rfl, qualified⟩ := valid column member
      exact ⟨_, if_pos qualified⟩
    obtain ⟨names, hnames⟩ := exists_mapM_eq_ok quoted
    have one := one_le_rowsPerStatement (columnsOf first).length chunkSize most
    refine ⟨names, _, hnames, fun free plain => marks_target free plain hnames,
      compileInsert_eq_ok.mpr
        ⟨table, first, rest, names, htable, present, rfl, same, hnames, rfl⟩, ?_⟩
    rw [if_neg (by omega)]
    exact divides_runs _ present same (mappings first (by simp)) mappings most

def threeRows : List Row :=
  [[(.text "a", .int 1), (.text "b", .int 2)], [(.text "b", .int 4), (.text "a", .int 3)],
    [(.text "a", .int 5), (.text "b", .int 6)]]

theorem compileInsert_partition_threeRows :
    ∃ names statements,
      Query.compileInsert { Dialect.sqlite with maxParameters := 5 } { table := some "\"t\"" }
        (threeRows.map some) 10 = .ok statements ∧
      Divides { Dialect.sqlite with maxParameters := 5 } 10 (target "\"t\"" names)
        [.text "a", .text "b"] threeRows statements := by
  have accepted := (compileInsert_partition { Dialect.sqlite with maxParameters := 5 }
    { table := some "\"t\"" } 10 threeRows rfl (by decide) (by intro most h; cases h)
    (by decide)).2 [(.text "a", .int 1), (.text "b", .int 2)] rfl (by simp)
  have same : ∀ row ∈ threeRows, hasColumns [.text "a", .text "b"] row = true := by decide
  have valid : ∀ column ∈ columnsOf [(.text "a", .int 1), (.text "b", .int 2)], ∃ name,
      column = .text name ∧ Identifier.isQualified name.toList = true := by
    intro column member
    simp only [columnsOf, List.map_cons, List.map_nil, List.mem_cons, List.not_mem_nil,
      or_false] at member
    rcases member with rfl | rfl
    · exact ⟨"a", rfl, by decide⟩
    · exact ⟨"b", rfl, by decide⟩
  obtain ⟨names, statements, -, -, compiled, divides⟩ :=
    accepted.2 (fun row member => hasColumns_iff.mp (same row member)) valid
  exact ⟨names, statements, compiled, divides⟩

def narrow : Dialect := { Dialect.mysql with maxParameters := 1 }

/-- Two rows with more columns than there may be parameters go into two statements, although without
the bound for lone rows a single statement could hold them. -/
theorem compileInsert_not_fewest :
    ∃ statements,
      Query.compileInsert narrow { table := some "t" } ((threeRows.take 2).map some) 10 =
        .ok statements ∧
      statements.length = 2 ∧
      ∃ split : List (List Row), split.flatten = threeRows.take 2 ∧ split.length = 1 ∧
        ∀ part ∈ split, Bounded narrow 2 10 part.length := by
  have same : ∀ row ∈ threeRows.take 2, hasColumns [.text "a", .text "b"] row = true := by decide
  have quoted : ([.text "a", .text "b"] : List Key).mapM narrow.quoteKey =
      .ok ["\x60a\x60", "\x60b\x60"] := mapM_eq_ok.mpr (.cons rfl (.cons rfl .nil))
  have size : rowsPerStatement narrow 2 10 = 1 := by decide
  refine ⟨_, compileInsert_eq_ok.mpr ⟨"t", threeRows.head (by decide), _, _, rfl, by decide, rfl,
    fun row member => hasColumns_iff.mp (same row member), quoted, rfl⟩, ?_, [threeRows.take 2],
    rfl, rfl, ?_⟩
  · have count : (columnsOf (threeRows.head (by decide))).length = 2 := rfl
    rw [count, size, if_neg (by decide)]
    simp [runs]
  · intro part member
    obtain rfl := List.mem_singleton.mp member
    exact
      { present := by decide
        chunk := by decide
        most := by
          intro most h
          cases h
        single := by
          intro h
          cases h
        parameters := by
          intro h
          exact absurd h (by decide) }

end Query

end Sqlwright
