import Sqlwright.Proofs.Schema.Membership
import Sqlwright.Proofs.Schema.Values

/-!
What keeps the values of an enumeration or a set in the statements that create a table: a type of
the database, a check in the definition of the column, or a check behind the columns. The parts of
the statements are read one by one (`Piece.carriers`). For a column with values there is exactly one
carrier, and it has the values in the order of their declaration; for a column of another type there
is none (`Blueprint.carriers_of_values`).
-/

namespace Sqlwright

open Definition Piece Text

variable {d : Dialect} {b : Blueprint} {c : Column} {row : List Piece}

/-- Where the values of an enumeration or a set are kept. -/
inductive CarrierPlace
  | native | inline | constraint
  deriving DecidableEq, Repr

/-- What keeps the values of a column: where it stands, the column, the values that it admits, and
the texts in single quotes that it is written with. -/
structure Carrier where
  place : CarrierPlace
  column : String
  values : List String
  written : List String
  deriving DecidableEq, Repr

namespace Piece

/-- The texts in single quotes at the front of a row, up to the first bracket that closes. -/
def literalsAhead : List Piece → List String
  | [] => []
  | plain text :: rest => if text = ")" then [] else literalsAhead rest
  | literal s :: rest => s :: literalsAhead rest
  | _ :: rest => literalsAhead rest

def nativeAhead (column : String) (row : List Piece) : Option Carrier :=
  (listedAhead ")" row).map fun values => ⟨.native, column, values, values⟩

def checkedAhead (place : CarrierPlace) (row : List Piece) : Option Carrier :=
  (checkAhead row).map fun check => ⟨place, check.column, check.values, literalsAhead row⟩

/-- What keeps values in a part of a statement: the definition of a column begins with its name. -/
def carriers : List Piece → List Carrier
  | name column :: rest =>
    behind ["ENUM(", "SET("] (nativeAhead column) rest ++
      behind [" CHECK ("] (checkedAhead .inline) rest
  | row => behind [" CHECK ("] (checkedAhead .constraint) row

/-- The texts in single quotes of a row that nothing closes but what stands behind it. -/
theorem literalsAhead_closed (unclosed : ∀ piece ∈ row, isMute [")"] piece = true)
    (rest : List Piece) : literalsAhead (row ++ plain ")" :: rest) = literals row := by
  induction row with
  | nil => rfl
  | cons piece others ih =>
    obtain ⟨here, later⟩ := List.forall_mem_cons.mp unclosed
    cases piece with
    | plain text =>
      have other : text ≠ ")" := by simpa [isMute] using here
      simp [literalsAhead, other, ih later]
    | literal s => simp [literalsAhead, ih later]
    | name | word | free => simpa [literalsAhead] using ih later

/-- A check is not read where there is nothing in it. -/
theorem checkAhead_closing (rest : List Piece) : checkAhead (plain ")" :: rest) = none := by
  unfold checkAhead
  split
  · rename_i same
    cases same
    exact if_neg (by simp)
  · rename_i same
    cases same
  · rfl

end Piece

namespace Definition

/-- Where the values of a column are kept, if it is an enumeration or a set. -/
def place? (d : Dialect) (c : Column) : Option CarrierPlace :=
  if isNative d c then some .native
  else if checkedInType d c then some .inline
  else if checkedBehind d c then some .constraint
  else none

/-- The texts in single quotes that the values of a column are written with: the values themselves,
each between signs for anything, or all of them as the alternatives of one pattern. -/
def writtenValues (d : Dialect) (c : Column) : List String :=
  if c.type = some .set then
    match d.setStyle with
    | .like => c.values.map fun v => "%" ++ v ++ "%"
    | .regexp => [setPattern c]
    | _ => c.values
  else c.values

def carrier (d : Dialect) (c : Column) (place : CarrierPlace) : Carrier :=
  ⟨place, c.name, c.values, writtenValues d c⟩

/-- In the styles that are known, the values of enumerations and sets are kept, and no others. -/
theorem isSome_place?_iff
    (enums : d.enumStyle ∈ [.native, .inlineCheck, .namedConstraint])
    (sets : d.setStyle ∈ [.native, .array, .orEquals, .like, .regexp, .containing]) :
    (place? d c).isSome = true ↔ c.type = some .enum ∨ c.type = some .set := by
  have kept : (place? d c).isSome = true ↔
      isNative d c = true ∨ checkedInType d c = true ∨ checkedBehind d c = true := by
    unfold place?
    cases isNative d c <;> cases checkedInType d c <;> cases checkedBehind d c <;> simp
  rw [kept]
  simp only [isNative, checkedInType, checkedBehind, decide_eq_true_eq, List.mem_cons,
    List.not_mem_nil, or_false] at enums sets ⊢
  grind

theorem literalsAhead_conditionRow (emulated : isEmulated d c = true) (rest : List Piece) :
    literalsAhead (conditionRow d c ++ plain ")" :: rest) = writtenValues d c := by
  have front {opening : String} (other : opening ≠ ")") : ∀ piece ∈
      [name c.name, plain opening] ++ literalList c.values, isMute [")"] piece = true :=
    List.forall_mem_append.mpr ⟨by simp [isMute, other], isMute_literalList (by decide) _⟩
  have each {keyword : String} (other : keyword ≠ ")") (pattern : String → String) :
      literalsAhead (joined " OR " (c.values.map fun v =>
        [name c.name, plain keyword, literal (pattern v)]) ++ plain ")" :: rest) =
        c.values.map pattern := by
    rw [literalsAhead_closed]
    · rw [literals_joined, List.flatMap_map]
      exact List.map_eq_flatMap.symm
    · refine forall_joined (by decide) fun row member => ?_
      obtain ⟨v, -, rfl⟩ := List.mem_map.mp member
      simp [isMute, other]
  rcases isEmulated_iff.mp emulated with ⟨enum, -⟩ | ⟨set, style⟩
  · have listed := literalsAhead_closed (front (show " IN (" ≠ ")" by decide)) (plain ")" :: rest)
    rw [conditionRow, if_pos enum, enumExpressionRow, List.append_assoc]
    refine listed.trans ?_
    simp [writtenValues, enum]
  · have other : c.type ≠ some .enum := by simp [set]
    rw [conditionRow, if_neg other, setExpressionRow, writtenValues, if_pos set]
    simp only [List.mem_cons, List.not_mem_nil, or_false] at style
    rcases style with style | style | style | style | style <;> simp only [style]
    · rw [literalsAhead_closed]
      · simp
      · exact List.forall_mem_append.mpr ⟨front (by decide), by decide⟩
    · simpa using each (by decide) id
    · exact each (by decide) fun v => "%" ++ v ++ "%"
    · rfl
    · simpa using each (by decide) id

/-- What is found for a column at a place: nothing of another column, and what keeps the values if
there are any. A pattern without alternatives is read as one that admits the empty text. -/
structure FoundAt (d : Dialect) (c : Column) (place : CarrierPlace) (found : Option Carrier) :
    Prop where
  column : ∀ carrier ∈ found, carrier.column = c.name
  declared : c.values ≠ [] → found = some (carrier d c place)

theorem checkedAhead_conditionRow (emulated : isEmulated d c = true) (place : CarrierPlace) :
    ∃ found, (∀ rest, checkedAhead place (conditionRow d c ++ plain ")" :: rest) = found) ∧
      FoundAt d c place found := by
  by_cases declared : c.values = []
  · have unread (none_read : ∀ rest, checkAhead (conditionRow d c ++ plain ")" :: rest) = none) :
        ∃ found, (∀ rest, checkedAhead place (conditionRow d c ++ plain ")" :: rest) = found) ∧
          FoundAt d c place found :=
      ⟨none, fun rest => by rw [checkedAhead, none_read, Option.map_none], nofun,
        fun present => absurd declared present⟩
    rcases isEmulated_iff.mp emulated with ⟨enum, -⟩ | ⟨set, style⟩
    · refine unread fun rest => ?_
      simp [conditionRow, enum, enumExpressionRow, declared, literalList, joined, checkAhead,
        listedAhead]
    · have other : c.type ≠ some .enum := by simp [set]
      simp only [List.mem_cons, List.not_mem_nil, or_false] at style
      have row : conditionRow d c = setExpressionRow d c := if_neg other
      rw [row] at unread ⊢
      rcases style with style | style | style | style | style <;>
        simp only [setExpressionRow, style, declared] at unread ⊢
      · refine unread fun rest => ?_
        simp [literalList, joined, checkAhead, listedAhead]
      · exact unread checkAhead_closing
      · exact unread checkAhead_closing
      · refine ⟨some ⟨place, c.name, [""], [setPattern c]⟩, fun rest => ?_, by simp,
          fun present => absurd declared present⟩
        have pattern : alternatives (setPattern c) = some [""] := by
          rw [setPattern, declared]
          rfl
        simp [checkedAhead, checkAhead, pattern, literalsAhead]
      · exact unread checkAhead_closing
  · refine ⟨some (carrier d c place), fun rest => ?_, by simp [carrier], fun _ => rfl⟩
    rw [checkedAhead, checkAhead_conditionRow emulated declared,
      literalsAhead_conditionRow emulated]
    rfl

/-- The check of a column under its name. -/
theorem finds_check (emulated : isEmulated d c = true) (table : String) (place : CarrierPlace) :
    ∃ found, Finds [" CHECK ("] (checkedAhead place) (namedCheckRow table c (conditionRow d c))
      found.toList ∧ FoundAt d c place found := by
  obtain ⟨found, reads, here⟩ := checkedAhead_conditionRow emulated place
  exact ⟨found, finds_readCheck reads table, here⟩

def nativeCarrier? (d : Dialect) (c : Column) : Option Carrier :=
  if c.values = [] then none else some (carrier d c .native)

/-- Where a database has lists of its own, the values stand as they were declared. -/
theorem writtenValues_of_native (native : isNative d c = true) : writtenValues d c = c.values := by
  rw [isNative, decide_eq_true_eq] at native
  unfold writtenValues
  rcases native with ⟨enum, -⟩ | ⟨set, style⟩
  · simp [enum]
  · simp [set, style]

theorem finds_nativeList (native : isNative d c = true) :
    ∀ keyword ∈ ["ENUM(", "SET("], Finds ["ENUM(", "SET("] (nativeAhead c.name)
      ([plain keyword] ++ literalList c.values ++ [plain ")"]) (nativeCarrier? d c).toList := by
  intro keyword known
  have quiet : ∀ piece ∈ literalList c.values ++ [plain ")"],
      isMute ["ENUM(", "SET("] piece = true :=
    List.forall_mem_append.mpr ⟨isMute_literalList (by decide) _, by decide⟩
  have marked : Finds ["ENUM(", "SET("] (nativeAhead c.name)
      (plain keyword :: (literalList c.values ++ [plain ")"]))
      ((nativeCarrier? d c).toList ++ []) := by
    refine .markOver known (fun rest => ?_) (.mute quiet)
    rw [List.append_assoc, nativeAhead, nativeCarrier?]
    split <;> rename_i declared
    · rw [declared]
      rfl
    · rw [List.singleton_append, listedAhead_literalList declared rest (by decide), carrier,
        writtenValues_of_native native]
      rfl
  rwa [List.append_nil] at marked

theorem finds_native : Finds ["ENUM(", "SET("] (nativeAhead c.name) (columnRow d b c)
    (if isNative d c then (nativeCarrier? d c).toList else []) := by
  have check : Finds ["ENUM(", "SET("] (nativeAhead c.name)
      (namedCheckRow b.table c (conditionRow d c)) [] := finds_muteCheck (by decide) b.table
  have typed := finds_typeRow (by decide) finds_nativeList fun _ => check
  have default : Collected (Finds ["ENUM(", "SET("] (nativeAhead c.name)) (defaultRows d c) [] :=
    collected_defaultRows (by decide)
  have all := finds_framed (by decide) typed default (collected_checkRows (by decide))
  rwa [List.append_nil, List.append_nil, ite_self] at all

/-- What is found in the definition of a column. -/
theorem carriers_columnRow (d : Dialect) (b : Blueprint) (c : Column) :
    ∃ found, FoundAt d c .inline found ∧ carriers (columnRow d b c) =
      (if isNative d c then (nativeCarrier? d c).toList else []) ++
        if checkedInType d c then found.toList else [] := by
  obtain ⟨rest, front⟩ : ∃ rest, columnRow d b c = name c.name :: rest := ⟨_, rfl⟩
  have default : Collected (Finds [" CHECK ("] (checkedAhead .inline)) (defaultRows d c) [] :=
    collected_defaultRows (by decide)
  have native := (finds_native (d := d) (b := b) (c := c)).behind_eq
  obtain ⟨found, here, check⟩ : ∃ found, FoundAt d c .inline found ∧
      behind [" CHECK ("] (checkedAhead .inline) (columnRow d b c) =
        if checkedInType d c then found.toList else [] := by
    cases inType : checkedInType d c with
    | true =>
      obtain ⟨found, finds, here⟩ := finds_check (d := d) (c := c) (by simp [isEmulated, inType])
        b.table .inline
      have all := finds_columnRow (by decide) (fun _ => finds) default
      rw [inType, if_pos rfl, List.append_nil] at all
      exact ⟨found, here, all.behind_eq⟩
    | false =>
      have all : Finds [" CHECK ("] (checkedAhead .inline) (columnRow d b c)
          ((if checkedInType d c then [] else []) ++ []) :=
        finds_columnRow (by decide) (fun h => by simp [inType] at h) default
      rw [ite_self, List.append_nil] at all
      exact ⟨some (carrier d c .inline), ⟨by simp [carrier], fun _ => rfl⟩, all.behind_eq⟩
  refine ⟨found, here, ?_⟩
  rw [← native, ← check, front]
  rfl

/-- What is found behind the columns for a column. -/
theorem carriers_emulatedCheckRows (d : Dialect) (table : String) (c : Column) :
    ∃ found, FoundAt d c .constraint found ∧ (emulatedCheckRows d table c).flatMap carriers =
      if checkedBehind d c then found.toList else [] := by
  have whole : (emulatedCheckRows d table c).flatMap carriers =
      (emulatedCheckRows d table c).flatMap (behind [" CHECK ("] (checkedAhead .constraint)) := by
    refine List.flatMap_congr fun row member => ?_
    rcases mem_emulatedCheckRows member with rfl | rfl <;> rfl
  rw [whole]
  cases behind : checkedBehind d c with
  | true =>
    obtain ⟨found, finds, here⟩ := finds_check (d := d) (c := c) (by simp [isEmulated, behind])
      table .constraint
    have all := finds_emulatedCheckRows fun _ => finds
    rw [behind] at all
    exact ⟨found, here, Finds.flatMap_behind all⟩
  | false =>
    have all : Collected (Finds [" CHECK ("] (checkedAhead .constraint))
        (emulatedCheckRows d table c) (if checkedBehind d c then [] else []) :=
      finds_emulatedCheckRows fun h => by simp [behind] at h
    rw [ite_self] at all
    exact ⟨some (carrier d c .constraint), ⟨by simp [carrier], fun _ => rfl⟩,
      Finds.flatMap_behind all⟩

/-- What is found for a column in its definition and behind the columns is for that column. -/
theorem column_of_carriers (d : Dialect) (b : Blueprint) (c : Column) :
    (∀ k ∈ carriers (columnRow d b c), k.column = c.name) ∧
      ∀ k ∈ (emulatedCheckRows d b.table c).flatMap carriers, k.column = c.name := by
  obtain ⟨inline, here, inRow⟩ := carriers_columnRow d b c
  obtain ⟨behind, there, behindRow⟩ := carriers_emulatedCheckRows d b.table c
  rw [inRow, behindRow]
  have native : ∀ k ∈ (nativeCarrier? d c).toList, k.column = c.name := by
    unfold nativeCarrier?
    split <;> simp [carrier]
  constructor
  · refine List.forall_mem_append.mpr ⟨?_, ?_⟩
    · split
      · exact native
      · exact nofun
    · split
      · exact fun k found => here.column k (Option.mem_toList.mp found)
      · exact nofun
  · split
    · exact fun k found => there.column k (Option.mem_toList.mp found)
    · exact nofun

/-- A column with values has one carrier, in its definition or behind the columns, if its values are
kept at all. -/
theorem carriers_of_column (d : Dialect) (b : Blueprint) (declared : c.values ≠ []) :
    carriers (columnRow d b c) ++ (emulatedCheckRows d b.table c).flatMap carriers =
      ((place? d c).map (carrier d c)).toList := by
  obtain ⟨inline, here, inRow⟩ := carriers_columnRow d b c
  obtain ⟨behind, there, behindRow⟩ := carriers_emulatedCheckRows d b.table c
  rw [inRow, behindRow, here.declared declared, there.declared declared, nativeCarrier?,
    if_neg declared, place?]
  cases native : isNative d c with
  | true => simp [not_checked_of_native native]
  | false =>
    cases inType : checkedInType d c with
    | true => simp [not_checkedBehind inType]
    | false => cases checkedBehind d c <;> simp

/-- A column that is neither an enumeration nor a set has no carrier. -/
theorem carriers_of_other (d : Dialect) (b : Blueprint)
    (other : c.type ≠ some .enum ∧ c.type ≠ some .set) :
    carriers (columnRow d b c) ++ (emulatedCheckRows d b.table c).flatMap carriers = [] := by
  obtain ⟨inline, -, inRow⟩ := carriers_columnRow d b c
  obtain ⟨behind, -, behindRow⟩ := carriers_emulatedCheckRows d b.table c
  rw [inRow, behindRow]
  simp [isNative, checkedInType, checkedBehind, other]

end Definition

namespace Ddl

/-- What stands in the brackets of a new table. -/
def definitionRows (d : Dialect) (b : Blueprint) : List (List Piece) :=
  b.columns.map (columnRow d b) ++ (b.composite.map keyRow).toList ++ constraintRows d b

def createParts (d : Dialect) (b : Blueprint) : List (List Piece) :=
  headRow d b.table :: definitionRows d b ++
    tableOptionsRow d b.options :: (indexesOf b).map (indexRow d b.table)

/-- The statements are put together from their parts. -/
theorem createRows_eq (d : Dialect) (b : Blueprint) :
    createRows d b = (headRow d b.table ++ [plain " ("] ++ joined ", " (definitionRows d b) ++
      [plain ")"] ++ tableOptionsRow d b.options) :: (indexesOf b).map (indexRow d b.table) := rfl

/-- No row around the columns holds a list of values. -/
theorem carriers_of_outer (h : OuterRow row) : carriers row = [] := by
  have found {read : List Piece → Option Carrier} {marks : List String} {row : List Piece}
      (quiet : ∀ text ∈ outerPhrases, text ∉ marks) (h : OuterRow row) :
      behind marks read row = [] := (finds_outerRow quiet h).behind_eq
  unfold carriers
  split
  · have rest := (List.forall_mem_cons.mp h).2
    rw [found (by decide) rest, found (by decide) rest]
    rfl
  · exact found (by decide) h

/-- What is found in the parts is found in the columns and in the checks behind them. -/
theorem carriers_createParts (d : Dialect) (b : Blueprint) :
    (createParts d b).flatMap carriers = b.columns.flatMap (fun c => carriers (columnRow d b c)) ++
      b.columns.flatMap fun c => (emulatedCheckRows d b.table c).flatMap carriers := by
  have none_found {rows : List (List Piece)} (outer : ∀ row ∈ rows, OuterRow row) :
      rows.flatMap carriers = [] :=
    List.flatMap_eq_nil_iff.mpr fun row member => carriers_of_outer (outer row member)
  have key : (b.composite.map keyRow).toList.flatMap carriers = [] := by
    refine none_found fun row member => ?_
    obtain ⟨names, -, rfl⟩ := Option.map_eq_some_iff.mp (Option.mem_toList.mp member)
    exact outer_keyRow names
  have foreignKeys : (b.foreignKeys.map (foreignKeyRow b)).flatMap carriers = [] := by
    refine none_found fun row member => ?_
    obtain ⟨k, -, rfl⟩ := List.mem_map.mp member
    exact outer_foreignKeyRow b k
  have indexes : ((indexesOf b).map (indexRow d b.table)).flatMap carriers = [] := by
    refine none_found fun row member => ?_
    obtain ⟨i, -, rfl⟩ := List.mem_map.mp member
    exact outer_indexRow d b.table i
  have head := carriers_of_outer (outer_headRow d b.table)
  have options := carriers_of_outer (outer_tableOptionsRow d b.options)
  simp only [createParts, definitionRows, constraintRows, List.flatMap_append, List.flatMap_cons,
    head, options, key, foreignKeys, indexes, List.append_nil, List.nil_append, List.cons_append,
    List.flatMap_map, List.flatMap_assoc]

/-- Of what is found in columns, that which is for a column is found in it. -/
theorem filter_flatMap_own {columns : List Column} {found : Column → List Carrier}
    (distinct : (columns.map (·.name)).Nodup)
    (own : ∀ c ∈ columns, ∀ k ∈ found c, k.column = c.name) (member : c ∈ columns) :
    (columns.flatMap found).filter (·.column = c.name) = found c := by
  induction columns with
  | nil => cases member
  | cons first rest ih =>
    obtain ⟨new, distinct⟩ := List.nodup_cons.mp distinct
    obtain ⟨here, later⟩ := List.forall_mem_cons.mp own
    rw [List.flatMap_cons, List.filter_append]
    rcases List.mem_cons.mp member with rfl | inside
    · have all : (found c).filter (·.column = c.name) = found c :=
        List.filter_eq_self.mpr fun k known => by simpa using here k known
      have none : (rest.flatMap found).filter (·.column = c.name) = [] := by
        refine List.filter_eq_nil_iff.mpr fun k known => ?_
        obtain ⟨other, there, known⟩ := List.mem_flatMap.mp known
        have named := later other there k known
        simp only [decide_eq_true_eq]
        exact fun same => new (List.mem_map.mpr ⟨other, there, named.symm.trans same⟩)
      rw [all, none, List.append_nil]
    · have none : (found first).filter (·.column = c.name) = [] := by
        refine List.filter_eq_nil_iff.mpr fun k known => ?_
        have named := here k known
        simp only [decide_eq_true_eq]
        exact fun same => new (List.mem_map.mpr ⟨c, inside, same.symm.trans named⟩)
      rw [none, List.nil_append, ih distinct later inside]

end Ddl

namespace Blueprint

open Ddl

/-- The carriers of a column, among all that are found in the parts. -/
theorem WellFormed.carriers_eq (wf : b.WellFormed) (member : c ∈ b.columns) (d : Dialect) :
    ((createParts d b).flatMap carriers).filter (·.column = c.name) =
      carriers (columnRow d b c) ++ (emulatedCheckRows d b.table c).flatMap carriers := by
  have own := column_of_carriers d b
  rw [carriers_createParts, List.filter_append,
    filter_flatMap_own wf.distinct (fun c _ => (own c).1) member,
    filter_flatMap_own wf.distinct (fun c _ => (own c).2) member]

/-- Whatever steps lead to a definition that is written for a new table, and whichever of the known
styles its enumerations and sets have: a column of one of these types that has values is kept to
them by exactly one carrier, which has each of them once in the order of its declaration, written as
the style has it; a column of another type has none. The values are those that were declared
last. -/
theorem carriers_of_values {table : Value} {deletedAtColumn : String}
    (start : Blueprint.start table deletedAtColumn = .ok b) (steps : List BlueprintStep)
    {texts : List String} (created : ((b.run steps).compileCreate d).1 = .ok texts)
    (enums : d.enumStyle ∈ [.native, .inlineCheck, .namedConstraint])
    (sets : d.setStyle ∈ [.native, .array, .orEquals, .like, .regexp, .containing]) :
    let now := b.run steps
    texts = ((headRow d now.table ++ [plain " ("] ++ joined ", " (definitionRows d now) ++
        [plain ")"] ++ tableOptionsRow d now.options) ::
          (indexesOf now).map (indexRow d now.table)).map (statement d) ∧
    ∀ c ∈ now.columns,
      let own := ((createParts d now).flatMap carriers).filter (·.column = c.name)
      (c.type = some .enum ∨ c.type = some .set → c.values ≠ [] →
        (∃ place, own = [⟨place, c.name, c.values, writtenValues d c⟩]) ∧
          LastDeclared (history c.name (b.receivedIn steps)) c.values) ∧
      (c.type ≠ some .enum → c.type ≠ some .set → own = []) := by
  intro now
  have tracks := tracks_run start steps
  refine ⟨(create_eq_rows (lockOn_eq_ok.mp created).1).1, fun c member => ?_⟩
  intro own
  have found : own = _ := tracks.wf.carriers_eq member d
  refine ⟨fun kept declared => ⟨?_, tracks.lastDeclared member declared⟩, fun enum set => ?_⟩
  · obtain ⟨place, stands⟩ := Option.isSome_iff_exists.mp ((isSome_place?_iff enums sets).mpr kept)
    rw [carriers_of_column d now declared, stands] at found
    exact ⟨place, found⟩
  · rw [found]
    exact carriers_of_other d now ⟨enum, set⟩

/-- A set of two values, one of which is given twice, and has a sign in it that patterns use. -/
def topics : Blueprint :=
  Blueprint.run { table := "topics" }
    [.call (.column (.text "tags")),
      .call (.onColumn "tags" (.set [.text "a.b", .list [.text "c", .text "a.b"]]))]

theorem carriers_of_values_topics :
    Blueprint.start (.text "topics") "deleted_at" = .ok { table := "topics" } ∧
      ∃ texts place, (topics.compileCreate Dialect.oracle).1 = .ok texts ∧
        ((createParts Dialect.oracle topics).flatMap carriers).filter (·.column = "tags") =
          [⟨place, "tags", ["a.b", "c"], ["(a\\.b|c)"]⟩] := by
  have start : Blueprint.start (.text "topics") "deleted_at" = .ok { table := "topics" } := rfl
  obtain ⟨texts, created⟩ : ∃ texts, (topics.compileCreate Dialect.oracle).1 = .ok texts :=
    exists_of_isOk (by decide +kernel)
  have columns : topics.columns =
      [{ name := "tags", type := some .set, values := ["a.b", "c"] }] := rfl
  obtain ⟨-, each⟩ := carriers_of_values start _ created (by decide) (by decide)
  have member := columns ▸ List.mem_singleton_self _
  obtain ⟨⟨place, own⟩, -⟩ := (each _ member).1 (Or.inr rfl) (by simp)
  exact ⟨start, texts, place, created, own⟩

end Blueprint

end Sqlwright
