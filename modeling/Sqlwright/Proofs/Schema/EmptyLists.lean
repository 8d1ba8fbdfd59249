import Sqlwright.Proofs.Schema.Membership
import Sqlwright.Proofs.Schema.Values

/-!
Lists of values without a value in the statements of a table definition. A column whose type is an
enumeration or a set may have no values: the type can be given without them, and it stays when a
declaration of values is refused. Such a column is written all the same, with an empty list wherever
the database has its values in a list (`Blueprint.emptyLists_iff`).
-/

namespace Sqlwright

open Definition Piece Text

variable {d : Dialect} {b : Blueprint} {c : Column} {row : List Piece}

def listMarks : List String :=
  ["ENUM(", "SET(", " IN (", " <@ ARRAY[", "ARRAY[", " CHECK (", "CHECK ("]

namespace Piece

def closedAhead : List Piece → Option Unit
  | plain text :: _ => if text = ")" ∨ text = "]" then some () else none
  | _ => none

/-- The lists and checks of a row with nothing in them. -/
def emptyLists (row : List Piece) : List Unit := behind listMarks closedAhead row

end Piece

namespace Definition

/-- Whether the check of a column compares with one pattern. -/
def isPatterned (d : Dialect) (c : Column) : Bool := c.type = some .set ∧ d.setStyle = .regexp

/-- Whether the values of a column are written as a list, be it a type, an array, or comparisons
with OR between them. -/
def isListed (d : Dialect) (c : Column) : Bool :=
  isNative d c || isEmulated d c && !isPatterned d c

theorem isListed_iff : isListed d c = true ↔
    c.type = some .enum ∧ d.enumStyle ∈ [.native, .inlineCheck, .namedConstraint] ∨
      c.type = some .set ∧ d.setStyle ∈ [.native, .array, .orEquals, .like, .containing] := by
  rw [isListed, Bool.or_eq_true, Bool.and_eq_true, isEmulated_iff]
  simp only [isNative, isPatterned, decide_eq_true_eq, Bool.not_eq_true', decide_eq_false_iff_not,
    List.mem_cons, List.not_mem_nil, or_false]
  grind

def unlisted (c : Column) : List Unit := if c.values = [] then [()] else []

abbrev Empties (row : List Piece) (found : List Unit) : Prop :=
  Finds listMarks closedAhead row found

theorem empties_list {opening closing : String} (known : opening ∈ listMarks)
    (closes : closing ∈ [")", "]"]) (texts : List String) :
    Empties ([plain opening] ++ literalList texts ++ [plain closing])
      (if texts = [] then [()] else []) := by
  have quiet : ∀ closing ∈ [")", "]"], isMute listMarks (plain closing) = true := by decide
  have last : ∀ piece ∈ [plain closing], isMute listMarks piece = true :=
    List.forall_mem_singleton.mpr (quiet closing closes)
  cases texts with
  | nil =>
    have closed : closing = ")" ∨ closing = "]" := by simpa using closes
    exact .mark known (fun rest => if_pos closed) last
  | cons s others =>
    obtain ⟨tail, front⟩ : ∃ tail, literalList (s :: others) = literal s :: tail := by
      cases others <;> exact ⟨_, rfl⟩
    have inside : ∀ piece ∈ literalList (s :: others) ++ [plain closing],
        isMute listMarks piece = true :=
      List.forall_mem_append.mpr ⟨isMute_literalList (by decide) _, last⟩
    refine .unread (fun rest => ?_) (.mute inside)
    rw [front]
    rfl

theorem empties_label (table : String) (c : Column) :
    Empties [plain "CONSTRAINT ", name (constraintName "chk" table c.name)] [] :=
  .mute (by simp [isMute, listMarks])

/-- The empty lists of a check are those of its condition, if there is one. -/
theorem empties_check {table : String} {condition : List Piece} {found : List Unit}
    (reads : ∀ rest, closedAhead (condition ++ plain ")" :: rest) = none)
    (inside : Empties condition found) : Empties (namedCheckRow table c condition) found := by
  have last : Empties [plain ")"] [] := .mute (by decide)
  have whole := inside.append last
  rw [List.append_nil] at whole
  have marked : Empties (plain " CHECK (" :: (condition ++ [plain ")"])) found := by
    refine .unread (fun rest => ?_) whole
    rw [List.append_assoc]
    exact reads rest
  simpa [namedCheckRow] using (empties_label table c).append marked

theorem empties_compared {table keyword : String} (other : keyword ∉ listMarks)
    (pattern : String → String) :
    Empties (namedCheckRow table c (joined " OR "
      (c.values.map fun v => [name c.name, plain keyword, literal (pattern v)]))) (unlisted c) := by
  unfold unlisted
  split <;> rename_i declared
  · rw [declared]
    have last : ∀ piece ∈ [plain ")"], isMute listMarks piece = true := by decide
    exact (empties_label table c).append (.mark (by decide) (fun rest => rfl) last)
  · obtain ⟨v, others, values⟩ := List.exists_cons_of_ne_nil declared
    rw [values]
    refine empties_check (fun rest => ?_) (.mute ?_)
    · cases others <;> rfl
    · refine forall_joined (by decide) fun row member => ?_
      obtain ⟨v, -, rfl⟩ := List.mem_map.mp member
      simp [isMute, other]

/-- The check of a column is empty, or has an empty list, exactly if the column has no values. -/
theorem empties_condition (emulated : isEmulated d c = true) (table : String) :
    Empties (namedCheckRow table c (conditionRow d c))
      (if isPatterned d c then [] else unlisted c) := by
  have leading {opening closing : String} (known : opening ∈ listMarks)
      (closes : closing ∈ [")", "]"]) :
      Empties (namedCheckRow table c
          ([name c.name, plain opening] ++ literalList c.values ++ [plain closing]))
        (unlisted c) := by
    refine empties_check (fun rest => rfl) ?_
    have column : Empties [name c.name] [] := .mute (List.forall_mem_singleton.mpr rfl)
    exact column.append (empties_list known closes c.values)
  rcases isEmulated_iff.mp emulated with ⟨enum, -⟩ | ⟨set, style⟩
  · have plainly : isPatterned d c = false := by simp [isPatterned, enum]
    rw [conditionRow, if_pos enum, plainly]
    exact leading (by decide) (by decide)
  · have other : c.type ≠ some .enum := by simp [set]
    rw [conditionRow, if_neg other, setExpressionRow]
    simp only [List.mem_cons, List.not_mem_nil, or_false] at style
    rcases style with style | style | style | style | style <;>
      simp only [style, isPatterned, set, and_true, and_false, reduceCtorEq, decide_true,
        decide_false, if_true, Bool.false_eq_true, if_false]
    · exact leading (by decide) (by decide)
    · exact empties_compared (by decide) id
    · exact empties_compared (by decide) fun v => "%" ++ v ++ "%"
    · refine empties_check (fun rest => rfl) (.mute ?_)
      simp [isMute, listMarks]
    · exact empties_compared (by decide) id

theorem empties_default : Collected Empties (defaultRows d c) [] := by
  refine .empty fun row member => ?_
  obtain ⟨v, -, rfl⟩ := Option.map_eq_some_iff.mp (Option.mem_toList.mp member)
  have keyword : Empties [plain "DEFAULT "] [] := .mute (by decide)
  have single {piece : Piece} (h : isMute listMarks piece = true) : Empties [piece] [] :=
    .mute (List.forall_mem_singleton.mpr h)
  refine keyword.append ?_
  split
  · exact single rfl
  · rename_i s
    split
    · have present : splitOn ',' s ≠ [] := by simp [splitOn, pieces_ne_nil]
      simpa [present] using empties_list (by decide) (show "]" ∈ [")", "]"] by decide)
        (splitOn ',' s)
    · exact single rfl
  · exact single rfl
  · exact single rfl
  · exact single rfl
  · exact single rfl
  · exact .nil

theorem empties_checkRows : Collected Empties (checkRows d c) [] := by
  refine .empty fun row member => ?_
  rcases mem_checkRows member with rfl | ⟨expression, -, rfl⟩
  · exact .unread (fun rest => rfl) (.mute (by simp [isMute, listMarks]))
  · exact .unread (fun rest => rfl) (.mute (by simp [isMute, listMarks]))

def emptyInType (d : Dialect) (c : Column) : List Unit :=
  if isNative d c then unlisted c
  else if checkedInType d c then if isPatterned d c then [] else unlisted c
  else []

def emptyBehind (d : Dialect) (c : Column) : List Unit :=
  if checkedBehind d c then if isPatterned d c then [] else unlisted c else []

theorem empties_columnRow : Empties (columnRow d b c) (emptyInType d c) := by
  have native : ∀ keyword ∈ ["ENUM(", "SET("],
      Empties ([plain keyword] ++ literalList c.values ++ [plain ")"]) (unlisted c) :=
    fun keyword known => empties_list ((by decide : ["ENUM(", "SET("] ⊆ listMarks) known)
      (by decide) c.values
  have check (here : checkedInType d c = true) :=
    empties_condition (d := d) (c := c) (by simp [isEmulated, here]) b.table
  have typed := finds_typeRow (by decide) (fun _ => native) check
  have all := finds_framed (by decide) typed empties_default empties_checkRows
  rwa [List.append_nil, List.append_nil] at all

theorem empties_emulatedCheckRows (table : String) :
    Collected Empties (emulatedCheckRows d table c) (emptyBehind d c) :=
  finds_emulatedCheckRows fun here => empties_condition (by simp [isEmulated, here]) table

/-- A column has an empty list exactly if it has no values and a type that lists them. -/
theorem empty_iff : emptyInType d c ≠ [] ∨ emptyBehind d c ≠ [] ↔
    c.values = [] ∧ isListed d c = true := by
  have one : unlisted c ≠ [] ↔ c.values = [] := by simp [unlisted]
  unfold emptyInType emptyBehind isListed isEmulated
  cases native : isNative d c <;> cases inType : checkedInType d c <;>
    cases behind : checkedBehind d c <;> cases patterned : isPatterned d c <;> simp [one]

end Definition

namespace Blueprint

theorem flatMap_empties {rows : List (List Piece)}
    (h : Collected Empties rows (b.columns.flatMap (emptyInType d) ++
      b.columns.flatMap (emptyBehind d))) :
    rows.flatMap emptyLists ≠ [] ↔ ∃ c ∈ b.columns, c.values = [] ∧ isListed d c = true := by
  have found : rows.flatMap emptyLists = _ := Finds.flatMap_behind h
  have some_empty (empty : Column → List Unit) :
      b.columns.flatMap empty ≠ [] ↔ ∃ c ∈ b.columns, empty c ≠ [] := by simp
  rw [found, ne_eq, List.append_eq_nil_iff, not_and_or, ← ne_eq, ← ne_eq, some_empty, some_empty]
  constructor
  · rintro (⟨c, member, here⟩ | ⟨c, member, here⟩)
    · exact ⟨c, member, empty_iff.mp (Or.inl here)⟩
    · exact ⟨c, member, empty_iff.mp (Or.inr here)⟩
  · rintro ⟨c, member, empty⟩
    exact (empty_iff.mpr empty).imp (fun here => ⟨c, member, here⟩) fun here => ⟨c, member, here⟩

/-- Whatever steps are taken, the values of a column are pairwise different, and there are none
exactly if no declaration of values that declares any has reached the column, whatever its type is.
What is written of the definition has a list or a check with nothing in it exactly if a column
without values has its values written as a list. -/
theorem emptyLists_iff {table : Value} {deletedAtColumn : String}
    (start : Blueprint.start table deletedAtColumn = .ok b) (steps : List BlueprintStep) :
    let now := b.run steps
    (∀ c ∈ now.columns, c.values.Nodup ∧ (c.values = [] ↔
      ∀ call ∈ history c.name (b.receivedIn steps), ∀ values, ¬ call.Declares values)) ∧
    ∀ d texts,
      ((now.compileCreate d).1 = .ok texts → texts = (Ddl.createRows d now).map (Ddl.statement d) ∧
        ((Ddl.createRows d now).flatMap emptyLists ≠ [] ↔
          ∃ c ∈ now.columns, c.values = [] ∧ isListed d c = true)) ∧
      ((now.compileAdd d).1 = .ok texts → texts = (Ddl.addRows d now).map (Ddl.statement d) ∧
        ((Ddl.addRows d now).flatMap emptyLists ≠ [] ↔
          ∃ c ∈ now.columns, c.values = [] ∧ isListed d c = true)) := by
  intro now
  have tracks := tracks_run start steps
  have quiet : ∀ text ∈ Ddl.outerPhrases, text ∉ listMarks := by decide
  have behind (d : Dialect) : ∀ c ∈ now.columns,
      Collected Empties (emulatedCheckRows d now.table c) (emptyBehind d c) :=
    fun c _ => empties_emulatedCheckRows now.table
  refine ⟨fun c member => ⟨tracks.nodup_values member, tracks.values_eq_nil_iff member⟩, ?_⟩
  refine fun d texts => ⟨fun created => ⟨(Ddl.create_eq_rows (lockOn_eq_ok.mp created).1).1, ?_⟩,
    fun added => ⟨(Ddl.add_eq_rows (lockOn_eq_ok.mp added).1).1, ?_⟩⟩
  · exact flatMap_empties (Ddl.collected_createRows quiet (fun c _ => empties_columnRow) (behind d))
  · exact flatMap_empties (Ddl.collected_addRows quiet (fun c _ => empties_columnRow) (behind d))

/-- A column whose values are given twice over, the second time without any. -/
def tasks : Blueprint :=
  Blueprint.run { table := "tasks" }
    [.call (.column (.text "state")),
      .call (.onColumn "state" (.enum [.text "open", .text "done"])),
      .call (.onColumn "state" (.set []))]

theorem emptyLists_iff_tasks :
    Blueprint.start (.text "tasks") "deleted_at" = .ok { table := "tasks" } ∧
      ∃ texts, (tasks.compileCreate Dialect.pgsql).1 = .ok texts ∧
        (Ddl.createRows Dialect.pgsql tasks).flatMap emptyLists = [] := by
  have start : Blueprint.start (.text "tasks") "deleted_at" = .ok { table := "tasks" } := rfl
  obtain ⟨texts, created⟩ : ∃ texts, (tasks.compileCreate Dialect.pgsql).1 = .ok texts :=
    exists_of_isOk (by decide +kernel)
  have told := (((emptyLists_iff start _).2 Dialect.pgsql texts).1 created).2
  have columns : tasks.columns =
      [{ name := "state", type := some .set, values := ["open", "done"] }] := rfl
  refine ⟨start, texts, created, ?_⟩
  by_contra some_empty
  obtain ⟨c, member, empty, -⟩ := told.mp some_empty
  have listed : c ∈ tasks.columns := member
  rw [columns, List.mem_singleton] at listed
  rw [listed] at empty
  cases empty

/-- An enumeration that was only given its type, and a set whose values are refused. -/
def jobs : Blueprint :=
  Blueprint.run { table := "jobs" }
    [.call (.column (.text "state")), .call (.onColumn "state" (.typedAs (.text "enum") .null)),
      .call (.column (.text "tags")), .call (.onColumn "tags" (.set []))]

/-- A column may have the type of an enumeration or a set and no values, and is written so. -/
theorem empty_values_jobs :
    jobs.Reachable ∧
      jobs.columns =
        [{ name := "state", type := some .enum }, { name := "tags", type := some .set }] ∧
      (jobs.compileCreate Dialect.mysql).1 = .ok
        ["CREATE TABLE IF NOT EXISTS `jobs` (`state` ENUM() NOT NULL, `tags` SET() NOT NULL);"] := by
  refine ⟨?_, rfl, by rfl⟩
  exact (Reachable.start (show Blueprint.start (.text "jobs") "deleted_at" = _ from rfl)).run _

end Blueprint

end Sqlwright
