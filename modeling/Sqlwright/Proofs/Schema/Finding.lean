import Sqlwright.Proofs.Schema.Rows

/-!
What stands behind the marks of a row. A reading goes through a row and takes what it can read
behind each of its marks (`Piece.behind`). A row whose findings are the same whatever stands behind
it (`Piece.Finds`) can be put beside others, so that the findings in a column are those in its type
and those in its default (`Definition.finds_columnRow`).
-/

namespace Sqlwright

open Piece Text

variable {d : Dialect} {b : Blueprint} {c : Column} {α β : Type}

/-- Items in which these are found all together, where each item is looked at for itself. -/
def Collected (P : β → List α → Prop) (items : List β) (found : List α) : Prop :=
  ∃ each, List.Forall₂ P items each ∧ each.flatten = found

namespace Collected

variable {P : β → List α → Prop} {items others : List β} {found more : List α}

theorem nil : Collected P [] [] := ⟨[], .nil, rfl⟩

theorem single {item : β} (h : P item found) : Collected P [item] found :=
  ⟨[found], .cons h .nil, List.flatten_singleton⟩

theorem append (h : Collected P items found) (hothers : Collected P others more) :
    Collected P (items ++ others) (found ++ more) := by
  obtain ⟨each, here, rfl⟩ := h
  obtain ⟨each', there, rfl⟩ := hothers
  exact ⟨each ++ each', List.rel_append here there, List.flatten_append⟩

theorem empty (h : ∀ item ∈ items, P item []) : Collected P items [] := by
  induction items with
  | nil => exact nil
  | cons item rest ih =>
    obtain ⟨here, later⟩ := List.forall_mem_cons.mp h
    exact append (single here) (ih later)

theorem flatMap {γ : Type} {sources : List γ} {itemsOf : γ → List β} {foundIn : γ → List α}
    (each : ∀ source ∈ sources, Collected P (itemsOf source) (foundIn source)) :
    Collected P (sources.flatMap itemsOf) (sources.flatMap foundIn) := by
  induction sources with
  | nil => exact nil
  | cons source rest ih =>
    obtain ⟨here, later⟩ := List.forall_mem_cons.mp each
    exact append here (ih later)

theorem map {γ : Type} {sources : List γ} {itemOf : γ → β} {foundIn : γ → List α}
    (each : ∀ source ∈ sources, P (itemOf source) (foundIn source)) :
    Collected P (sources.map itemOf) (sources.flatMap foundIn) := by
  rw [List.map_eq_flatMap]
  exact flatMap fun source member => single (each source member)

/-- What is put around items without findings of its own leaves the findings as they are. -/
theorem around (h : Collected P items found) {frame : β → β}
    (same : ∀ item found, P item found → P (frame item) found) :
    Collected P (items.map frame) found := by
  obtain ⟨each, collected, rfl⟩ := h
  exact ⟨each, List.forall₂_map_left_iff.mpr (collected.imp fun item found => same item found), rfl⟩

end Collected

namespace Piece

/-- What is read behind each of these marks. -/
def behind (marks : List String) (read : List Piece → Option α) : List Piece → List α
  | [] => []
  | plain text :: rest =>
    (if text ∈ marks then (read rest).toList else []) ++ behind marks read rest
  | _ :: rest => behind marks read rest

/-- Whether a piece is none of these marks. -/
def isMute (marks : List String) : Piece → Bool
  | plain text => text ∉ marks
  | _ => true

/-- A row with these findings, whatever stands behind it. -/
def Finds (marks : List String) (read : List Piece → Option α) (row : List Piece)
    (found : List α) : Prop :=
  ∀ rest, behind marks read (row ++ rest) = found ++ behind marks read rest

namespace Finds

variable {marks : List String} {read : List Piece → Option α} {row next : List Piece}
  {rows : List (List Piece)} {found more : List α}

theorem nil : Finds marks read [] [] := fun _ => rfl

theorem append (h : Finds marks read row found) (hnext : Finds marks read next more) :
    Finds marks read (row ++ next) (found ++ more) := by
  intro rest
  rw [List.append_assoc, h, hnext, List.append_assoc]

theorem behind_eq (h : Finds marks read row found) : behind marks read row = found := by
  have whole := h []
  rwa [List.append_nil, behind, List.append_nil] at whole

/-- Where no piece is a mark nothing is found. -/
theorem mute (h : ∀ piece ∈ row, isMute marks piece = true) : Finds marks read row [] := by
  intro rest
  induction row with
  | nil => rfl
  | cons piece others ih =>
    obtain ⟨here, later⟩ := List.forall_mem_cons.mp h
    cases piece with
    | plain text =>
      have other : text ∉ marks := by simpa [isMute] using here
      rw [List.cons_append, behind, if_neg other]
      exact ih later
    | name | word | literal | free => exact ih later

/-- What can be read behind a mark is found there, before what is found in the rest. -/
theorem markOver {text : String} {item : Option α} (h : text ∈ marks)
    (reads : ∀ rest, read (row ++ rest) = item) (inside : Finds marks read row found) :
    Finds marks read (plain text :: row) (item.toList ++ found) := by
  intro rest
  rw [List.cons_append, behind, if_pos h, reads, inside, List.append_assoc]

/-- Where nothing can be read behind it, a phrase adds nothing to what is found in the rest. -/
theorem unread {text : String} (reads : ∀ rest, read (row ++ rest) = none)
    (inside : Finds marks read row found) : Finds marks read (plain text :: row) found := by
  intro rest
  rw [List.cons_append, behind, reads, inside]
  split <;> rfl

/-- What can be read behind a mark is found there. -/
theorem mark {text : String} {item : α} (h : text ∈ marks)
    (reads : ∀ rest, read (row ++ rest) = some item)
    (quiet : ∀ piece ∈ row, isMute marks piece = true) :
    Finds marks read (plain text :: row) [item] := markOver h reads (mute quiet)

/-- What separates rows is no mark, and so it hides nothing. -/
theorem joined {separator : String} (other : separator ∉ marks)
    (h : Collected (Finds marks read) rows found) :
    Finds marks read (Piece.joined separator rows) found := by
  have between : Finds marks read [plain separator] [] :=
    mute (List.forall_mem_singleton.mpr (by simpa [isMute] using other))
  obtain ⟨each, collected, rfl⟩ := h
  induction collected with
  | nil => exact nil
  | @cons row found rest others here later ih =>
    cases rest with
    | nil =>
      cases later
      simpa [Piece.joined] using here
    | cons next more => exact here.append (between.append ih)

/-- The findings in rows are those in each of them. -/
theorem flatMap_behind (h : Collected (Finds marks read) rows found) :
    rows.flatMap (behind marks read) = found := by
  obtain ⟨each, collected, rfl⟩ := h
  induction collected with
  | nil => rfl
  | cons here _ ih => rw [List.flatMap_cons, here.behind_eq, ih, List.flatten_cons]

end Finds

end Piece

namespace Definition

def conditionRow (d : Dialect) (c : Column) : List Piece :=
  if c.type = some .enum then enumExpressionRow c else setExpressionRow d c

def isNative (d : Dialect) (c : Column) : Bool :=
  c.type = some .enum ∧ d.enumStyle = .native ∨ c.type = some .set ∧ d.setStyle = .native

def checkedInType (d : Dialect) (c : Column) : Bool :=
  c.type = some .enum ∧ d.enumStyle = .inlineCheck ∨
    c.type = some .set ∧ (d.setStyle = .array ∨ d.setStyle = .orEquals)

def checkedBehind (d : Dialect) (c : Column) : Bool :=
  c.type = some .enum ∧ d.enumStyle = .namedConstraint ∨
    c.type = some .set ∧ (d.setStyle = .like ∨ d.setStyle = .regexp ∨ d.setStyle = .containing)

/-- A type of the database needs no check. -/
theorem not_checked_of_native (h : isNative d c = true) :
    checkedInType d c = false ∧ checkedBehind d c = false := by
  rw [isNative, decide_eq_true_eq] at h
  rw [checkedInType, checkedBehind, decide_eq_false_iff_not, decide_eq_false_iff_not]
  rcases h with ⟨enum, style⟩ | ⟨set, style⟩ <;> simp [*]

/-- No column has its check at both places. -/
theorem not_checkedBehind (h : checkedInType d c = true) : checkedBehind d c = false := by
  rw [checkedInType, decide_eq_true_eq] at h
  rw [checkedBehind, decide_eq_false_iff_not]
  rcases h with ⟨enum, style⟩ | ⟨set, style | style⟩ <;> simp [*]

theorem inExpression_condition : ∀ piece ∈ conditionRow d c, InExpression piece := by
  unfold conditionRow
  split
  · exact inExpression_enum
  · exact inExpression_set

/-- An expression holds no mark that is not a phrase of expressions. -/
theorem isMute_of_inExpression {marks : List String} {piece : Piece}
    (quiet : ∀ text ∈ expressionPhrases, text ∉ marks) (h : InExpression piece) :
    isMute marks piece = true := by
  cases h with
  | phrase listed => simpa [isMute] using quiet _ listed
  | name | literal => rfl

section Check

variable {marks : List String} {read : List Piece → Option α}

/-- Nothing is found in the check of an enumeration or a set if nothing in it is a mark. -/
theorem finds_muteCheck (quiet : ∀ text ∈ "CONSTRAINT " :: " CHECK (" :: expressionPhrases,
    text ∉ marks) (table : String) :
    Finds marks read (namedCheckRow table c (conditionRow d c)) [] := by
  simp only [List.forall_mem_cons] at quiet
  obtain ⟨label, opening, phrases⟩ := quiet
  have closing : isMute marks (plain ")") = true := by
    simpa [isMute] using phrases ")" (by simp [expressionPhrases])
  refine .mute (List.forall_mem_append.mpr ⟨List.forall_mem_append.mpr ⟨?_, ?_⟩, ?_⟩)
  · simp [isMute, label, opening]
  · exact fun piece member => isMute_of_inExpression phrases (inExpression_condition piece member)
  · exact List.forall_mem_singleton.mpr closing

/-- What is read of its condition is found in the check of an enumeration or a set. -/
theorem finds_readCheck {item : Option α}
    (reads : ∀ rest, read (conditionRow d c ++ plain ")" :: rest) = item) (table : String) :
    Finds [" CHECK ("] read (namedCheckRow table c (conditionRow d c)) item.toList := by
  have opening : Finds [" CHECK ("] read
      [plain "CONSTRAINT ", name (constraintName "chk" table c.name)] [] := .mute (by simp [isMute])
  have quiet : ∀ piece ∈ conditionRow d c ++ [plain ")"], isMute [" CHECK ("] piece = true := by
    refine List.forall_mem_append.mpr ⟨fun piece member => ?_, by decide⟩
    exact isMute_of_inExpression (by decide) (inExpression_condition piece member)
  have marked : Finds [" CHECK ("] read (plain " CHECK (" :: (conditionRow d c ++ [plain ")"]))
      (item.toList ++ []) := by
    refine .markOver (by decide) (fun rest => ?_) (.mute quiet)
    rw [List.append_assoc]
    exact reads rest
  rw [List.append_nil] at marked
  exact opening.append marked

end Check

theorem isMute_literalList {marks : List String} (comma : "," ∉ marks) (texts : List String) :
    ∀ piece ∈ literalList texts, isMute marks piece = true := by
  have separator : isMute marks (plain ",") = true := by simpa [isMute] using comma
  refine forall_joined separator fun row member => ?_
  obtain ⟨text, -, rfl⟩ := List.mem_map.mp member
  exact List.forall_mem_singleton.mpr rfl

def defaultRows (d : Dialect) (c : Column) : List (List Piece) :=
  (c.effectiveDefault.map fun v => plain "DEFAULT " :: defaultRow d c v).toList

def defaultPhrases : List String := ["ARRAY[", ",", "]"]

theorem isMute_defaultRow {marks : List String} (quiet : ∀ text ∈ defaultPhrases, text ∉ marks)
    (v : Value) : ∀ piece ∈ defaultRow d c v, isMute marks piece = true := by
  have phrase {text : String} (h : text ∈ defaultPhrases) :
      isMute marks (plain text) = true := by simpa [isMute] using quiet text h
  have single {piece : Piece} (h : isMute marks piece = true) :
      ∀ other ∈ [piece], isMute marks other = true := List.forall_mem_singleton.mpr h
  unfold defaultRow
  split
  · exact single rfl
  · split
    · simp only [List.forall_mem_append, List.forall_mem_singleton]
      exact ⟨⟨phrase (by simp [defaultPhrases]),
        isMute_literalList (quiet "," (by simp [defaultPhrases])) _⟩,
        phrase (by simp [defaultPhrases])⟩
    · exact single rfl
  · exact single rfl
  · exact single rfl
  · exact single rfl
  · exact single rfl
  · exact nofun

/-- Nothing is found in a default if the word before it is no mark. -/
theorem collected_defaultRows {marks : List String} {read : List Piece → Option α}
    (quiet : ∀ text ∈ "DEFAULT " :: defaultPhrases, text ∉ marks) :
    Collected (Finds marks read) (defaultRows d c) [] := by
  obtain ⟨keyword, phrases⟩ := List.forall_mem_cons.mp quiet
  refine .empty fun row member => .mute ?_
  obtain ⟨v, -, rfl⟩ := Option.map_eq_some_iff.mp (Option.mem_toList.mp member)
  exact List.forall_mem_cons.mpr ⟨by simpa [isMute] using keyword, isMute_defaultRow phrases v⟩

def framePhrases : List String :=
  [" ", "UNSIGNED", "NOT NULL", "NULL", "PRIMARY KEY", "COMMENT "]

def checkPhrases : List String := ["CHECK (", " >= 0)", ")"]

def columnPhrases : List String :=
  ["ENUM(", "SET(", ",", ")", " ", "UNSIGNED", "NOT NULL", "NULL", "PRIMARY KEY", "COMMENT ",
    "CHECK (", " >= 0)"]

section Columns

variable {marks : List String} {read : List Piece → Option α} {found given own more : List α}
  {table : String}

/-- The findings in a type are those in the list of its values or those in its check. -/
theorem finds_typeRow (blank : " " ∉ marks)
    (native : isNative d c = true → ∀ keyword ∈ ["ENUM(", "SET("],
      Finds marks read ([plain keyword] ++ literalList c.values ++ [plain ")"]) own)
    (check : checkedInType d c = true →
      Finds marks read (namedCheckRow table c (conditionRow d c)) found) :
    Finds marks read (typeRow d table c)
      (if isNative d c then own else if checkedInType d c then found else []) := by
  have base (type : ColumnType) :
      Finds marks read [word ((d.types type).render c.size)] [] :=
    .mute (List.forall_mem_singleton.mpr rfl)
  have space : Finds marks read [plain " "] [] :=
    .mute (List.forall_mem_singleton.mpr (by simpa [isMute] using blank))
  have checked (type : ColumnType) (h : checkedInType d c = true) : Finds marks read
      ([word ((d.types type).render c.size), plain " "] ++
        namedCheckRow table c (conditionRow d c)) found :=
    ((base type).append space).append (check h)
  unfold typeRow
  split <;> rename_i typed
  · simpa [isNative, checkedInType, typed] using Finds.nil
  · unfold enumTypeRow
    dsimp only
    split
    · rename_i style
      have here : isNative d c = true := by simp [isNative, typed, style]
      simpa [here] using native here "ENUM(" (by simp)
    · rename_i style
      have here : checkedInType d c = true := by simp [checkedInType, typed, style]
      simpa [isNative, here, typed, style, conditionRow] using checked .enum here
    · rename_i other inline
      have neither : d.enumStyle ≠ .native ∧ d.enumStyle ≠ .inlineCheck := ⟨other, inline⟩
      simpa [isNative, checkedInType, typed, neither] using base .enum
  · unfold setTypeRow
    dsimp only
    split
    · rename_i style
      have here : isNative d c = true := by simp [isNative, typed, style]
      simpa [here] using native here "SET(" (by simp)
    · rename_i style
      have here : checkedInType d c = true := by simp [checkedInType, typed, style]
      simpa [isNative, here, typed, style, conditionRow] using checked .set here
    · rename_i style
      have here : checkedInType d c = true := by simp [checkedInType, typed, style]
      simpa [isNative, here, typed, style, conditionRow] using checked .set here
    · rename_i other array equals
      have none : d.setStyle ≠ .native ∧ d.setStyle ≠ .array ∧ d.setStyle ≠ .orEquals :=
        ⟨other, array, equals⟩
      simpa [isNative, checkedInType, typed, none] using base .set
  · rename_i type enum set
    have enum' : type ≠ .enum := enum
    have set' : type ≠ .set := set
    simp only [isNative, checkedInType, typed, Option.some.injEq, enum', set', false_and, or_self,
      decide_false, Bool.false_eq_true, if_false]
    split
    · exact .mute (List.forall_mem_singleton.mpr (by rfl))
    · exact base _

theorem finds_emulatedCheckRows
    (check : checkedBehind d c = true →
      Finds marks read (namedCheckRow table c (conditionRow d c)) found) :
    Collected (Finds marks read) (emulatedCheckRows d table c)
      (if checkedBehind d c then found else []) := by
  unfold emulatedCheckRows
  split
  · rename_i typed
    split <;> rename_i style
    · have here : checkedBehind d c = true := by simp [checkedBehind, typed, style]
      simpa [here, typed, conditionRow] using Collected.single (check here)
    · simpa [checkedBehind, typed, style] using Collected.nil
  · rename_i typed
    have written (here : checkedBehind d c = true) :
        Collected (Finds marks read) [namedCheckRow table c (setExpressionRow d c)]
          (if checkedBehind d c then found else []) := by
      simpa [here, typed, conditionRow] using Collected.single (check here)
    split
    · rename_i style
      exact written (by simp [checkedBehind, typed, style])
    · rename_i style
      exact written (by simp [checkedBehind, typed, style])
    · rename_i style
      exact written (by simp [checkedBehind, typed, style])
    · rename_i like regexp containing
      have none : d.setStyle ≠ .like ∧ d.setStyle ≠ .regexp ∧ d.setStyle ≠ .containing :=
        ⟨like, regexp, containing⟩
      simpa [checkedBehind, typed, none] using Collected.nil
  · rename_i enum set
    have other : c.type ≠ some .enum ∧ c.type ≠ some .set := ⟨enum, set⟩
    simpa [checkedBehind, other] using Collected.nil

/-- Nothing is found in the checks that are not for the values of a column. -/
theorem collected_checkRows (quiet : ∀ text ∈ checkPhrases, text ∉ marks) :
    Collected (Finds marks read) (checkRows d c) [] := by
  have phrase {text : String} (h : text ∈ checkPhrases) :
      isMute marks (plain text) = true := by simpa [isMute] using quiet text h
  refine .empty fun row member => .mute ?_
  rcases mem_checkRows member with rfl | ⟨expression, -, rfl⟩
  · simp only [List.forall_mem_cons]
    exact ⟨phrase (by simp [checkPhrases]), rfl, phrase (by simp [checkPhrases]), nofun⟩
  · simp only [List.forall_mem_cons]
    exact ⟨phrase (by simp [checkPhrases]), rfl, phrase (by simp [checkPhrases]), nofun⟩

section Frame

variable (frame : ∀ text ∈ framePhrases, text ∉ marks)

include frame

theorem isMute_frame {text : String} (h : text ∈ framePhrases) :
    isMute marks (plain text) = true := by simpa [isMute] using frame text h

theorem finds_frontRows (default : Collected (Finds marks read) (defaultRows d c) given) :
    Collected (Finds marks read) (frontRows d b c) given := by
  have phrase {text : String} (h : text ∈ framePhrases) :
      Collected (Finds marks read) [[plain text]] [] :=
    .single (.mute (List.forall_mem_singleton.mpr (isMute_frame frame h)))
  have unsigned : Collected (Finds marks read)
      (if c.unsigned && d.can .unsigned then [[plain "UNSIGNED"]] else []) [] := by
    split
    · exact phrase (by simp [framePhrases])
    · exact .nil
  have null : Collected (Finds marks read)
      (if !c.nullable b.composite then [[plain "NOT NULL"]]
        else if d.can .explicitNull then [[plain "NULL"]] else []) [] := by
    split
    · exact phrase (by simp [framePhrases])
    · split
      · exact phrase (by simp [framePhrases])
      · exact .nil
  have counter : Collected (Finds marks read)
      (if c.auto && !d.autoIncrement.isEmpty then [[word d.autoIncrement]] else []) [] := by
    split
    · exact .single (.mute (List.forall_mem_singleton.mpr rfl))
    · exact .nil
  have parts := ((unsigned.append default).append null).append counter
  rw [List.nil_append, List.append_nil, List.append_nil, defaultRows] at parts
  unfold frontRows
  cases given_default : c.effectiveDefault <;> rw [given_default] at parts <;> exact parts

/-- The findings in a column are those in its type, its default and its checks. -/
theorem finds_framed (typed : Finds marks read (typeRow d b.table c) found)
    (default : Collected (Finds marks read) (defaultRows d c) given)
    (checks : Collected (Finds marks read) (checkRows d c) more) :
    Finds marks read (columnRow d b c) (found ++ given ++ more) := by
  have phrase {text : String} (h : text ∈ framePhrases) :
      isMute marks (plain text) = true := isMute_frame frame h
  have named : Collected (Finds marks read) [[name c.name]] [] :=
    .single (.mute (List.forall_mem_singleton.mpr rfl))
  have key : Collected (Finds marks read) (keyRows c) [] := by
    refine .empty fun row member => .mute ?_
    obtain rfl := mem_keyRows member
    exact List.forall_mem_singleton.mpr (phrase (by simp [framePhrases]))
  have comment : Collected (Finds marks read) (commentRows d c) [] := by
    refine .empty fun row member => .mute ?_
    obtain ⟨text, rfl⟩ := mem_commentRows member
    exact List.forall_mem_cons.mpr
      ⟨phrase (by simp [framePhrases]), List.forall_mem_singleton.mpr rfl⟩
  have front := finds_frontRows (b := b) frame default
  have all := ((((named.append (.single typed)).append front).append key).append comment).append
    checks
  simp only [List.nil_append, List.append_nil] at all
  exact .joined (frame " " (by simp [framePhrases])) all

end Frame

/-- The findings in a column are those in its type and those behind the word before its default. -/
theorem finds_columnRow (quiet : ∀ text ∈ columnPhrases, text ∉ marks)
    (check : checkedInType d c = true →
      Finds marks read (namedCheckRow b.table c (conditionRow d c)) found)
    (default : Collected (Finds marks read) (defaultRows d c) given) :
    Finds marks read (columnRow d b c)
      ((if checkedInType d c then found else []) ++ given) := by
  have phrase {text : String} (h : text ∈ columnPhrases) :
      isMute marks (plain text) = true := by simpa [isMute] using quiet text h
  have frame : ∀ text ∈ framePhrases, text ∉ marks := fun text inside =>
    quiet text ((by decide : framePhrases ⊆ columnPhrases) inside)
  have native : ∀ keyword ∈ ["ENUM(", "SET("],
      Finds marks read ([plain keyword] ++ literalList c.values ++ [plain ")"]) [] := by
    intro keyword known
    have listed : keyword ∈ columnPhrases :=
      (by decide : ["ENUM(", "SET("] ⊆ columnPhrases) known
    refine .mute (List.forall_mem_append.mpr ⟨List.forall_mem_append.mpr ⟨?_, ?_⟩, ?_⟩)
    · exact List.forall_mem_singleton.mpr (phrase listed)
    · exact isMute_literalList (quiet "," (by simp [columnPhrases])) _
    · exact List.forall_mem_singleton.mpr (phrase (by simp [columnPhrases]))
  have checks : Collected (Finds marks read) (checkRows d c) [] :=
    collected_checkRows fun text inside =>
      quiet text ((by decide : checkPhrases ⊆ columnPhrases) inside)
  have typed := finds_typeRow (frame " " (by simp [framePhrases])) (fun _ => native) check
  have once : (if isNative d c then [] else if checkedInType d c then found else []) =
      if checkedInType d c then found else [] := by
    cases h : isNative d c with
    | true => simp [not_checked_of_native h]
    | false => rfl
  rw [once] at typed
  have all := finds_framed frame typed default checks
  rwa [List.append_nil] at all

end Columns

end Definition

namespace Ddl

def outerPhrases : List String :=
  [" ", " (", ", ", ")", "CREATE TABLE IF NOT EXISTS ",
    "IF NOT EXISTS (SELECT * FROM sysobjects WHERE name = ", " AND xtype = ", ") CREATE TABLE ",
    "CREATE TABLE ", "PRIMARY KEY (", "CONSTRAINT ", " FOREIGN KEY (", ") REFERENCES ",
    " ON DELETE CASCADE", " ON DELETE SET NULL", " ON DELETE SET DEFAULT", " ON DELETE RESTRICT",
    " ON DELETE NO ACTION", " ON UPDATE CASCADE", " ON UPDATE SET NULL", " ON UPDATE SET DEFAULT",
    " ON UPDATE RESTRICT", " ON UPDATE NO ACTION", "CREATE UNIQUE INDEX ",
    "CREATE UNIQUE INDEX IF NOT EXISTS ", "CREATE INDEX ", "CREATE INDEX IF NOT EXISTS ", " ON ",
    "ALTER TABLE ", "ADD "]

inductive Outer : Piece → Prop
  | phrase {text : String} (h : text ∈ outerPhrases) : Outer (plain text)
  | word (text : String) : Outer (word text)
  | name (text : String) : Outer (name text)
  | literal (text : String) : Outer (literal text)

abbrev OuterRow (row : List Piece) : Prop := ∀ piece ∈ row, Outer piece

section Outer

theorem OuterRow.append {row next : List Piece} (h : OuterRow row) (hnext : OuterRow next) :
    OuterRow (row ++ next) := List.forall_mem_append.mpr ⟨h, hnext⟩

theorem OuterRow.phrase {text : String} (h : text ∈ outerPhrases) : OuterRow [plain text] :=
  List.forall_mem_singleton.mpr (.phrase h)

theorem OuterRow.headed {text : String} (h : text ∈ outerPhrases) (label : String) :
    OuterRow [plain text, name label] :=
  List.forall_mem_cons.mpr ⟨.phrase h, List.forall_mem_singleton.mpr (.name label)⟩

theorem outer_nameList (names : List String) : OuterRow (nameList names) := by
  refine forall_joined (.phrase (by simp [outerPhrases])) fun row member => ?_
  obtain ⟨text, -, rfl⟩ := List.mem_map.mp member
  exact List.forall_mem_singleton.mpr (.name text)

theorem outer_keyRow (names : List String) : OuterRow (keyRow names) :=
  ((OuterRow.phrase (by simp [outerPhrases])).append (outer_nameList names)).append
    (.phrase (by simp [outerPhrases]))

theorem outer_namedKeyRow (table : String) (names : List String) :
    OuterRow (namedKeyRow table names) :=
  ((OuterRow.headed (by simp [outerPhrases]) _).append (.phrase (by simp [outerPhrases]))).append
    (outer_keyRow names)

theorem outer_foreignKeyRow (b : Blueprint) (k : ForeignKey) :
    OuterRow (Definition.foreignKeyRow b k) := by
  have target : OuterRow [plain ") REFERENCES ", name (k.table.getD ""), plain " ("] :=
    (OuterRow.headed (by simp [outerPhrases]) _).append (.phrase (by simp [outerPhrases]))
  have closing : OuterRow [plain ")"] := .phrase (by simp [outerPhrases])
  have opening : OuterRow [plain " FOREIGN KEY ("] := .phrase (by simp [outerPhrases])
  have action {keyword : String} (known : keyword ∈ [" ON DELETE ", " ON UPDATE "])
      (action : Option ForeignKeyAction) :
      OuterRow (action.map fun a => plain (keyword ++ a.sql)).toList := by
    cases action with
    | none => exact nofun
    | some a =>
      have each : ∀ keyword ∈ [" ON DELETE ", " ON UPDATE "],
          keyword ++ a.sql ∈ outerPhrases := by cases a <;> decide
      exact .phrase (each keyword known)
  have labelled : OuterRow [plain "CONSTRAINT ",
      name (k.name.getD (constraintName "fk" b.table (join "_" k.columns)))] :=
    .headed (by simp [outerPhrases]) _
  exact ((((((labelled.append opening).append (outer_nameList _)).append target).append
    (outer_nameList _)).append closing).append (action (by simp) _)).append (action (by simp) _)

theorem outer_indexRow (d : Dialect) (table : String) (i : Index) :
    OuterRow (indexRow d table i) := by
  have head : indexHead d i ∈ outerPhrases := by
    unfold indexHead
    split <;> split <;> simp [outerPhrases]
  have target : OuterRow [plain " ON ", name table, plain " ("] :=
    (OuterRow.headed (by simp [outerPhrases]) _).append (.phrase (by simp [outerPhrases]))
  exact (((OuterRow.headed head _).append target).append (outer_nameList _)).append
    (.phrase (by simp [outerPhrases]))

theorem outer_headRow (d : Dialect) (table : String) : OuterRow (headRow d table) := by
  unfold headRow
  split
  · exact .headed (by simp [outerPhrases]) _
  · simp only [List.forall_mem_cons]
    exact ⟨.phrase (by simp [outerPhrases]), .literal _, .phrase (by simp [outerPhrases]),
      .literal _, .phrase (by simp [outerPhrases]), .name _, nofun⟩
  · exact .headed (by simp [outerPhrases]) _
  · exact .headed (by simp [outerPhrases]) _

theorem outer_tableOptionsRow (d : Dialect) (o : TableOptions) :
    OuterRow (tableOptionsRow d o) := by
  have option {keyword : String} {value : Option String} :
      ∀ row ∈ optionRow keyword value, OuterRow row := by
    intro row member
    obtain ⟨text, -, rfl⟩ := mem_optionRow member
    exact List.forall_mem_singleton.mpr (.word _)
  unfold tableOptionsRow
  split
  · exact nofun
  · refine List.forall_mem_cons.mpr ⟨.phrase (by simp [outerPhrases]), ?_⟩
    refine forall_joined (.phrase (by simp [outerPhrases])) ?_
    exact List.forall_mem_append.mpr ⟨List.forall_mem_append.mpr ⟨option, option⟩, option⟩

end Outer

section Statements

variable {marks : List String} {read : List Piece → Option α}
  (quiet : ∀ text ∈ outerPhrases, text ∉ marks)

include quiet

theorem finds_outerRow {row : List Piece} (h : OuterRow row) : Finds marks read row [] := by
  refine .mute fun piece member => ?_
  cases h piece member with
  | phrase listed => simpa [isMute] using quiet _ listed
  | word | name | literal => rfl

variable {inColumn behindColumn : Column → List α}
  (columns : ∀ c ∈ b.columns, Finds marks read (Definition.columnRow d b c) (inColumn c))
  (checks : ∀ c ∈ b.columns,
    Collected (Finds marks read) (Definition.emulatedCheckRows d b.table c) (behindColumn c))

theorem collected_indexRows (d : Dialect) (b : Blueprint) :
    Collected (Finds marks read) ((indexesOf b).map (indexRow d b.table)) [] := by
  refine .empty fun row member => ?_
  obtain ⟨i, -, rfl⟩ := List.mem_map.mp member
  exact finds_outerRow quiet (outer_indexRow d b.table i)

include checks

theorem collected_constraintRows :
    Collected (Finds marks read) (constraintRows d b) (b.columns.flatMap behindColumn) := by
  have foreignKeys : Collected (Finds marks read)
      (b.foreignKeys.map (Definition.foreignKeyRow b)) [] := by
    refine .empty fun row member => ?_
    obtain ⟨k, -, rfl⟩ := List.mem_map.mp member
    exact finds_outerRow quiet (outer_foreignKeyRow b k)
  have all := (Collected.flatMap checks).append foreignKeys
  rwa [List.append_nil] at all

include columns

/-- The findings in the statements that create a table are those in its columns and in the checks
behind them. -/
theorem collected_createRows : Collected (Finds marks read) (createRows d b)
    (b.columns.flatMap inColumn ++ b.columns.flatMap behindColumn) := by
  have key : Collected (Finds marks read) (b.composite.map keyRow).toList [] := by
    refine .empty fun row member => ?_
    obtain ⟨names, -, rfl⟩ := Option.map_eq_some_iff.mp (Option.mem_toList.mp member)
    exact finds_outerRow quiet (outer_keyRow names)
  have opening : Finds marks read [plain " ("] [] :=
    finds_outerRow quiet (.phrase (by simp [outerPhrases]))
  have closing : Finds marks read [plain ")"] [] :=
    finds_outerRow quiet (.phrase (by simp [outerPhrases]))
  have definitions := Finds.joined (quiet ", " (by simp [outerPhrases]))
    (((Collected.map columns).append key).append (collected_constraintRows quiet checks))
  have table := ((((finds_outerRow quiet (outer_headRow d b.table)).append opening).append
    definitions).append closing).append (finds_outerRow quiet (outer_tableOptionsRow d b.options))
  have all := (Collected.single table).append (collected_indexRows quiet d b)
  simp only [List.nil_append, List.append_nil] at all
  exact all

/-- The findings in the statements that add to a table are those in its columns and in the checks
behind them. -/
theorem collected_addRows : Collected (Finds marks read) (addRows d b)
    (b.columns.flatMap inColumn ++ b.columns.flatMap behindColumn) := by
  have alter {row : List Piece} {found : List α} (h : Finds marks read row found) :
      Finds marks read (alterRow b.table row) found := by
    have front : OuterRow [plain "ALTER TABLE ", name b.table, plain " "] :=
      (OuterRow.headed (by simp [outerPhrases]) _).append (.phrase (by simp [outerPhrases]))
    exact (finds_outerRow quiet front).append h
  have added : Collected (Finds marks read) (b.columns.map fun c =>
      alterRow b.table ([word d.addColumn, plain " "] ++ Definition.columnRow d b c))
      (b.columns.flatMap inColumn) := by
    have front : OuterRow [word d.addColumn, plain " "] :=
      List.forall_mem_cons.mpr ⟨.word _, OuterRow.phrase (by simp [outerPhrases])⟩
    exact .map fun c member => alter ((finds_outerRow quiet front).append (columns c member))
  have key : Collected (Finds marks read) (b.composite.map (namedKeyRow b.table)).toList [] := by
    refine .empty fun row member => ?_
    obtain ⟨names, -, rfl⟩ := Option.map_eq_some_iff.mp (Option.mem_toList.mp member)
    exact finds_outerRow quiet (outer_namedKeyRow b.table names)
  have addition : Finds marks read [plain "ADD "] [] :=
    finds_outerRow quiet (.phrase (by simp [outerPhrases]))
  have constraints := (key.append (collected_constraintRows quiet checks)).around
    fun row found h => alter (addition.append h)
  have all := (added.append constraints).append (collected_indexRows quiet d b)
  simp only [List.nil_append, List.append_nil] at all
  exact all

end Statements

end Ddl

end Sqlwright
