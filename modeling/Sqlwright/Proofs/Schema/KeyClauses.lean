import Mathlib.Algebra.GroupWithZero.Nat
import Sqlwright.Proofs.Schema.Agreement
import Sqlwright.Proofs.Schema.Claims
import Sqlwright.Proofs.Schema.Words
import Sqlwright.Proofs.Text.Occurrence

/-!
The primary key in the statements of a table definition. PRIMARY KEY stands once among them if the
definition has a key and never if it has none, whatever is in names, literals and the caller's SQL
(`Ddl.keyClauses_eq`, `Ddl.countP_createRows`, `Ddl.countP_addRows`). Main statement:
`Blueprint.Reachable.single_key`.
-/

namespace Sqlwright

open Piece Text

variable {d : Dialect} {b : Blueprint} {row : List Piece}

def keyWords : List Char := "PRIMARY KEY".toList

/-- How often the keywords of the primary key stand in a row, outside names, literals and the
caller's SQL; the words of the database count if they are to be shown. -/
def Piece.keyClauses (words : Bool) (row : List Piece) : Nat :=
  occurrences keyWords (outline words row)

namespace Ddl

def isKeyPhrase : Piece → Bool
  | plain text => keyPhrases.contains text
  | _ => false

/-- The middle of the keywords, in which they differ from those of a foreign key. -/
def keyCore : List Char := ['Y', ' ', 'K']

/-- A text that does not begin as the keywords go on behind their Y. -/
def Begins (text : List Char) : Prop := ¬ ['K'] <+: text ∧ ¬ [' ', 'K'] <+: text

instance (text : List Char) : Decidable (Begins text) := inferInstanceAs (Decidable (_ ∧ _))

theorem Begins.append {text next : List Char} (htext : Begins text) (hnext : Begins next) :
    Begins (text ++ next) := by
  match text with
  | [] => exact hnext
  | [c] =>
    obtain ⟨first, -⟩ := htext
    obtain ⟨second, -⟩ := hnext
    refine ⟨fun here => first ?_, fun here => second ?_⟩
    · simpa using here
    · exact (List.cons_prefix_cons.mp here).2
  | c :: e :: rest =>
    obtain ⟨one, two⟩ := htext
    exact ⟨fun here => one (by simpa using here), fun here => two (by simpa using here)⟩

/-- No keyword reaches from one text into the next. -/
theorem Begins.not_straddles {text next : List Char} (h : Begins next) :
    ¬ Straddles keyCore text next := by
  rintro ⟨front, back, hfront, hback, same, -, begins⟩
  match front with
  | [y] =>
    obtain ⟨-, rfl⟩ := List.cons.inj same
    exact h.2 begins
  | [y, blank] =>
    obtain ⟨-, rest⟩ := List.cons.inj same
    obtain ⟨-, rfl⟩ := List.cons.inj rest
    exact h.1 begins
  | y :: blank :: k :: rest =>
    obtain ⟨-, same⟩ := List.cons.inj same
    obtain ⟨-, same⟩ := List.cons.inj same
    obtain ⟨-, same⟩ := List.cons.inj same
    exact hback (List.append_eq_nil_iff.mp same.symm).2

/-- A text that begins with another character than those. -/
theorem begins_cons {c : Char} (letter : c ≠ 'K' ∧ c ≠ ' ') (rest : List Char) :
    Begins (c :: rest) := by
  refine ⟨fun here => letter.1 ?_, fun here => letter.2 ?_⟩
  · exact (List.cons_prefix_cons.mp here).1.symm
  · exact (List.cons_prefix_cons.mp here).1.symm

theorem begins_of_not_mem {text : List Char} (h : 'K' ∉ text) : Begins text :=
  ⟨fun here => h (here.subset (by simp)), fun here => h (here.subset (by simp))⟩

/-- A piece in which the keywords of the primary key stand exactly if they begin the key, and which
does not go on with them. -/
structure Marked (words : Bool) (piece : Piece) : Prop where
  begins : Begins (piece.shown words)
  core : occurrences keyCore (piece.shown words) = if isKeyPhrase piece then 1 else 0
  whole : (if isKeyPhrase piece then 1 else 0) ≤ occurrences keyWords (piece.shown words)

theorem Marked.of_shown {words : Bool} {piece : Piece} {text : List Char}
    (shown : piece.shown words = text) (begins : Begins text) (core : occurrences keyCore text = 0)
    (other : isKeyPhrase piece = false) : Marked words piece where
  begins := shown ▸ begins
  core := by simp [shown, core, other]
  whole := by simp [other]

/-- A piece that is blotted out. -/
theorem Marked.of_blotted {words : Bool} {piece : Piece} (blotted : piece.shown words = ['?'])
    (other : isKeyPhrase piece = false) : Marked words piece :=
  .of_shown blotted (by decide) (by decide) other

-- No keyword goes on over the end of a marked piece, so the middles are counted piece by piece; what
-- they bound from above, the pieces that begin a key bound from below.
theorem Marked.outline {words : Bool} (h : ∀ piece ∈ row, Marked words piece) :
    Begins (Piece.outline words row) ∧
      occurrences keyCore (Piece.outline words row) = row.countP isKeyPhrase ∧
      row.countP isKeyPhrase ≤ occurrences keyWords (Piece.outline words row) := by
  induction row with
  | nil => exact ⟨⟨by simp [Piece.outline], by simp [Piece.outline]⟩, rfl, Nat.zero_le _⟩
  | cons piece rest ih =>
    obtain ⟨here, later⟩ := List.forall_mem_cons.mp h
    obtain ⟨begins, core, whole⟩ := ih later
    have split : Piece.outline words (piece :: rest) =
        piece.shown words ++ Piece.outline words rest := rfl
    rw [split, List.countP_cons]
    refine ⟨here.begins.append begins, ?_, ?_⟩
    · rw [occurrences_append begins.not_straddles (by decide), here.core, core]
      omega
    · have each : _ ≤ occurrences keyWords (piece.shown words ++ Piece.outline words rest) :=
        le_occurrences_append (by decide) _ _
      have begun := here.whole
      omega

section Stated

variable {words : Bool} (known : words = true → d ∈ Dialect.builtIn) (wf : b.WellFormed)

include known wf

theorem Spells.marked {text : String} (h : Spells d b text) : Marked words (word text) := by
  cases words with
  | false => exact .of_blotted rfl rfl
  | true =>
    rcases h.letters (known rfl) wf with letters | ⟨keyword, listed, word, valid, rfl⟩
    · have absent : 'K' ∉ text.toList := fun member => (letters _ member).2 rfl
      exact .of_shown rfl (begins_of_not_mem absent) (occurrences_eq_zero (by decide) absent) rfl
    · have fixed : ∀ keyword ∈ optionKeywords,
          occurrences keyCore (keyword.toList ++ ['=']) = 0 := by decide
      have blank : ' ' ∉ word.toList := by
        intro member
        rw [Identifier.isOption, Bool.and_eq_true, List.all_eq_true] at valid
        exact absurd (valid.2 _ member) (by decide)
      have split : (keyword ++ "=" ++ word).toList = (keyword.toList ++ ['=']) ++ word.toList := by
        simp
      refine .of_shown split ?_ ?_ rfl
      · simp only [optionKeywords, List.mem_cons, List.not_mem_nil, or_false] at listed
        rcases listed with rfl | rfl | rfl <;> exact begins_cons (by decide) _
      · rw [occurrences_append (not_straddles_concat (by decide)) (by decide),
          fixed keyword listed, occurrences_eq_zero (by decide) blank]

theorem Stated.marked {keyed : Bool} {piece : Piece} (h : Stated d b keyed piece) :
    Marked words piece := by
  cases h with
  | @key text listed allowed =>
    have all : ∀ text ∈ keyPhrases, Begins text.toList ∧ occurrences keyCore text.toList = 1 ∧
        occurrences keyWords text.toList = 1 := by decide
    obtain ⟨begins, core, whole⟩ := all text listed
    have begun : isKeyPhrase (plain text) = true := List.contains_iff_mem.mpr listed
    exact ⟨begins, by rw [begun]; exact core, by rw [begun]; exact whole.ge⟩
  | @phrase text listed =>
    have all : ∀ text ∈ phrases, Begins text.toList ∧ occurrences keyCore text.toList = 0 ∧
        isKeyPhrase (plain text) = false := by decide +kernel
    obtain ⟨begins, core, other⟩ := all text listed
    exact .of_shown rfl begins core other
  | @array text style listed =>
    have all : ∀ text ∈ [" <@ ARRAY[", "ARRAY[", "]"], Begins text.toList ∧
        occurrences keyCore text.toList = 0 ∧ isKeyPhrase (plain text) = false := by decide
    obtain ⟨begins, core, other⟩ := all text (by simpa using listed)
    exact .of_shown rfl begins core other
  | word spells => exact spells.marked known wf
  | name | literal | check | default => exact .of_blotted rfl rfl

/-- The keywords of the primary key stand in a row as often as the row begins a key. -/
theorem keyClauses_eq (stated : StatedRow d b true row) :
    keyClauses words row = row.countP isKeyPhrase := by
  have marked : ∀ piece ∈ row, Marked words piece := fun piece member =>
    (stated piece member).marked known wf
  obtain ⟨-, core, whole⟩ := Marked.outline marked
  have middle : occurrences keyWords (outline words row) ≤
      occurrences keyCore (outline words row) :=
    (occurrences_append_le_right "PRIMAR".toList "Y KEY".toList _).trans
      (occurrences_append_le_left keyCore "EY".toList _)
  exact (middle.trans core.le).antisymm whole

end Stated

theorem countP_joined {separator : String} (other : isKeyPhrase (plain separator) = false)
    (rows : List (List Piece)) :
    (joined separator rows).countP isKeyPhrase = rows.flatten.countP isKeyPhrase := by
  induction rows using joined.induct with
  | case1 => rfl
  | case2 row => simp [joined]
  | case3 row next rest ih =>
    rw [joined, List.countP_append, List.countP_cons, ih, List.flatten_cons, List.countP_append]
    simp [other]

/-- A row without the key does not begin it. -/
theorem StatedRow.countP_eq_zero (h : StatedRow d b false row) : row.countP isKeyPhrase = 0 := by
  have all : ∀ text ∈ phrases, isKeyPhrase (plain text) = false := by decide +kernel
  refine List.countP_eq_zero.mpr fun piece member => ?_
  cases h piece member with
  | key listed allowed => cases allowed
  | phrase listed => simp [all _ listed]
  | array style listed => rcases listed with rfl | rfl | rfl <;> decide
  | word | name | literal | check | default => exact Bool.false_ne_true

theorem StatedRow.countP_flatten {rows : List (List Piece)}
    (h : ∀ row ∈ rows, StatedRow d b false row) : rows.flatten.countP isKeyPhrase = 0 := by
  refine StatedRow.countP_eq_zero (d := d) (b := b) fun piece member => ?_
  obtain ⟨row, inside, here⟩ := List.mem_flatten.mp member
  exact h row inside piece here

theorem countP_flatten_map {α : Type} {f g : α → List Piece} (items : List α)
    (same : ∀ item, (f item).countP isKeyPhrase = (g item).countP isKeyPhrase) :
    (items.map f).flatten.countP isKeyPhrase = (items.map g).flatten.countP isKeyPhrase := by
  simp [List.countP_flatten, Function.comp_def, same]

section Clauses

variable (wf : b.WellFormed)

include wf

/-- A column states the key at most once. -/
theorem countP_columnRow {c : Column} (member : c ∈ b.columns) :
    (Definition.columnRow d b c).countP isKeyPhrase = if c.isKey then 1 else 0 := by
  have front : ([[name c.name], Definition.typeRow d b.table c] ++
      Definition.frontRows d b c).flatten.countP isKeyPhrase = 0 := by
    refine StatedRow.countP_flatten (d := d) (b := b) (List.forall_mem_append.mpr
      ⟨List.forall_mem_cons.mpr ⟨.cons (stated_columnName wf member) .nil,
        List.forall_mem_singleton.mpr (.typeRow wf member)⟩, .frontRows member⟩)
  have key : (Definition.keyRows c).flatten.countP isKeyPhrase = if c.isKey then 1 else 0 := by
    unfold Definition.keyRows
    split <;> rfl
  have behind : (Definition.commentRows d c ++ Definition.checkRows d c).flatten.countP
      isKeyPhrase = 0 :=
    StatedRow.countP_flatten (List.forall_mem_append.mpr
      ⟨.commentRows c, .checkRows wf member⟩)
  rw [Definition.columnRow, countP_joined (by decide), List.append_assoc, List.flatten_append,
    List.countP_append, behind, List.flatten_append, List.countP_append, front, key]
  omega

omit wf in
theorem countP_keyRow (names : List String) : (keyRow names).countP isKeyPhrase = 1 := by
  have list : (nameList names).countP isKeyPhrase = 0 := by
    rw [nameList, countP_joined (by decide), List.countP_eq_zero]
    intro piece member
    obtain ⟨row, inside, here⟩ := List.mem_flatten.mp member
    obtain ⟨name, -, rfl⟩ := List.mem_map.mp inside
    obtain rfl := List.mem_singleton.mp here
    exact Bool.false_ne_true
  have closing : isKeyPhrase (plain ")") = false := by decide
  have begun : isKeyPhrase (plain "PRIMARY KEY (") = true := by decide
  simp [keyRow, list, closing, begun]

theorem countP_columnRows {columns : List Column} (members : ∀ c ∈ columns, c ∈ b.columns) :
    (columns.map (Definition.columnRow d b)).flatten.countP isKeyPhrase =
      columns.countP (·.isKey) := by
  induction columns with
  | nil => rfl
  | cons c rest ih =>
    obtain ⟨here, later⟩ := List.forall_mem_cons.mp members
    rw [List.map_cons, List.flatten_cons, List.countP_append, countP_columnRow wf here, ih later,
      List.countP_cons]
    omega

omit wf in
/-- There are as many keys among the columns and the lists as there are owners. -/
theorem countP_isKey (agrees : b.KeyAgrees) (wf : b.WellFormed) :
    b.columns.countP (·.isKey) + b.composite.toList.length = if b.owner.isSome then 1 else 0 := by
  have none (keyless : ∀ c ∈ b.columns, c.isKey = false) : b.columns.countP (·.isKey) = 0 :=
    List.countP_eq_zero.mpr fun c member => by simp [keyless c member]
  rcases agrees.exactly_one wf with ⟨⟨owner, composite, keyless⟩, -⟩ |
    ⟨-, ⟨composite, c, single, owner⟩, -⟩ | ⟨-, -, ⟨names, composite, owner⟩, keyless⟩
  · rw [none keyless, composite, owner]
    rfl
  · rw [List.countP_eq_length_filter, single, composite, owner]
    rfl
  · rw [none keyless, composite, owner]
    rfl

variable (finished : ∀ k ∈ b.foreignKeys, ∃ table, k.table = some table)

include finished

/-- The statements that create a table begin a key once for each key. -/
theorem countP_createRows :
    (createRows d b).flatten.countP isKeyPhrase =
      b.columns.countP (·.isKey) + b.composite.toList.length := by
  have head : (headRow d b.table ++ [plain " ("]).countP isKeyPhrase = 0 :=
    StatedRow.countP_eq_zero (.append (.headRow wf) (.phrase (by simp [phrases]) .nil))
  have constraints : (constraintRows d b).flatten.countP isKeyPhrase = 0 :=
    StatedRow.countP_flatten (StatedRow.constraintRows wf finished)
  have options : ([plain ")"] ++ tableOptionsRow d b.options).countP isKeyPhrase = 0 :=
    StatedRow.countP_eq_zero (d := d) (b := b)
      (.append (.phrase (by simp [phrases]) .nil) .tableOptionsRow)
  have indexes : ((indexesOf b).map (indexRow d b.table)).flatten.countP isKeyPhrase = 0 :=
    StatedRow.countP_flatten (StatedRow.indexRows wf)
  have key : (b.composite.map keyRow).toList.flatten.countP isKeyPhrase =
      b.composite.toList.length := by
    cases b.composite with
    | none => rfl
    | some names => simp [countP_keyRow]
  rw [createRows, List.flatten_cons, List.countP_append, indexes, List.append_assoc,
    List.countP_append, options, List.countP_append, head, countP_joined (by decide),
    List.flatten_append, List.countP_append, constraints, List.flatten_append, List.countP_append,
    countP_columnRows wf fun _ => id, key]
  omega

/-- The statements that add to a table begin a key once for each key. -/
theorem countP_addRows :
    (addRows d b).flatten.countP isKeyPhrase =
      b.columns.countP (·.isKey) + b.composite.toList.length := by
  have alter (row : List Piece) :
      (alterRow b.table row).countP isKeyPhrase = row.countP isKeyPhrase := by
    have front : [plain "ALTER TABLE ", name b.table, plain " "].countP isKeyPhrase = 0 := by rfl
    rw [alterRow, List.countP_append, front, Nat.zero_add]
  have columns (c : Column) :
      (alterRow b.table ([word d.addColumn, plain " "] ++ Definition.columnRow d b c)).countP
        isKeyPhrase = (Definition.columnRow d b c).countP isKeyPhrase := by
    have front : [word d.addColumn, plain " "].countP isKeyPhrase = 0 := by rfl
    rw [alter, List.countP_append, front, Nat.zero_add]
  have added (row : List Piece) : (alterRow b.table ([plain "ADD "] ++ row)).countP isKeyPhrase =
      row.countP isKeyPhrase := by
    have front : [plain "ADD "].countP isKeyPhrase = 0 := by rfl
    rw [alter, List.countP_append, front, Nat.zero_add]
  have constraints : (constraintRows d b).flatten.countP isKeyPhrase = 0 :=
    StatedRow.countP_flatten (StatedRow.constraintRows wf finished)
  have indexes : ((indexesOf b).map (indexRow d b.table)).flatten.countP isKeyPhrase = 0 :=
    StatedRow.countP_flatten (StatedRow.indexRows wf)
  have key : (b.composite.map (namedKeyRow b.table)).toList.flatten.countP isKeyPhrase =
      b.composite.toList.length := by
    cases b.composite with
    | none => rfl
    | some names =>
      have front : [plain "CONSTRAINT ", name (constraintName "pk" b.table "key"),
          plain " "].countP isKeyPhrase = 0 := by rfl
      change ([_] : List (List Piece)).flatten.countP isKeyPhrase = 1
      rw [List.flatten_singleton, namedKeyRow, List.countP_append, front, countP_keyRow]
  rw [addRows, List.flatten_append, List.countP_append, indexes, List.flatten_append,
    List.countP_append, countP_flatten_map _ columns, countP_columnRows wf fun _ => id,
    countP_flatten_map _ added, List.map_id', List.flatten_append, List.countP_append, constraints,
    key]
  omega

end Clauses

/-- Texts as the rows say, made of what `Stated` allows, with PRIMARY KEY once among them if there
is a key and never if there is none. The words of a database known from the start are looked at as
well; those of another database may be any text and are left out. -/
structure SingleKey (d : Dialect) (b : Blueprint) (rows : List (List Piece)) (texts : List String) :
    Prop where
  rendered : texts = rows.map (statement d)
  stated : ∀ row ∈ rows, StatedRow d b true row
  clauses (words : Bool) (known : words = true → d ∈ Dialect.builtIn) :
    (rows.map (keyClauses words)).sum = if b.owner.isSome then 1 else 0

/-- As many rows state the key as there are columns or lists that are one. -/
theorem SingleKey.of_count {rows : List (List Piece)} {texts : List String} (h : b.Reachable)
    (rendered : texts = rows.map (statement d)) (stated : ∀ row ∈ rows, StatedRow d b true row)
    (count : rows.flatten.countP isKeyPhrase =
      b.columns.countP (·.isKey) + b.composite.toList.length) : SingleKey d b rows texts where
  rendered := rendered
  stated := stated
  clauses words known := by
    rw [← countP_isKey h.keyAgrees h.wellFormed, ← count, List.countP_flatten]
    exact congrArg List.sum (List.map_congr_left fun row member =>
      keyClauses_eq known h.wellFormed (stated row member))

end Ddl

namespace Blueprint

open Ddl

theorem WellFormed.hasColumn_iff (wf : b.WellFormed) (given : Value) :
    b.hasColumn given = true ↔ ∃ c ∈ b.columns, given = .text c.name := by
  cases given with
  | text name =>
    have located : b.hasColumn (.text name) = true ↔ name ∈ b.columns.map (·.name) := by
      rw [hasColumn, Keyed.has, Option.isSome_iff_exists, List.mem_iff_getElem?]
      exact exists_congr (wf.places name)
    rw [located, List.mem_map]
    simp [eq_comm]
  | _ => simp [hasColumn]

theorem WellFormed.getColumn_iff (wf : b.WellFormed) (given : Value) (c : Column) :
    b.getColumn given = .ok c ↔ c ∈ b.columns ∧ given = .text c.name := by
  cases given with
  | text name =>
    rw [getColumn_text_eq_ok, wf.column?_iff]
    simp [eq_comm]
  | _ => simp [getColumn]

/-- In every reachable definition the columns have different names, each of them a name, and are
found under them. There is no key, or one column is the key, or a list of columns is; an owner stays
the owner whatever is done, and a claim is refused exactly if another owner holds the key. So
PRIMARY KEY stands at most once among the statements. -/
theorem Reachable.single_key (h : b.Reachable) :
    ((b.columns.map (·.name)).Nodup ∧ ∀ c ∈ b.columns, Identifier.isName c.name.toList = true) ∧
    (∀ given, (b.hasColumn given = true ↔ ∃ c ∈ b.columns, given = .text c.name) ∧
      ∀ c, b.getColumn given = .ok c ↔ c ∈ b.columns ∧ given = .text c.name) ∧
    (b.Keyless ∧ ¬ b.KeyedByColumn ∧ ¬ b.KeyedByList ∨
      ¬ b.Keyless ∧ b.KeyedByColumn ∧ ¬ b.KeyedByList ∨
      ¬ b.Keyless ∧ ¬ b.KeyedByColumn ∧ b.KeyedByList) ∧
    (∀ owner, b.owner = some owner → ∀ steps, (b.run steps).owner = some owner) ∧
    (b.locked = false → ∀ call table owner claimant,
      (b.apply call).1 = .error (.duplicatePrimaryKey table owner claimant) ↔
        b.claimant? call = some (.ok claimant) ∧ b.owner = some owner ∧ owner ≠ claimant ∧
          table = b.table) ∧
    ∀ d texts,
      ((b.compileCreate d).1 = .ok texts → SingleKey d b (createRows d b) texts) ∧
      ((b.compileAdd d).1 = .ok texts → SingleKey d b (addRows d b) texts) := by
  have wf := h.wellFormed
  refine ⟨⟨wf.distinct, wf.names⟩, fun given => ⟨wf.hasColumn_iff given, wf.getColumn_iff given⟩,
    h.keyAgrees.exactly_one wf, fun owner owned => owner_run owned,
    fun unlocked => apply_duplicate_iff unlocked,
    fun d texts => ⟨fun created => ?_, fun added => ?_⟩⟩
  · obtain ⟨rendered, finished⟩ := create_eq_rows (lockOn_eq_ok.mp created).1
    exact .of_count h rendered (stated_createRows wf finished) (countP_createRows wf finished)
  · obtain ⟨rendered, finished⟩ := add_eq_rows (lockOn_eq_ok.mp added).1
    exact .of_count h rendered (stated_addRows wf finished) (countP_addRows wf finished)

theorem Reachable.single_key_memberships :
    memberships.Reachable ∧ memberships.locked = false ∧
      (memberships.apply (.onColumn "role" .primary)).1 =
        .error (.duplicatePrimaryKey "role_user" "(role, user_id)" "role") ∧
      ∃ texts, (memberships.compileAdd Dialect.sqlServer).1 = .ok texts ∧
        SingleKey Dialect.sqlServer memberships (addRows Dialect.sqlServer memberships) texts := by
  have reachable : memberships.Reachable :=
    (Reachable.start (show Blueprint.start (.text "role_user") "deleted_at" = _ from rfl)).run _
  obtain ⟨-, -, -, -, duplicate, statements⟩ := reachable.single_key
  have unlocked : memberships.locked = false := by decide +kernel
  have owned : memberships.owner = some "(role, user_id)" := by decide +kernel
  have asked : memberships.claimant? (.onColumn "role" .primary) = some (.ok "role") := by rfl
  obtain ⟨texts, answered⟩ : ∃ texts, (memberships.compileAdd Dialect.sqlServer).1 = .ok texts :=
    exists_of_isOk (by decide +kernel)
  exact ⟨reachable, unlocked,
    (duplicate unlocked _ _ _ _).mpr ⟨asked, owned, by decide, by decide +kernel⟩,
    texts, answered, (statements _ texts).2 answered⟩

end Blueprint

end Sqlwright
