import Sqlwright.Proofs.Schema.Agreement
import Sqlwright.Proofs.Schema.Finding
import Sqlwright.Proofs.Schema.History
import Sqlwright.Proofs.Schema.Words

/-!
The clauses in the text of a column, and what has been declared for each of them. The clauses are
read from the words of the text, outside names, literals and the caller's SQL (`Piece.clauses`).
However the declarations follow each other, a column says NOT NULL, NULL or DEFAULT exactly if its
declarations and the key of the table together ask for it. Main statement:
`Blueprint.clauses_of_applied`.
-/

namespace Sqlwright

open Number Piece Text

variable {d : Dialect} {b : Blueprint} {c : Column} {row : List Piece} {words : Bool}

/-- The clauses of a column that are told apart. -/
inductive ColumnClause
  | default | notNull | null | primaryKey
  deriving DecidableEq, Repr

def blankWords (text : List Char) : List String := (pieces (· == ' ') text).map String.ofList

/-- The clause that a word completes behind another one. BY DEFAULT is no default. -/
def clause? (before word : String) : Option ColumnClause :=
  if word = "NULL" then some (if before = "NOT" then .notNull else .null)
  else if word = "DEFAULT" then if before = "BY" then none else some .default
  else if word = "KEY" ∧ before = "PRIMARY" then some .primaryKey
  else none

def clausesFrom (before : String) : List String → List ColumnClause
  | [] => []
  | first :: rest => (clause? before first).toList ++ clausesFrom first rest

/-- The clauses in a row of pieces, outside names, literals and the caller's SQL; the words of the
database count if they are to be shown. -/
def Piece.clauses (words : Bool) (row : List Piece) : List ColumnClause :=
  clausesFrom "" (blankWords (outline words row))

namespace Ddl

/-- A word behind which each word is read as if it were the first. -/
def Calm (before : String) : Prop := before ∉ ["NOT", "BY", "PRIMARY"]

instance (before : String) : Decidable (Calm before) := inferInstanceAs (Decidable (_ ∉ _))

theorem clause?_of_calm {before : String} (h : Calm before) (word : String) :
    clause? before word = clause? "" word := by
  simp only [Calm, List.mem_cons, List.not_mem_nil, or_false, not_or] at h
  obtain ⟨no, by', primary⟩ := h
  simp [clause?, no, by', primary]

theorem clausesFrom_of_calm {before : String} (h : Calm before) (words : List String) :
    clausesFrom before words = clausesFrom "" words := by
  cases words with
  | nil => rfl
  | cons first rest => rw [clausesFrom, clause?_of_calm h, clausesFrom]

/-- What comes later sees the last word before it and no more. -/
theorem clausesFrom_append {before : String} (words others : List String) :
    clausesFrom before (words ++ others) =
      clausesFrom before words ++ clausesFrom (words.getLastD before) others := by
  induction words generalizing before with
  | nil => simp [clausesFrom]
  | cons first rest ih =>
    rw [List.cons_append, clausesFrom, clausesFrom, ih, List.append_assoc]
    cases rest <;> rfl

theorem exists_blankWords_concat (text : List Char) :
    ∃ front last, blankWords text = front ++ [last] := by
  obtain ⟨front, last, split, -⟩ := exists_pieces_append (· == ' ') text
  exact ⟨front.map String.ofList, String.ofList last, by simp [blankWords, split]⟩

theorem blankWords_append_blank (text next : List Char) :
    blankWords (text ++ ' ' :: next) = blankWords text ++ blankWords next := by
  rw [blankWords, pieces_append_cut rfl, List.map_append, blankWords, blankWords]

/-- A text with these clauses, behind which other words are read as if they were the first. -/
structure Reads (text : List Char) (found : List ColumnClause) : Prop where
  clauses : clausesFrom "" (blankWords text) = found
  calm : ∀ last ∈ (blankWords text).getLast?, Calm last

instance (text : List Char) (found : List ColumnClause) : Decidable (Reads text found) :=
  decidable_of_iff (clausesFrom "" (blankWords text) = found ∧
      ∀ last ∈ (blankWords text).getLast?, Calm last)
    ⟨fun ⟨clauses, calm⟩ => ⟨clauses, calm⟩, fun ⟨clauses, calm⟩ => ⟨clauses, calm⟩⟩

/-- Texts with a blank between them are read one after the other. -/
theorem Reads.append {text next : List Char} {found more : List ColumnClause} (h : Reads text found)
    (hnext : Reads next more) : Reads (text ++ ' ' :: next) (found ++ more) := by
  obtain ⟨front, last, split⟩ := exists_blankWords_concat text
  obtain ⟨front', last', split'⟩ := exists_blankWords_concat next
  have calm : Calm last := h.calm last (by simp [split])
  have calm' : Calm last' := hnext.calm last' (by simp [split'])
  have read := hnext.clauses
  constructor
  · rw [blankWords_append_blank, clausesFrom_append, h.clauses, split, List.getLastD_concat,
      clausesFrom_of_calm calm, hnext.clauses]
  · rw [blankWords_append_blank, split']
    simpa using calm'

theorem outline_append (a z : List Piece) :
    outline words (a ++ z) = outline words a ++ outline words z := List.flatMap_append

/-- Rows with a blank between neighbours have the clauses of the rows. -/
theorem Reads.joined {rows : List (List Piece)} {found : List ColumnClause}
    (h : Collected (fun row found => Reads (outline words row) found) rows found)
    (present : rows ≠ []) : Reads (outline words (Piece.joined " " rows)) found := by
  obtain ⟨each, collected, rfl⟩ := h
  induction collected with
  | nil => exact absurd rfl present
  | @cons row found rest others here later ih =>
    rw [List.flatten_cons]
    cases rest with
    | nil =>
      cases later
      simpa [Piece.joined] using here
    | cons next more =>
      have blank : outline words (Piece.joined " " (row :: next :: more)) =
          outline words row ++ ' ' :: outline words (Piece.joined " " (next :: more)) := by
        rw [Piece.joined, outline_append]
        rfl
      rw [blank]
      exact here.append (ih (by simp))

def clauseWords : List String := ["NOT", "NULL", "BY", "DEFAULT", "PRIMARY"]

/-- A text without words that belong to clauses. -/
def Silent (text : List Char) : Prop := ∀ token ∈ blankWords text, token ∉ clauseWords

instance (text : List Char) : Decidable (Silent text) :=
  inferInstanceAs (Decidable (∀ token ∈ blankWords text, token ∉ clauseWords))

theorem clausesFrom_eq_nil {before : String} (calm : Calm before) {tokens : List String}
    (h : ∀ token ∈ tokens, token ∉ clauseWords) : clausesFrom before tokens = [] := by
  induction tokens generalizing before with
  | nil => rfl
  | cons first rest ih =>
    obtain ⟨here, later⟩ := List.forall_mem_cons.mp h
    simp only [clauseWords, List.mem_cons, List.not_mem_nil, or_false, not_or] at here
    obtain ⟨no, null, by', default, primary⟩ := here
    have unread : clause? before first = none := by
      rw [clause?_of_calm calm, clause?, if_neg null, if_neg default, if_neg]
      rintro ⟨-, never⟩
      exact absurd never (by decide)
    have next : Calm first := by simp [Calm, no, by', primary]
    rw [clausesFrom, unread, ih next later]
    rfl

theorem Silent.reads {text : List Char} (h : Silent text) : Reads text [] where
  clauses := clausesFrom_eq_nil (by decide) h
  calm := by
    intro last ends
    have other := h last (List.mem_of_getLast? ends)
    simp only [clauseWords, List.mem_cons, List.not_mem_nil, or_false, not_or] at other
    simp [Calm, other]

/-- A text of characters of a kind that has a letter of each such word not in it. -/
theorem silent_of_kind {text : List Char} {kind : Char → Bool}
    (other : ['T', 'U', 'Y'].any kind = false) (h : ∀ c ∈ text, kind c = true) : Silent text := by
  have each : clauseWords.all (fun token =>
      ['T', 'U', 'Y'].any (token.toList.contains ·)) = true := by decide
  intro token member listed
  obtain ⟨piece, cut, rfl⟩ := List.mem_map.mp member
  obtain ⟨c, letter, inside⟩ := List.any_eq_true.mp (List.all_eq_true.mp each _ listed)
  rw [String.toList_ofList, List.contains_iff_mem] at inside
  exact List.any_eq_false.mp other c letter (h c (mem_pieces cut inside))

/-- Nothing in small letters is a word of a clause. -/
theorem isUpper_of_mem_clauseWords {token : String} (h : token ∈ clauseWords) :
    ∀ c ∈ token.toList, c.isUpper = true := by
  have all : clauseWords.all (fun token => token.toList.all Char.isUpper) = true := by decide
  exact List.all_eq_true.mp (List.all_eq_true.mp all token h)

/-- A text without such words that does not end in a letter of one, so that no such word comes up
where another text is put behind it. -/
structure Quiet (text : List Char) : Prop where
  silent : Silent text
  ends : ∀ last ∈ text.getLast?, last.isUpper = false

instance (text : List Char) : Decidable (Quiet text) :=
  decidable_of_iff (Silent text ∧ text.getLast?.toList.all (!·.isUpper) = true)
    ⟨fun ⟨silent, ends⟩ => ⟨silent, by simpa using ends⟩,
      fun ⟨silent, ends⟩ => ⟨silent, by simpa using ends⟩⟩

theorem Quiet.append_silent {text next : List Char} (h : Quiet text) (hnext : Silent next) :
    Silent (text ++ next) := by
  obtain ⟨front, last, split, ends, -, behind⟩ := exists_pieces_append (· == ' ') text
  have before : ∀ piece ∈ front ++ [last], String.ofList piece ∉ clauseWords := by
    rw [← split]
    exact fun piece member => h.silent _ (List.mem_map_of_mem member)
  have after : ∀ piece ∈ pieces (· == ' ') next, String.ofList piece ∉ clauseWords :=
    fun piece member => hnext _ (List.mem_map_of_mem member)
  intro token member
  obtain ⟨piece, cut, rfl⟩ := List.mem_map.mp member
  rw [behind] at cut
  rcases List.mem_append.mp cut with inFront | atSeam
  · exact before piece (List.mem_append_left _ inFront)
  · cases found : pieces (· == ' ') next with
    | nil => exact absurd found (pieces_ne_nil _ next)
    | cons first others =>
      rw [found] at atSeam after
      rcases List.mem_cons.mp atSeam with rfl | later
      · cases last using List.reverseRecOn with
        | nil => exact after first (by simp)
        | append_singleton letters c =>
          have closing : text.getLast? = some c := by
            obtain ⟨rest, rfl⟩ := ends
            simp
          intro listed
          have letter := isUpper_of_mem_clauseWords listed c (by simp)
          rw [h.ends c closing] at letter
          cases letter
      · exact after piece (by simp [later])

theorem Quiet.append {text next : List Char} (h : Quiet text) (hnext : Quiet next) :
    Quiet (text ++ next) where
  silent := h.append_silent hnext.silent
  ends := by
    intro last closing
    cases next using List.reverseRecOn with
    | nil => exact h.ends last (by simpa using closing)
    | append_singleton letters c =>
      exact hnext.ends last (by simpa [← List.append_assoc] using closing)

theorem Quiet.outline {row : List Piece} (h : ∀ piece ∈ row, Quiet (piece.shown words)) :
    Quiet (Piece.outline words row) := by
  induction row with
  | nil => exact (by decide : Quiet [])
  | cons piece rest ih =>
    obtain ⟨here, later⟩ := List.forall_mem_cons.mp h
    exact here.append (ih later)

/-- A mark behind a text keeps its words from becoming others. -/
theorem Silent.concat {text : List Char} (h : Silent text) {c : Char} (mark : c.isUpper = false) :
    Quiet (text ++ [c]) where
  silent := by
    by_cases blank : c = ' '
    · subst blank
      intro token member
      rw [blankWords_append_blank, List.mem_append] at member
      rcases member with old | new
      · exact h token old
      · have empty : token = "" := by simpa [blankWords, pieces] using new
        subst empty
        decide
    · obtain ⟨front, last, split, -, -, behind⟩ := exists_pieces_append (· == ' ') text
      have alone : pieces (· == ' ') [c] = [[c]] := by simp [pieces, blank]
      intro token member listed
      obtain ⟨piece, cut, rfl⟩ := List.mem_map.mp member
      rw [behind, alone] at cut
      rcases List.mem_append.mp cut with inFront | atSeam
      · refine h _ (List.mem_map_of_mem ?_) listed
        rw [split]
        exact List.mem_append_left _ inFront
      · obtain rfl := List.mem_singleton.mp atSeam
        have letter := isUpper_of_mem_clauseWords listed c (by simp)
        rw [mark] at letter
        cases letter
  ends := by
    intro last closing
    obtain rfl : c = last := by simpa using closing
    exact mark

theorem silent_of_numeral {text : String} (h : ∀ c ∈ text.toList, isNumeral c = true) :
    Silent text.toList := silent_of_kind (by decide) h

section Known

variable (known : d ∈ Dialect.builtIn)

include known

/-- The types of the databases known from the start have no words of clauses in their names. -/
theorem silent_spelling (type : ColumnType) :
    Silent (d.types type).name.toList ∧
      (∀ size, (d.types type).size = some size → Silent size.render.toList) ∧
      ∀ serial, d.serialTypes type = some serial → Silent serial.toList := by
  have all : Dialect.builtIn.all (fun d => ColumnType.all.all fun type =>
      ([(d.types type).name] ++ ((d.types type).size.map Size.render).toList ++
        (d.serialTypes type).toList).all (Silent ·.toList)) = true := by decide +kernel
  have here := List.all_eq_true.mp (List.all_eq_true.mp all d known) type (ColumnType.mem_all type)
  have each (text : String) (h : text ∈ [(d.types type).name] ++
      ((d.types type).size.map Size.render).toList ++ (d.serialTypes type).toList) :
      Silent text.toList := of_decide_eq_true (List.all_eq_true.mp here text h)
  exact ⟨each _ (by simp), fun size own => each _ (by simp [own]),
    fun serial own => each _ (by simp [own])⟩

theorem silent_truth (v : Bool) : Silent (d.booleanLiteral v).toList := by
  have all : Dialect.builtIn.all (fun d => [true, false].all fun v =>
      Silent (d.booleanLiteral v).toList) = true := by decide +kernel
  have here := List.all_eq_true.mp (List.all_eq_true.mp all d known) v (by cases v <;> simp)
  exact of_decide_eq_true here

theorem reads_counter : Reads d.autoIncrement.toList [] := by
  have all : Dialect.builtIn.all (fun d => Reads d.autoIncrement.toList []) = true := by
    decide +kernel
  exact of_decide_eq_true (List.all_eq_true.mp all d known)

theorem silent_type (wf : b.WellFormed) (member : c ∈ b.columns) (type : ColumnType) :
    Silent ((d.types type).render c.size).toList := by
  obtain ⟨name, own, -⟩ := silent_spelling known type
  unfold TypeName.render
  split
  · rename_i size given
    split
    · exact name
    · have sized : Silent size.render.toList := by
        rcases Option.or_eq_some_iff.mp given with declared | ⟨-, default⟩
        · obtain ⟨given, read⟩ := wf.sizes c member size declared
          rcases Column.isSizeChar_of_readSize read with ⟨n, count⟩ | chars
          · rw [count]
            exact silent_of_numeral (isNumeral_intText n)
          · exact silent_of_kind (by decide) chars
        · exact own size default
      have split : ((d.types type).name ++ "(" ++ size.render ++ ")").toList =
          ((d.types type).name.toList ++ ['(']) ++ (size.render.toList ++ [')']) := by simp
      rw [split]
      exact (name.concat (by decide)).append_silent (sized.concat (by decide)).silent
  · exact name

end Known

/-- A row of pieces none of which brings a word of a clause with it. -/
abbrev QuietRow (words : Bool) (row : List Piece) : Prop := ∀ piece ∈ row, Quiet (piece.shown words)

theorem QuietRow.append {a z : List Piece} (ha : QuietRow words a) (hz : QuietRow words z) :
    QuietRow words (a ++ z) := List.forall_mem_append.mpr ⟨ha, hz⟩

theorem QuietRow.cons {piece : Piece} (h : Quiet (piece.shown words)) (hrow : QuietRow words row) :
    QuietRow words (piece :: row) := List.forall_mem_cons.mpr ⟨h, hrow⟩

theorem QuietRow.nil : QuietRow words [] := nofun

theorem QuietRow.plain {text : String} (h : Quiet text.toList) (hrow : QuietRow words row) :
    QuietRow words (plain text :: row) := .cons h hrow

theorem quiet_blotted : Quiet ['?'] := by decide

theorem quiet_of_inExpression {piece : Piece} (h : Definition.InExpression piece) :
    Quiet (piece.shown words) := by
  have all : ∀ text ∈ Definition.expressionPhrases, Quiet text.toList := by decide
  cases h with
  | phrase listed => exact all _ listed
  | name | literal => exact quiet_blotted

theorem QuietRow.literalList (texts : List String) : QuietRow words (literalList texts) :=
  fun _ member => quiet_of_inExpression (Definition.inExpression_literalList texts _ member)

theorem QuietRow.namedCheckRow {table : String} {expression : List Piece}
    (h : QuietRow words expression) :
    QuietRow words (Definition.namedCheckRow table c expression) :=
  .append (.append (.plain (by decide) (.cons quiet_blotted (.plain (by decide) .nil))) h)
    (.plain (by decide) .nil)

theorem QuietRow.enumExpressionRow : QuietRow words (Definition.enumExpressionRow c) :=
  fun _ member => quiet_of_inExpression (Definition.inExpression_enum _ member)

theorem QuietRow.setExpressionRow : QuietRow words (Definition.setExpressionRow d c) :=
  fun _ member => quiet_of_inExpression (Definition.inExpression_set _ member)

theorem QuietRow.silent (h : QuietRow words row) : Silent (outline words row) :=
  (Quiet.outline h).silent

/-- A word of the database in a row, if the row is read with it or the word is silent. -/
theorem silent_word {text : String} (h : words = true → Silent text.toList) :
    Silent ((word text).shown words) := by
  cases words with
  | false => exact quiet_blotted.silent
  | true => exact h rfl

/-- The clauses that a column asks for, in the order in which they are written. -/
def clausesOf (d : Dialect) (b : Blueprint) (c : Column) : List ColumnClause :=
  (if c.effectiveDefault.isSome then [.default] else []) ++
    (if !c.nullable b.composite then [.notNull] else if d.can .explicitNull then [.null] else []) ++
    if c.isKey then [.primaryKey] else []

abbrev ReadsAll (words : Bool) (rows : List (List Piece)) (found : List ColumnClause) : Prop :=
  Collected (fun row found => Reads (outline words row) found) rows found

section Rows

variable (known : words = true → d ∈ Dialect.builtIn) (wf : b.WellFormed) (member : c ∈ b.columns)

include known

include wf member in
theorem silent_typeRow : Silent (outline words (Definition.typeRow d b.table c)) := by
  have base (type : ColumnType) :
      Silent ((word ((d.types type).render c.size)).shown words) :=
    silent_word fun shown => silent_type (known shown) wf member type
  have alone {piece : Piece} (h : Silent (piece.shown words)) : Silent (outline words [piece]) := by
    simpa [outline] using h
  have listed {keyword : String} (h : Quiet keyword.toList) :
      QuietRow words ([plain keyword] ++ Piece.literalList c.values ++ [plain ")"]) :=
    .append (.append (.plain h .nil) (.literalList _)) (.plain (by decide) .nil)
  have checked (type : ColumnType) {row : List Piece} (h : QuietRow words row) :
      Silent (outline words ([word ((d.types type).render c.size), plain " "] ++
        Definition.namedCheckRow b.table c row)) := by
    have split : outline words [word ((d.types type).render c.size), plain " "] =
        (word ((d.types type).render c.size)).shown words ++ [' '] := rfl
    rw [outline_append, split]
    exact ((base type).concat (by decide)).append_silent (QuietRow.namedCheckRow h).silent
  unfold Definition.typeRow
  split
  · have nothing : QuietRow words [] := .nil
    exact nothing.silent
  · unfold Definition.enumTypeRow
    dsimp only
    split
    · exact (listed (by decide)).silent
    · exact checked _ .enumExpressionRow
    · exact alone (base _)
  · unfold Definition.setTypeRow
    dsimp only
    split
    · exact (listed (by decide)).silent
    · exact checked _ .setExpressionRow
    · exact checked _ .setExpressionRow
    · exact alone (base _)
  · split
    · rename_i serial counting
      split at counting
      · have own := (Option.filter_eq_some_iff.mp counting).1
        exact alone (silent_word fun shown => (silent_spelling (known shown) _).2.2 serial own)
      · cases counting
    · exact alone (base _)

theorem silent_defaultRow (v : Value) : Silent (outline words (Definition.defaultRow d c v)) := by
  have alone {piece : Piece} (h : Silent (piece.shown words)) : Silent (outline words [piece]) := by
    simpa [outline] using h
  unfold Definition.defaultRow
  split
  · exact alone quiet_blotted.silent
  · split
    · exact (QuietRow.append (.append (.plain (by decide) .nil) (.literalList _))
        (.plain (by decide) .nil)).silent
    · exact alone quiet_blotted.silent
  · exact alone (silent_word fun shown => silent_truth (known shown) _)
  · exact alone (silent_word fun _ => silent_of_numeral (isNumeral_intText _))
  · exact alone (silent_word fun _ => silent_of_numeral (Double.isNumeral_text _))
  · exact alone (silent_word fun _ => silent_of_numeral (Decimal.isNumeral_text _))
  · have nothing : QuietRow words [] := .nil
    exact nothing.silent

omit known in
theorem QuietRow.readsAll (h : QuietRow words row) : ReadsAll words [row] [] :=
  .single h.silent.reads

/-- The clauses between the type of a column and its key. -/
theorem readsAll_frontRows : ReadsAll words (Definition.frontRows d b c)
    ([] ++ (if c.effectiveDefault.isSome then [.default] else []) ++
      (if !c.nullable b.composite then [.notNull]
        else if d.can .explicitNull then [.null] else []) ++ []) := by
  unfold Definition.frontRows
  refine .append (.append (.append ?unsigned ?default) ?null) ?counter
  case unsigned =>
    split
    · exact .single (show Reads "UNSIGNED".toList [] by decide)
    · exact .nil
  case default =>
    cases c.effectiveDefault with
    | none => exact .nil
    | some v =>
      have keyword : Reads "DEFAULT".toList [.default] := by decide
      exact .single (keyword.append (silent_defaultRow known v).reads)
  case null =>
    split
    · exact .single (show Reads "NOT NULL".toList [.notNull] by decide)
    · split
      · exact .single (show Reads "NULL".toList [.null] by decide)
      · exact .nil
  case counter =>
    split
    · cases words with
      | false =>
        have hidden : QuietRow false [word d.autoIncrement] := .cons quiet_blotted .nil
        exact hidden.readsAll
      | true =>
        refine .single ?_
        simpa [outline, shown] using reads_counter (known rfl)
    · exact .nil

omit known in
theorem readsAll_commentRows : ReadsAll words (Definition.commentRows d c) [] := by
  unfold Definition.commentRows
  split
  · rename_i text given
    have quiet : QuietRow words [plain "COMMENT ", literal text] :=
      .plain (by decide) (.cons quiet_blotted .nil)
    split
    · exact quiet.readsAll
    · exact .nil
  · exact .nil

omit known in
theorem readsAll_checkRows : ReadsAll words (Definition.checkRows d c) [] := by
  have positive : QuietRow words [plain "CHECK (", name c.name, plain " >= 0)"] :=
    .plain (by decide) (.cons quiet_blotted (.plain (by decide) .nil))
  have given (expression : String) :
      QuietRow words [plain "CHECK (", free expression, plain ")"] :=
    .plain (by decide) (.cons quiet_blotted (.plain (by decide) .nil))
  unfold Definition.checkRows
  have unsigned : ReadsAll words (if c.unsigned && !d.can .unsigned then
      [[plain "CHECK (", name c.name, plain " >= 0)"]] else []) [] := by
    split
    · exact positive.readsAll
    · exact .nil
  refine unsigned.append ?_
  · cases c.check with
    | none => exact .nil
    | some expression =>
      dsimp only
      split
      · exact .nil
      · exact (given expression).readsAll

-- Each row of a column is read for itself, since none ends in the middle of a clause.
include wf member in
/-- The clauses in the text of a column are those that it asks for. -/
theorem clauses_columnRow :
    Piece.clauses words (Definition.columnRow d b c) = clausesOf d b c := by
  have named : QuietRow words [name c.name] := .cons quiet_blotted .nil
  have key : ReadsAll words (Definition.keyRows c) (if c.isKey then [.primaryKey] else []) := by
    unfold Definition.keyRows
    split
    · exact .single (show Reads "PRIMARY KEY".toList [.primaryKey] by decide)
    · exact .nil
  have typed : ReadsAll words [[name c.name], Definition.typeRow d b.table c] [] :=
    named.readsAll.append (.single (silent_typeRow known wf member).reads)
  have parts := (((typed.append (readsAll_frontRows (b := b) (c := c) known)).append key).append
    (readsAll_commentRows (d := d) (c := c))).append (readsAll_checkRows (d := d) (c := c))
  have asked := Reads.joined parts (by simp)
  rw [Piece.clauses, Definition.columnRow, asked.clauses]
  simp [clausesOf]

end Rows

/-- The clauses in the text of a column, as they follow from what has been declared on it and from
the key of the table. -/
structure ColumnFollows (d : Dialect) (b : Blueprint) (calls : List ColumnCall) (c : Column)
    (found : List ColumnClause) : Prop where
  notNull : .notNull ∈ found ↔
    .auto ∈ calls ∨ .primary ∈ calls ∨ .unique ∈ calls ∨
      (∃ names, b.composite = some names ∧ c.name ∈ names) ∨
      lastOf ColumnCall.nullness? calls ≠ some true
  null : .null ∈ found ↔ .notNull ∉ found ∧ d.can .explicitNull = true
  default : .default ∈ found ↔
    (∃ value, lastOf ColumnCall.default? calls = some (some value)) ∧
      .auto ∉ calls ∧ .unique ∉ calls ∧ c.isSpatial = false
  key : .auto ∈ calls → .primaryKey ∈ found
  once : found.Nodup

/-- Which clauses a column has, by its flags and the dialect. -/
theorem mem_clausesOf (d : Dialect) (b : Blueprint) (c : Column) :
    (.notNull ∈ clausesOf d b c ↔ c.nullable b.composite = false) ∧
    (.null ∈ clausesOf d b c ↔ c.nullable b.composite = true ∧ d.can .explicitNull = true) ∧
    (.default ∈ clausesOf d b c ↔ c.effectiveDefault.isSome = true) ∧
    (.primaryKey ∈ clausesOf d b c ↔ c.isKey = true) ∧ (clausesOf d b c).Nodup := by
  unfold clausesOf
  generalize c.effectiveDefault.isSome = given
  generalize c.nullable b.composite = nullable
  generalize d.can .explicitNull = explicit
  generalize c.isKey = key
  revert given nullable explicit key
  decide

/-- A column takes no absent value if it is in a key or unique, or unless that was declared last. -/
theorem nullable_eq_false_iff {calls : List ColumnCall} (h : c.Remembers calls)
    (composite : Option (List String)) :
    c.nullable composite = false ↔
      .auto ∈ calls ∨ .primary ∈ calls ∨ .unique ∈ calls ∨
        (∃ names, composite = some names ∧ c.name ∈ names) ∨
        lastOf ColumnCall.nullness? calls ≠ some true := by
  have listed : (composite.getD []).contains c.name = true ↔
      ∃ names, composite = some names ∧ c.name ∈ names := by
    cases composite <;> simp
  have declared : c.declaredNull = false ↔ lastOf ColumnCall.nullness? calls ≠ some true := by
    rw [h.declaredNull]
    cases lastOf ColumnCall.nullness? calls <;> simp
  rw [← or_assoc, ← h.isKey, ← h.unique, ← listed, ← declared, Column.nullable]
  cases c.declaredNull <;> cases c.isKey <;> cases c.unique <;>
    cases (composite.getD []).contains c.name <;> decide

theorem isSome_effectiveDefault_iff {calls : List ColumnCall} (h : c.Remembers calls) :
    c.effectiveDefault.isSome = true ↔
      (∃ value, lastOf ColumnCall.default? calls = some (some value)) ∧
        .auto ∉ calls ∧ .unique ∉ calls ∧ c.isSpatial = false := by
  have given : c.default?.isSome = true ↔
      ∃ value, lastOf ColumnCall.default? calls = some (some value) := by
    rw [h.default?]
    cases lastOf ColumnCall.default? calls <;> simp [Option.isSome_iff_exists]
  rw [← given, ← h.auto, ← h.unique, Column.effectiveDefault]
  cases c.auto <;> cases c.unique <;> cases c.isSpatial <;> simp

theorem ColumnFollows.of_remembers {calls : List ColumnCall} (h : c.Remembers calls) :
    ColumnFollows d b calls c (clausesOf d b c) := by
  obtain ⟨notNull, null, default, key, once⟩ := mem_clausesOf d b c
  refine ⟨notNull.trans (nullable_eq_false_iff h _), null.trans ?_,
    default.trans (isSome_effectiveDefault_iff h), fun auto => ?_, once⟩
  · rw [notNull, Bool.not_eq_false]
  · exact key.mpr (h.isKey.mpr (Or.inl auto))

/-- Texts as the rows say, where each column has a row whose clauses follow from what has been
declared on it. The words of a database known from the start are looked at as well; those of another
database may be any text and are left out. -/
structure ColumnsFollow (d : Dialect) (b : Blueprint) (log : List (String × ColumnCall))
    (rows : List (List Piece)) (texts : List String) : Prop where
  rendered : texts = rows.map (statement d)
  placed : ∀ c ∈ b.columns, ∃ row ∈ rows, Definition.columnRow d b c <:+: row
  follows : ∀ c ∈ b.columns, ∀ words, (words = true → d ∈ Dialect.builtIn) →
    ColumnFollows d b (history c.name log) c
      (Piece.clauses words (Definition.columnRow d b c))

theorem infix_joined {separator : String} {rows : List (List Piece)} (h : row ∈ rows) :
    row <:+: joined separator rows := by
  induction rows using joined.induct with
  | case1 => cases h
  | case2 only =>
    obtain rfl := List.mem_singleton.mp h
    exact List.infix_rfl
  | case3 first next rest ih =>
    rw [joined]
    rcases List.mem_cons.mp h with rfl | later
    · exact (List.prefix_append _ _).isInfix
    · exact (ih later).trans ((List.suffix_cons _ _).trans (List.suffix_append _ _)).isInfix

theorem ColumnsFollow.of_tracks {log : List (String × ColumnCall)} {rows : List (List Piece)}
    {texts : List String} (h : b.Tracks log) (rendered : texts = rows.map (statement d))
    (placed : ∀ c ∈ b.columns, ∃ row ∈ rows, Definition.columnRow d b c <:+: row) :
    ColumnsFollow d b log rows texts where
  rendered := rendered
  placed := placed
  follows := by
    intro c member words known
    rw [clauses_columnRow known h.wf member]
    have grown := Column.remembers_grown c.name (history c.name log)
    rw [← h.columns c member] at grown
    exact .of_remembers grown

/-- The row of every column stands in a statement that creates the table. -/
theorem placed_createRows :
    ∀ c ∈ b.columns, ∃ row ∈ createRows d b, Definition.columnRow d b c <:+: row := by
  intro c member
  refine ⟨_, List.mem_cons_self, ?_⟩
  have listed : Definition.columnRow d b c ∈ b.columns.map (Definition.columnRow d b) ++
      (b.composite.map keyRow).toList ++ constraintRows d b :=
    List.mem_append_left _ (List.mem_append_left _ (List.mem_map_of_mem member))
  rw [List.append_assoc (_ ++ joined _ _)]
  exact ((infix_joined listed).trans (List.suffix_append _ _).isInfix).trans
    (List.prefix_append _ _).isInfix

theorem placed_addRows :
    ∀ c ∈ b.columns, ∃ row ∈ addRows d b, Definition.columnRow d b c <:+: row := by
  intro c member
  refine ⟨_, List.mem_append_left _ (List.mem_append_left _ (List.mem_map_of_mem member)), ?_⟩
  exact ((List.suffix_append _ _).trans (List.suffix_append _ _)).isInfix

end Ddl

namespace Blueprint

open Ddl

/-- Whatever calls have been made on a new definition and in whatever order, if all of them were
accepted, the clauses of each column follow from what has been declared on it, whether the table is
created or added to: NOT NULL stands there for a column that counts, a key, a unique column, a
member of the table's key, and one that was not declared to admit NULL in the end; NULL stands there
for the others where the database says so; DEFAULT stands there if the last default is one and the
column neither counts nor is unique or spatial; and a column that counts is a key. -/
theorem clauses_of_applied {table : Value} {deletedAtColumn : String} {fresh : Blueprint}
    {calls : List BlueprintCall} (start : Blueprint.start table deletedAtColumn = .ok fresh)
    (accepted : fresh.applyAll calls = .ok b) (d : Dialect) (texts : List String) :
    ((b.compileCreate d).1 = .ok texts →
      ColumnsFollow d b (calls.flatMap (·.declarations deletedAtColumn)) (createRows d b) texts) ∧
    ((b.compileAdd d).1 = .ok texts →
      ColumnsFollow d b (calls.flatMap (·.declarations deletedAtColumn)) (addRows d b) texts) := by
  have named : fresh.deletedAtColumn = deletedAtColumn := by
    obtain ⟨name, -, rfl⟩ := map_eq_ok.mp start
    rfl
  have tracks := (tracks_start start).applyAll accepted
  rw [named, List.nil_append] at tracks
  refine ⟨fun created => ?_, fun added => ?_⟩
  · exact .of_tracks tracks (create_eq_rows (lockOn_eq_ok.mp created).1).1 placed_createRows
  · exact .of_tracks tracks (add_eq_rows (lockOn_eq_ok.mp added).1).1 placed_addRows

/-- A column that is first to admit NULL and then joins the key of the table, one whose default is
withdrawn, and one that becomes unique after it was given a default. -/
def shiftCalls : List BlueprintCall :=
  [.column (.text "role"), .onColumn "role" .null,
    .onColumn "role" (.typed .varchar (.int 40)),
    .column (.text "unit"), .onColumn "unit" (.default (.int 1)), .onColumn "unit" (.default .null),
    .onColumn "unit" (.typed .int .null),
    .column (.text "code"), .onColumn "code" (.default (.text "NOT NULL")),
    .onColumn "code" .unique, .onColumn "code" .null, .onColumn "code" (.typed .char .null),
    .primary [.text "role"]]

theorem clauses_of_applied_shifts :
    ∃ fresh b texts, Blueprint.start (.text "shifts") "deleted_at" = .ok fresh ∧
      fresh.applyAll shiftCalls = .ok b ∧ (b.compileAdd Dialect.sqlServer).1 = .ok texts ∧
      ColumnsFollow Dialect.sqlServer b (shiftCalls.flatMap (·.declarations "deleted_at"))
        (addRows Dialect.sqlServer b) texts := by
  have start : Blueprint.start (.text "shifts") "deleted_at" = .ok { table := "shifts" } := rfl
  obtain ⟨b, accepted⟩ :
      ∃ b, applyAll { table := "shifts" } shiftCalls = .ok b := exists_of_isOk (by decide +kernel)
  obtain ⟨texts, added⟩ : ∃ texts, (b.compileAdd Dialect.sqlServer).1 = .ok texts := by
    rw [← run_of_applyAll accepted]
    exact exists_of_isOk (by decide +kernel)
  exact ⟨_, b, texts, start, accepted, added,
    (clauses_of_applied start accepted Dialect.sqlServer texts).2 added⟩

end Blueprint

end Sqlwright
