import Sqlwright.Proofs.Dialect.Pagination
import Sqlwright.Proofs.Dialect.Quotes
import Sqlwright.Proofs.Query.Letters

/-!
The form of the texts that statements are put together from. Outside quotation marks stand letters,
digits, underscores and a few marks of punctuation, and a minus only in front of a blank; between
quotation marks stands a name (`QuotePair.Spelled`). Every clause of a well-formed query has this
form. Where the quotation marks stand for nothing else, as they do in all databases known from the
start, a text of this form is clean (`QuotePair.Clean`): nothing in it ends a statement, a name or a
literal, or begins a comment.
-/

namespace Sqlwright

open Text

namespace Text

/-- What stands behind a text without a minus holds the comment if the whole does. -/
theorem comment_behind {before text : List Char} (h : '-' ∉ before)
    (comment : ['-', '-'] <:+: before ++ text) : ['-', '-'] <:+: text := by
  induction before with
  | nil => exact comment
  | cons c rest ih =>
    rw [List.mem_cons, not_or] at h
    obtain ⟨other, later⟩ := h
    rcases List.infix_cons_iff.mp comment with here | behind
    · exact absurd (List.cons_prefix_cons.mp here).1 other
    · exact ih later behind

end Text

namespace QuotePair

/-- A text in which quotation marks stand around names only. -/
inductive Encloses (pair : QuotePair) : List Char → Prop
  | nil : Encloses pair []
  | outside {c : Char} {rest : List Char} (opening : c ∉ pair.opening.toList)
    (closing : c ∉ pair.closing.toList) (later : Encloses pair rest) : Encloses pair (c :: rest)
  | name {segment rest : List Char} (h : Identifier.isName segment = true)
    (later : Encloses pair rest) :
    Encloses pair (pair.opening.toList ++ segment ++ pair.closing.toList ++ rest)

/-- SQL that holds nothing foreign: no character that ends a statement or a literal, no comment, and
no quotation mark but those around names. -/
structure Clean (pair : QuotePair) (sql : String) : Prop where
  harmless : ∀ c ∈ sql.toList, c ∉ breaking ∧ isControl c = false
  uncommented : ¬ ['-', '-'] <:+: sql.toList
  enclosed : pair.Encloses sql.toList

/-- A text of plain characters, quoted names and minuses in front of blanks. -/
inductive Spelled (pair : QuotePair) : List Char → Prop
  | nil : Spelled pair []
  | plain {c : Char} {rest : List Char} (h : isPlain c = true) (later : Spelled pair rest) :
    Spelled pair (c :: rest)
  | minus {rest : List Char} (later : Spelled pair rest) : Spelled pair ('-' :: ' ' :: rest)
  | name {segment rest : List Char} (h : Identifier.isName segment = true)
    (later : Spelled pair rest) : Spelled pair (pair.wrap segment ++ rest)

variable {pair : QuotePair} {opening closing : Char} {text : List Char}

theorem Spelled.append {a b : List Char} (ha : pair.Spelled a) (hb : pair.Spelled b) :
    pair.Spelled (a ++ b) := by
  induction ha with
  | nil => exact hb
  | plain h _ ih => exact .plain h ih
  | minus _ ih => exact .minus ih
  | name h _ ih =>
    rw [List.append_assoc]
    exact .name h ih

theorem spelled_of_all (h : ∀ c ∈ text, isPlain c = true) : pair.Spelled text := by
  induction text with
  | nil => exact .nil
  | cons c rest ih => exact .plain (h c (by simp)) (ih fun x member => h x (by simp [member]))

namespace Spelled

/-- What stands behind plain characters has the form as well. -/
theorem behind (apart : pair.Apart opening closing) {head : List Char}
    (known : ∀ c ∈ head, isPlain c = true) (h : pair.Spelled (head ++ text)) :
    pair.Spelled text := by
  induction head with
  | nil => exact h
  | cons c rest ih =>
    have plain := known c (by simp)
    refine ih (fun x member => known x (by simp [member])) ?_
    generalize split : c :: rest ++ text = whole at h
    cases h with
    | nil => cases split
    | plain _ later =>
      cases split
      exact later
    | minus _ =>
      obtain ⟨rfl, -⟩ := List.cons.inj split
      exact absurd plain (by decide)
    | name name _ =>
      rw [apart.wrap_eq name] at split
      obtain ⟨rfl, -⟩ := List.cons.inj split
      rw [apart.opening_foreign] at plain
      cases plain

/-- What holds of plain characters, the minus and the quotation marks holds of every character. -/
theorem forall_mem (apart : pair.Apart opening closing) {P : Char → Prop}
    (plain : ∀ c, isPlain c = true → P c) (minus : P '-') (quotes : ∀ c ∈ [opening, closing], P c)
    (h : pair.Spelled text) : ∀ c ∈ text, P c := by
  induction h with
  | nil => simp
  | plain h _ ih => exact List.forall_mem_cons.mpr ⟨plain _ h, ih⟩
  | minus _ ih =>
    exact List.forall_mem_cons.mpr
      ⟨minus, List.forall_mem_cons.mpr ⟨plain _ (by decide), ih⟩⟩
  | name h _ ih =>
    rw [apart.wrap_eq h]
    intro c member
    simp only [List.cons_append, List.append_assoc, List.mem_cons, List.mem_append,
      List.not_mem_nil, false_or] at member
    rcases member with rfl | inside | rfl | later
    · exact quotes c (by simp)
    · exact plain c (isPlain_of_isTail (Identifier.isName_tail h inside))
    · exact quotes c (by simp)
    · exact ih c later

theorem harmless (apart : pair.Apart opening closing) (h : pair.Spelled text) :
    ∀ c ∈ text, c ∉ breaking ∧ isControl c = false :=
  h.forall_mem apart
    (fun _ plain => ⟨not_mem_breaking_of_isPlain plain, not_isControl_of_isPlain plain⟩) (by decide)
    fun c quote => (apart.foreign c quote).2.2

/-- Behind a minus stands a blank, so that no comment begins. -/
theorem uncommented (apart : pair.Apart opening closing) (h : pair.Spelled text) :
    ¬ ['-', '-'] <:+: text := by
  induction h with
  | nil => simp
  | @plain c rest h _ ih =>
    have other : '-' ∉ [c] := by
      intro member
      obtain rfl := List.mem_singleton.mp member
      exact absurd h (by decide)
    exact fun comment => ih (comment_behind other comment)
  | minus _ ih =>
    intro comment
    rcases List.infix_cons_iff.mp comment with here | behind
    · obtain ⟨-, next⟩ := List.cons_prefix_cons.mp here
      exact absurd (List.cons_prefix_cons.mp next).1 (by decide)
    · have blank : '-' ∉ [' '] := by decide
      exact ih (comment_behind blank behind)
  | @name segment rest h _ ih =>
    have quiet : '-' ∉ pair.wrap segment := by
      rw [apart.wrap_eq h, List.mem_cons, List.mem_append, List.mem_singleton]
      rintro (rfl | inside | rfl)
      · exact (apart.foreign '-' (by simp)).2.1 rfl
      · exact absurd (Identifier.isName_tail h inside) (by decide)
      · exact (apart.foreign '-' (by simp)).2.1 rfl
    exact fun comment => ih (comment_behind quiet comment)

/-- Quotation marks come into a text with the names that they enclose and in no other way. -/
theorem enclosed (apart : pair.Apart opening closing) (h : pair.Spelled text) :
    pair.Encloses text := by
  have outside {c : Char} {rest : List Char} (h : isPlain c = true ∨ c = '-')
      (later : pair.Encloses rest) : pair.Encloses (c :: rest) :=
    .outside (apart.not_mark h).1 (apart.not_mark h).2 later
  induction h with
  | nil => exact .nil
  | plain h _ ih => exact outside (Or.inl h) ih
  | minus _ ih => exact outside (Or.inr rfl) (outside (Or.inl (by decide)) ih)
  | name h _ ih =>
    have named := Encloses.name h ih
    rw [apart.opens, apart.closes] at named
    rw [apart.wrap_eq h]
    exact named

theorem clean (apart : pair.Apart opening closing) {sql : String}
    (h : pair.Spelled sql.toList) : pair.Clean sql where
  harmless := h.harmless apart
  uncommented := h.uncommented apart
  enclosed := h.enclosed apart

end Spelled

end QuotePair

namespace Dialect

variable {d : Dialect} {a b text name : String}

/-- Texts that are put together from plain characters and names quoted for a database. -/
def Tidy (d : Dialect) (text : String) : Prop := d.quotes.Spelled text.toList

theorem Tidy.append (ha : d.Tidy a) (hb : d.Tidy b) : d.Tidy (a ++ b) := by
  rw [Tidy, String.toList_append]
  exact QuotePair.Spelled.append ha hb

/-- Keywords and punctuation. -/
theorem tidy_literal (known : text.toList.all isPlain = true) : d.Tidy text :=
  QuotePair.spelled_of_all (List.all_eq_true.mp known)

theorem Tidy.append_literal (h : d.Tidy a) (known : b.toList.all isPlain = true) :
    d.Tidy (a ++ b) := h.append (tidy_literal known)

theorem tidy_literal_append (known : a.toList.all isPlain = true) (h : d.Tidy b) :
    d.Tidy (a ++ b) := (tidy_literal known).append h

theorem tidy_join {separator : String} {parts : List String}
    (known : separator.toList.all isPlain = true) (each : ∀ part ∈ parts, d.Tidy part) :
    d.Tidy (join separator parts) := by
  induction parts using join.induct with
  | case1 => exact .nil
  | case2 part => exact each part (by simp)
  | case3 part next rest ih =>
    have later := ih fun other member => each other (by simp [member])
    exact ((each part (by simp)).append (tidy_literal known)).append later

theorem tidy_join_replicate {separator : String} (known : separator.toList.all isPlain = true)
    (h : d.Tidy text) (n : Nat) : d.Tidy (join separator (List.replicate n text)) :=
  tidy_join known fun _ member => List.eq_of_mem_replicate member ▸ h

theorem tidy_intText {n : Int} (h : 0 ≤ n) : d.Tidy (Number.intText n) := by
  refine QuotePair.spelled_of_all fun c member => ?_
  rw [toList_intText h] at member
  have digit := Number.isDigit_of_mem_decimalDigits member
  simp [isPlain, Identifier.isTail, Char.isAlphanum, digit]

/-- A quoted name is tidy: dots stand between its quoted parts. -/
theorem tidy_quoteIdentifier (h : d.quoteIdentifier name = .ok text) : d.Tidy text := by
  unfold quoteIdentifier at h
  split at h
  · rename_i qualified
    cases h
    refine tidy_join (by decide) ?_
    intro part member
    obtain ⟨segment, piece, rfl⟩ := List.mem_map.mp member
    have wrapped : d.quotes.Spelled (d.quotes.wrap segment ++ []) :=
      .name (Identifier.isName_of_mem_pieces qualified piece) .nil
    rwa [Tidy, String.toList_ofList, ← List.append_nil (d.quotes.wrap segment)]
  · cases h

theorem tidy_quoteKey {key : Key} (h : d.quoteKey key = .ok text) : d.Tidy text := by
  cases key with
  | text name => exact tidy_quoteIdentifier h
  | other shown => cases h

/-- The name of a function is plain however it was given. -/
theorem tidy_capitals {function : List Char}
    (h : ∃ word ∈ ColumnTerm.aggregates, spells word.toList function = true) :
    d.Tidy (String.ofList (capitals function)) := by
  obtain ⟨word, hword, spelled⟩ := h
  have letters : ∀ word ∈ ColumnTerm.aggregates, word.toList.all isPlain = true := by decide
  have special : ['S', 'I', 'F', 'L', 'T', 'İ'].all isPlain = true := by decide
  rw [Tidy, String.toList_ofList]
  refine QuotePair.spelled_of_all fun c member => ?_
  rcases mem_capitals_of_spells spelled member with letter | other
  · exact List.all_eq_true.mp (letters word hword) c letter
  · exact List.all_eq_true.mp special c other

theorem tidy_render {term : ColumnTerm} (sound : term.Sound) (h : term.render d = .ok text) :
    d.Tidy text := by
  induction term generalizing text with
  | star =>
    cases h
    exact tidy_literal (by decide)
  | allOf owner =>
    obtain ⟨quoted, hquoted, h⟩ := bind_eq_ok.mp h
    cases h
    exact (tidy_quoteIdentifier hquoted).append_literal (by decide)
  | aggregate function distinct argument =>
    obtain ⟨inner, hinner, rfl⟩ := ColumnTerm.render_aggregate_eq_ok h
    have argument : d.Tidy inner := by
      rcases hinner with rfl | quoted
      · exact tidy_literal (by decide)
      · exact tidy_quoteIdentifier quoted
    have keyword : d.Tidy (if distinct then "DISTINCT " else "") := by
      cases distinct <;> exact tidy_literal (by decide)
    exact ((((tidy_capitals sound).append_literal (by decide)).append keyword).append
      argument).append_literal (by decide)
  | plain name => exact tidy_quoteIdentifier h
  | aliased base name ih =>
    obtain ⟨before, hbefore, h⟩ := bind_eq_ok.mp h
    obtain ⟨quoted, hquoted, h⟩ := bind_eq_ok.mp h
    cases h
    exact ((ih sound hbefore).append_literal (by decide)).append (tidy_quoteIdentifier hquoted)

theorem IsColumn.tidy (h : d.IsColumn text) : d.Tidy text := by
  obtain ⟨given, h⟩ := h
  exact tidy_render (ColumnTerm.sound_read _) h

theorem IsTable.tidy (h : d.IsTable text) : d.Tidy text := by
  obtain ⟨given, h⟩ := h
  obtain ⟨name, hname, h⟩ := bind_eq_ok.mp h
  split at h
  · cases h
    exact tidy_quoteIdentifier hname
  · obtain ⟨second, hsecond, h⟩ := bind_eq_ok.mp h
    cases h
    exact ((tidy_quoteIdentifier hname).append_literal (by decide)).append
      (tidy_quoteIdentifier hsecond)

end Dialect

open Dialect

variable {d : Dialect}

theorem Comparison.tidy_sql (operator : Comparison) : d.Tidy operator.sql := by
  cases operator <;> exact tidy_literal (by decide)

theorem Atom.tidy_sql {a : Atom} (h : d.Tidy a.column) : d.Tidy a.sql := by
  cases a with
  | comparison column operator value =>
    exact ((h.append_literal (by decide)).append operator.tidy_sql).append_literal (by decide)
  | negation column operator value =>
    exact (((tidy_literal_append (by decide) h).append_literal (by decide)).append
      operator.tidy_sql).append_literal (by decide)
  | membership column negated values =>
    have keyword : d.Tidy (if negated then " NOT IN (" else " IN (") := by
      cases negated <;> exact tidy_literal (by decide)
    have marks : d.Tidy (join ", " (values.map fun _ => "?")) := by
      rw [List.map_const']
      exact tidy_join_replicate (by decide) (tidy_literal (by decide)) values.length
    exact ((h.append keyword).append marks).append_literal (by decide)
  | nullness column negated =>
    have keyword : d.Tidy (if negated then " IS NOT NULL" else " IS NULL") := by
      cases negated <;> exact tidy_literal (by decide)
    exact h.append keyword
  | range column low high => exact h.append_literal (by decide)

namespace Condition

theorem tidy_connected (first : Bool) (connector : Connector) {text : String} (h : d.Tidy text) :
    d.Tidy (connected first connector text) := by
  have keyword : d.Tidy connector.sql := by cases connector <;> exact tidy_literal (by decide)
  cases first with
  | true => exact h
  | false => exact (keyword.append_literal (by decide)).append h

mutual

theorem tidy_sql : (c : Condition) → (∀ a ∈ c.atoms, d.Tidy a.column) → d.Tidy c.sql
  | .atom a, h => a.tidy_sql (h a (by simp [atoms]))
  | .group members, h => by
    have inner : d.Tidy (join " " (texts true members)) :=
      tidy_join (by decide) (tidy_texts true members h)
    exact (tidy_literal_append (by decide) inner).append_literal (by decide)

theorem tidy_texts (first : Bool) : (level : List (Connector × Condition)) →
    (∀ a ∈ levelAtoms level, d.Tidy a.column) → ∀ text ∈ texts first level, d.Tidy text
  | [], _ => by simp [texts]
  | (connector, condition) :: rest, h => by
    have here := tidy_sql condition fun a member => h a (by simp [levelAtoms, member])
    have later := tidy_texts false rest fun a member => h a (by simp [levelAtoms, member])
    rw [texts]
    exact List.forall_mem_cons.mpr ⟨tidy_connected first connector here, later⟩

end

end Condition

namespace Query.WellFormed

variable {q : Query}

theorem tidy_columns (wf : q.WellFormed d) : d.Tidy (join ", " q.columns) :=
  tidy_join (by decide) fun text member => (wf.columns text member).tidy

theorem tidy_table (wf : q.WellFormed d) {table : String} (h : q.requireTable = .ok table) :
    d.Tidy table := by
  unfold Query.requireTable at h
  split at h
  · rename_i found
    split at h
    · cases h
    · cases h
      exact (wf.table table found).tidy
  · cases h

theorem tidy_joinsSql (wf : q.WellFormed d) : d.Tidy q.joinsSql := by
  refine tidy_join (by decide) ?_
  intro part member
  obtain ⟨j, hj, rfl⟩ := List.mem_map.mp member
  obtain ⟨table, left, right⟩ := wf.joins j hj
  have kind : d.Tidy j.kind.sql := by cases j.kind <;> exact tidy_literal (by decide)
  have target : d.Tidy (j.kind.sql ++ " JOIN " ++ j.table ++ " ON ") :=
    ((kind.append_literal (by decide)).append table.tidy).append_literal (by decide)
  have compared : d.Tidy
      (j.kind.sql ++ " JOIN " ++ j.table ++ " ON " ++ j.left ++ " " ++ j.operator.sql) :=
    ((target.append left.tidy).append_literal (by decide)).append j.operator.tidy_sql
  have sides : d.Tidy j.sql := (compared.append_literal (by decide)).append right.tidy
  exact tidy_literal_append (by decide) sides

theorem tidy_whereSql (wf : q.WellFormed d) : d.Tidy q.whereSql := by
  unfold whereSql
  split
  · exact tidy_literal (by decide)
  · have texts := Condition.tidy_texts true q.conditions fun a member => (wf.atoms a member).tidy
    exact tidy_literal_append (by decide) (tidy_join (by decide) texts)

theorem tidy_groupingSql (wf : q.WellFormed d) : d.Tidy q.groupingSql := by
  refine .append ?_ ?_
  · split
    · exact tidy_literal (by decide)
    · exact tidy_literal_append (by decide)
        (tidy_join (by decide) fun text member => (wf.groups text member).tidy)
  · split
    · exact tidy_literal (by decide)
    · refine tidy_literal_append (by decide) (tidy_join (by decide) ?_)
      intro part member
      obtain ⟨entry, hentry, rfl⟩ := List.mem_map.mp member
      have column := (wf.havings entry hentry).tidy
      exact ((column.append_literal (by decide)).append entry.operator.tidy_sql).append_literal
        (by decide)

theorem tidy_orderSql (wf : q.WellFormed d) : d.Tidy q.orderSql := by
  unfold orderSql
  split
  · exact tidy_literal (by decide)
  · refine tidy_literal_append (by decide) (tidy_join (by decide) ?_)
    intro part member
    obtain ⟨entry, hentry, rfl⟩ := List.mem_map.mp member
    have direction : d.Tidy entry.direction.sql := by
      cases entry.direction <;> exact tidy_literal (by decide)
    exact ((wf.orders entry hentry).tidy.append_literal (by decide)).append direction

end Query.WellFormed

end Sqlwright
