import Mathlib.Algebra.GroupWithZero.Nat
import Sqlwright.Proofs.Dialect.Pagination
import Sqlwright.Proofs.Query.Letters

/-!
Counting the marks of a text. A quoted reference has none as long as the quotation marks of the
database have none, so the marks of a query are those of its conditions: as many as there are
parameters, condition by condition.
-/

namespace Sqlwright

open Text

/-- The number of marks in a text. -/
def marks (text : String) : Nat := text.toList.count Statement.mark

/-- The quotation marks of a database hold no mark of a parameter. -/
def Dialect.Markless (d : Dialect) : Prop :=
  Statement.mark ∉ d.quotes.opening.toList ∧ Statement.mark ∉ d.quotes.closing.toList

/-- A text that begins with no digit, so that it may stand right behind a mark. -/
def Detached (text : String) : Prop := text.toList.head?.all (!·.isDigit) = true

@[simp]
theorem marks_append (a b : String) : marks (a ++ b) = marks a + marks b := by
  simp [marks, String.toList_append, List.count_append]

/-- Keywords and punctuation: the condition is evaluated where the text is a literal. -/
@[simp]
theorem marks_eq_zero {text : String} (h : text.toList.all (· != '?') = true) :
    marks text = 0 := by
  rw [marks, List.count_eq_zero]
  intro member
  have := List.all_eq_true.mp h _ member
  simp [Statement.mark] at this

theorem marks_join {separator : String} (h : marks separator = 0) (parts : List String) :
    marks (join separator parts) = (parts.map marks).sum := by
  induction parts using join.induct with
  | case1 => rfl
  | case2 part => simp [join]
  | case3 part next rest ih =>
    rw [join, marks_append, marks_append, ih, h]
    simp

theorem marks_join_eq_zero {separator : String} (h : marks separator = 0) {parts : List String}
    (each : ∀ part ∈ parts, marks part = 0) : marks (join separator parts) = 0 := by
  rw [marks_join h]
  induction parts with
  | nil => rfl
  | cons part rest ih =>
    have here := each part (by simp)
    have later := ih fun other member => each other (by simp [member])
    simp [here, later]

theorem marks_join_replicate {separator : String} (h : marks separator = 0) (n : Nat)
    (part : String) : marks (join separator (List.replicate n part)) = n * marks part := by
  rw [marks_join h, List.map_replicate]
  simp

theorem marks_intText (n : Int) : marks (Number.intText n) = 0 := by
  have digits : marks (String.ofList (Number.decimalDigits n.natAbs)) = 0 := by
    rw [marks, String.toList_ofList, List.count_eq_zero]
    intro member
    have := Number.isDigit_of_mem_decimalDigits member
    simp [Statement.mark] at this
  unfold Number.intText
  split
  · simp [digits]
  · exact digits

theorem Detached.append {a b : String} (ha : Detached a) (hb : Detached b) : Detached (a ++ b) := by
  unfold Detached at ha hb ⊢
  rw [String.toList_append, List.head?_append]
  cases first : a.toList.head? with
  | none => simpa using hb
  | some c => simpa [first] using ha

/-- What stands behind the first text does not matter once there is a first text. -/
theorem Detached.append_of_ne {a : String} (ha : Detached a) (present : a ≠ "") (b : String) :
    Detached (a ++ b) := by
  unfold Detached at ha ⊢
  rw [String.toList_append, List.head?_append]
  cases first : a.toList.head? with
  | none => exact absurd (String.toList_eq_nil_iff.mp (List.head?_eq_none_iff.mp first)) present
  | some c => simpa [first] using ha

namespace Dialect

variable {d : Dialect} {text : String}

theorem Markless.not_nameLetter (free : d.Markless) : ¬ d.NameLetter Statement.mark := by
  rintro (opening | closing | letter | dot)
  · exact free.1 opening
  · exact free.2 closing
  · exact absurd letter (by decide)
  · exact absurd dot (by decide)

theorem Markless.not_termLetter (free : d.Markless) : ¬ d.TermLetter Statement.mark := by
  rintro (letter | special)
  · exact free.not_nameLetter letter
  · exact absurd special (by decide)

theorem Markless.column (free : d.Markless) (h : d.IsColumn text) : marks text = 0 := by
  rw [marks, List.count_eq_zero]
  exact fun member => free.not_termLetter (h.letter member)

theorem Markless.table (free : d.Markless) (h : d.IsTable text) : marks text = 0 := by
  rw [marks, List.count_eq_zero]
  exact fun member => free.not_termLetter (h.letter member)

theorem Markless.name (free : d.Markless) {name : String} (h : d.quoteIdentifier name = .ok text) :
    marks text = 0 := by
  rw [marks, List.count_eq_zero]
  exact fun member => free.not_nameLetter (nameLetter_of_quoteIdentifier h member)

theorem Markless.key (free : d.Markless) {key : Key} (h : d.quoteKey key = .ok text) :
    marks text = 0 := by
  cases key with
  | text name => exact free.name h
  | other shown => cases h

/-- A text has a mark for each of some values, and no other but in the names that are quoted in
it. -/
def Marked (d : Dialect) (text : String) (values : List Value) : Prop :=
  ∃ names : List String, (∀ name ∈ names, d.IsColumn name) ∧
    marks text = values.length + (names.map marks).sum

/-- Nothing but the values brings marks into a text. -/
theorem Markless.marked (free : d.Markless) {values : List Value} (h : d.Marked text values) :
    marks text = values.length := by
  obtain ⟨names, quoted, count⟩ := h
  have silent : names.map marks = names.map fun _ => 0 :=
    List.map_congr_left fun name member => free.column (quoted name member)
  rw [count, silent]
  simp

end Dialect

theorem Comparison.marks_sql (operator : Comparison) : marks operator.sql = 0 := by
  cases operator <;> rfl

/-- A condition has as many marks as parameters, beside those in the name of its column. -/
theorem Atom.marks_sql (a : Atom) : marks a.sql = a.params.length + marks a.column := by
  cases a with
  | comparison column operator value =>
    have mark : marks " ?" = 1 := rfl
    simp [Atom.sql, Atom.params, Atom.column, mark, operator.marks_sql]
    omega
  | negation column operator value =>
    have mark : marks " ?)" = 1 := rfl
    simp [Atom.sql, Atom.params, Atom.column, mark, operator.marks_sql]
    omega
  | membership column negated values =>
    have comma : marks ", " = 0 := rfl
    have mark : marks "?" = 1 := rfl
    cases negated <;>
      simp [Atom.sql, Atom.params, Atom.column, marks_join_replicate comma, mark, Nat.add_comm]
  | nullness column negated =>
    cases negated <;> simp [Atom.sql, Atom.params, Atom.column]
  | range column low high =>
    have range : marks " BETWEEN ? AND ?" = 2 := rfl
    simp [Atom.sql, Atom.params, Atom.column, range]
    omega

namespace Condition

theorem marks_connected (first : Bool) (connector : Connector) (text : String) :
    marks (connected first connector text) = marks text := by
  cases first <;> cases connector <;> simp [connected, Connector.sql]

mutual

/-- At every depth, a condition has as many marks as parameters, beside those in the names of its
columns. The induction is on the tree. -/
theorem marks_sql : (c : Condition) →
    marks c.sql = c.params.length + (c.atoms.map fun a => marks a.column).sum
  | .atom a => by simp [sql, params, atoms, a.marks_sql]
  | .group members => by
    have inner := marks_texts true members
    have blank : marks " " = 0 := rfl
    simp [sql, params, atoms, marks_join blank, inner]

/-- The marks of a level are those of its values and those in the names of its columns. -/
theorem marks_texts (first : Bool) : (level : List (Connector × Condition)) →
    ((texts first level).map marks).sum =
      (levelParams level).length + ((levelAtoms level).map fun a => marks a.column).sum
  | [] => rfl
  | (connector, condition) :: rest => by
    have here := marks_sql condition
    have later := marks_texts false rest
    simp [texts, levelParams, levelAtoms, marks_connected, here, later]
    omega

end

/-- The texts of a level one by one: each has a mark for each parameter of its condition. -/
theorem marked_texts {d : Dialect} (first : Bool) {level : Level}
    (quoted : ∀ a ∈ levelAtoms level, d.IsColumn a.column) :
    List.Forall₂ d.Marked (texts first level) (level.map fun entry => entry.2.params) := by
  induction level generalizing first with
  | nil => exact .nil
  | cons entry rest ih =>
    refine .cons ?_ (ih false fun a member => quoted a (List.mem_append_right _ member))
    refine ⟨entry.2.atoms.map Atom.column, ?_, ?_⟩
    · intro name member
      obtain ⟨a, inside, rfl⟩ := List.mem_map.mp member
      exact quoted a (List.mem_append_left _ inside)
    · rw [marks_connected, marks_sql, List.map_map]
      rfl

theorem levelParams_eq_flatten (level : Level) :
    levelParams level = (level.map fun entry => entry.2.params).flatten := by
  induction level with
  | nil => rfl
  | cons entry rest ih => simp [levelParams, ih]

end Condition

namespace Pagination

variable {d : Dialect} {front back columns sql : String} {limit offset : Option Int}
  {ordered : Bool}

/-- Pagination writes no marks, and it leaves the table and what follows as they are. What it puts
behind them begins with no digit. -/
theorem apply_split (head : front = "SELECT " ++ columns ++ " FROM ")
    (h : apply d (front ++ back) limit offset ordered = .ok sql) :
    ∃ front' rest, sql = front' ++ back ++ rest ∧ marks front' = marks front ∧ marks rest = 0 ∧
      Detached rest := by
  have behind (clause : String) (quiet : marks clause = 0) (apart : Detached clause)
      (made : front ++ back ++ clause = sql) :
      ∃ front' rest, sql = front' ++ back ++ rest ∧ marks front' = marks front ∧ marks rest = 0 ∧
        Detached rest :=
    ⟨front, clause, made.symm, rfl, quiet, apart⟩
  cases limit with
  | none =>
    cases h
    exact behind "" rfl rfl String.append_empty
  | some limit =>
    have number := marks_intText limit
    have fetched {style : PaginationStyle} (known : d.pagination = style)
        (needs : NeedsOrder style) (offset : Int)
        (h : apply d (front ++ back) (some limit) (some offset) ordered = .ok sql) :
        ∃ front' rest, sql = front' ++ back ++ rest ∧ marks front' = marks front ∧
          marks rest = 0 ∧ Detached rest := by
      have made : ordered = true ∧ front ++ back ++ offsetFetch offset limit = sql := by
        rcases needs with rfl | rfl
        all_goals
          simp only [apply, known] at h
          split at h
          · cases h
            exact ⟨‹_›, rfl⟩
          · cases h
      refine behind (offsetFetch offset limit) ?_ ?_ made.2
      · simp [offsetFetch, number, marks_intText offset]
      · simp [offsetFetch, Detached]
    cases style : d.pagination with
    | limitOffset =>
      cases offset with
      | none =>
        simp only [apply, style, Except.ok.injEq] at h
        refine behind (" LIMIT " ++ Number.intText limit) ?_ ?_ ?_
        · simp [number]
        · simp [Detached]
        · simpa [String.append_assoc] using h
      | some offset =>
        simp only [apply, style, Except.ok.injEq] at h
        refine behind
          (" LIMIT " ++ Number.intText limit ++ " OFFSET " ++ Number.intText offset) ?_ ?_ ?_
        · simp [number, marks_intText offset]
        · simp [Detached]
        · simpa [String.append_assoc] using h
    | top =>
      cases offset with
      | none =>
        obtain ⟨distinct, rest, split, free⟩ := exists_selectHead columns back
        have placed := insertTop_selectHead limit free
        rw [← String.append_assoc, ← split, ← head] at placed
        simp only [apply, style, placed, Except.ok.injEq] at h
        refine ⟨selectHead distinct ++ ("TOP " ++ Number.intText limit ++ " ") ++ rest, "", ?_, ?_,
          rfl, rfl⟩
        · rw [← h]
          simp [String.append_assoc]
        · simp [head, split, number]
      | some offset => exact fetched style (Or.inl rfl) offset h
    | offsetFetch =>
      cases offset with
      | none =>
        simp only [apply, style, Except.ok.injEq] at h
        refine behind (" FETCH FIRST " ++ Number.intText limit ++ " ROWS ONLY") ?_ ?_ ?_
        · simp [number]
        · simp [Detached]
        · simpa [String.append_assoc] using h
      | some offset => exact fetched style (Or.inr rfl) offset h
    | rowsRange =>
      simp only [apply, style, Except.ok.injEq] at h
      refine behind (" ROWS " ++ Number.intText (offset.getD 0 + 1) ++ " TO " ++
        Number.intText (offset.getD 0 + 1 + limit - 1)) ?_ ?_ ?_
      · simp [marks_intText]
      · simp [Detached]
      · simpa [String.append_assoc] using h
    | other name =>
      simp only [apply, style] at h
      cases h

end Pagination

end Sqlwright
