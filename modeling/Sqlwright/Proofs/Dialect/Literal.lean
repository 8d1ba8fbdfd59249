import Sqlwright.Dialect.BuiltIn
import Sqlwright.Schema.Definition

/-!
String literals, read back. A reader that has passed the opening quote takes two quotes for one and,
on a database with such escapes, a backslash together with the character behind it; it stops behind
the first quote that no other follows. Two backslashes stand for one. What a backslash stands for in
front of another character differs between databases, so the reader is given it. Main statement:
`Dialect.literals_read_back`.
-/

namespace Sqlwright

open Text

/-- Where a reader of a literal stands: inside it, behind a quote that may be the first of two, or
behind a backslash that goes with the next character. -/
inductive LiteralPosition
  | inside
  | quoted
  | escaped

namespace Dialect

variable (d : Dialect) (meaning : Char → List Char)

/-- Reads the rest of a literal: its text up to the closing quote, and what stands behind it. -/
def readInLiteral : LiteralPosition → List Char → Option (List Char × List Char)
  | .inside, [] | .escaped, [] => none
  | .quoted, [] => some ([], [])
  | .inside, c :: rest =>
    if c = '\'' then readInLiteral .quoted rest
    else if c = '\\' && d.can .backslashEscapes then readInLiteral .escaped rest
    else (readInLiteral .inside rest).map fun (text, behind) => (c :: text, behind)
  | .quoted, c :: rest =>
    if c = '\'' then (readInLiteral .inside rest).map fun (text, behind) => (c :: text, behind)
    else some ([], c :: rest)
  | .escaped, c :: rest =>
    let meant := if c = '\\' then ['\\'] else meaning c
    (readInLiteral .inside rest).map fun (text, behind) => (meant ++ text, behind)

def readLiteral : List Char → Option (List Char × List Char)
  | [] => none
  | c :: rest => if c = '\'' then d.readInLiteral meaning .inside rest else none

variable {d meaning} {position : LiteralPosition} {text value behind rest : List Char}

theorem length_readInLiteral (h : d.readInLiteral meaning position text = some (value, behind)) :
    behind.length ≤ text.length := by
  induction text generalizing position value with
  | nil =>
    cases position with
    | inside | escaped => cases h
    | quoted =>
      cases h
      exact Nat.le_refl _
  | cons c later ih =>
    -- Every step but the last goes on with the characters behind the first.
    have goes_on {next : LiteralPosition} (front : List Char)
        (h : (d.readInLiteral meaning next later).map
          (fun (text, behind) => (front ++ text, behind)) = some (value, behind)) :
        behind.length ≤ (c :: later).length := by
      obtain ⟨⟨_, _⟩, read, same⟩ := Option.map_eq_some_iff.mp h
      cases same
      exact Nat.le_succ_of_le (ih read)
    cases position with
    | inside =>
      rw [readInLiteral] at h
      split at h
      · exact Nat.le_succ_of_le (ih h)
      · split at h
        · exact Nat.le_succ_of_le (ih h)
        · exact goes_on [c] h
    | quoted =>
      rw [readInLiteral] at h
      split at h
      · exact goes_on [c] h
      · cases h
        exact Nat.le_refl _
    | escaped => exact goes_on _ h

/-- A literal takes up some of the text, so that a list of them comes to an end. -/
theorem length_readLiteral (h : d.readLiteral meaning text = some (value, behind)) :
    behind.length < text.length := by
  cases text with
  | nil => cases h
  | cons c rest =>
    rw [readLiteral] at h
    split at h
    · exact Nat.lt_succ_of_le (length_readInLiteral h)
    · cases h

variable (d meaning)

/-- Reads literals with commas between them, at least one. -/
def readLiterals (text : List Char) : Option (List (List Char) × List Char) :=
  match _ : d.readLiteral meaning text with
  | none => none
  | some (value, ',' :: rest) =>
    (readLiterals rest).map fun (values, behind) => (value :: values, behind)
  | some (value, behind) => some ([value], behind)
termination_by text.length
decreasing_by
  have shorter := length_readLiteral ‹d.readLiteral meaning text = _›
  rw [List.length_cons] at shorter
  omega

def readValueList (text : List Char) : Option (List (List Char) × List Char) :=
  if text.head? = some '\'' then d.readLiterals meaning text else some ([], text)

variable {d meaning}

theorem readLiterals_of_comma (h : d.readLiteral meaning text = some (value, ',' :: rest)) :
    d.readLiterals meaning text =
      (d.readLiterals meaning rest).map fun (values, behind) => (value :: values, behind) := by
  rw [readLiterals]
  split <;> rename_i read
  · rw [read] at h
    cases h
  · rw [read] at h
    cases h
    rfl
  · rename_i other
    rw [read] at h
    cases h
    exact absurd rfl (other rest)

theorem readLiterals_of_end (h : d.readLiteral meaning text = some (value, behind))
    (ended : behind.head? ≠ some ',') : d.readLiterals meaning text = some ([value], behind) := by
  rw [readLiterals]
  split <;> rename_i read
  · rw [read] at h
    cases h
  · rw [read] at h
    cases h
    exact absurd rfl ended
  · rw [read] at h
    cases h
    rfl

/-- A text is read as it was before its quotes and backslashes were written twice, up to a quote
that no other follows. -/
theorem readInLiteral_literal (text : List Char) (apart : rest.head? ≠ some '\'') :
    d.readInLiteral meaning .inside
        (text.flatMap (literalChar (d.can .backslashEscapes)) ++ '\'' :: rest) =
      some (text, rest) := by
  induction text with
  | nil =>
    cases rest with
    | nil => rfl
    | cons c later =>
      have other : c ≠ '\'' := fun same => apart (by rw [same]; rfl)
      simp [readInLiteral, other]
  | cons c others ih =>
    rw [List.flatMap_cons, List.append_assoc]
    rcases literalChar_cases (d.can .backslashEscapes) c with
      ⟨rfl, twice⟩ | ⟨rfl, escapes, twice⟩ | ⟨quote, escape, once⟩
    · simp [twice, readInLiteral, ih]
    · rw [twice, List.cons_append, readInLiteral, if_neg (by decide), if_pos (by simp [escapes]),
        List.singleton_append, readInLiteral, ih]
      rfl
    · simp [once, readInLiteral, quote, escape, ih]

/-- A literal is read back as the text that it is for, whatever follows but another quote. -/
theorem readLiteral_quoteString (text : String) (apart : rest.head? ≠ some '\'') :
    d.readLiteral meaning ((d.quoteString text).toList ++ rest) = some (text.toList, rest) := by
  rw [quoteString, String.toList_ofList, List.append_assoc, List.cons_append, readLiteral,
    if_pos rfl, List.singleton_append, readInLiteral_literal _ apart]

/-- A list of literals is read back value by value. -/
theorem readLiterals_join {texts : List String} (given : texts ≠ [])
    (apart : rest.head? ≠ some '\'') (ended : rest.head? ≠ some ',') :
    d.readLiterals meaning ((join "," (texts.map d.quoteString)).toList ++ rest) =
      some (texts.map String.toList, rest) := by
  induction texts using join.induct with
  | case1 => exact absurd rfl given
  | case2 text => exact readLiterals_of_end (readLiteral_quoteString text apart) ended
  | case3 text next others ih =>
    have ih := ih (by simp)
    have comma : ",".toList = [','] := rfl
    simp only [List.map_cons, join, String.toList_append, List.append_assoc, comma,
      List.cons_append, List.nil_append] at ih ⊢
    have first : d.readLiteral meaning ((d.quoteString text).toList ++ ',' ::
        ((join "," (d.quoteString next :: others.map d.quoteString)).toList ++ rest)) =
        some (text.toList, _) := readLiteral_quoteString text (by simp)
    rw [readLiterals_of_comma first, ih]
    rfl

theorem head_join_quoteString (first : String) (others : List String) :
    (join "," ((first :: others).map d.quoteString)).toList.head? = some '\'' := by
  cases others with
  | nil => simp [join, quoteString]
  | cons next others => simp [join, quoteString]

/-- A literal is read up to its closing quote, whatever follows it other than a quote, as the text
it was written for. The values that a column declares are read back from their list. -/
theorem literals_read_back (d : Dialect) (meaning : Char → List Char) :
    (∀ text rest : String, rest.toList.head? ≠ some '\'' →
      d.readLiteral meaning (d.quoteString text ++ rest).toList = some (text.toList, rest.toList)) ∧
    ∀ (c : Column) (rest : String), rest.toList.head? ≠ some '\'' → rest.toList.head? ≠ some ',' →
      d.readValueList meaning (Definition.valueList d c ++ rest).toList =
        some (c.values.map String.toList, rest.toList) := by
  constructor
  · intro text rest apart
    rw [String.toList_append, readLiteral_quoteString text apart]
  · intro c rest apart ended
    rw [String.toList_append, Definition.valueList, readValueList]
    cases c.values with
    | nil =>
      rw [if_neg (by simpa [join] using apart)]
      rfl
    | cons first others =>
      rw [if_pos (by rw [List.head?_append, head_join_quoteString, Option.some_or]),
        readLiterals_join (by simp) apart ended]

/-- Backslashes, quotes and commas, in a literal and in a list of values. -/
theorem literals_read_back_hostile :
    let meaning (c : Char) := if c = 'n' then ['\n'] else [c]
    mysql.readLiteral meaning "'C:\\\\n'' \\\\' NOT NULL".toList =
        some ("C:\\n' \\".toList, " NOT NULL".toList) ∧
      mysql.readValueList meaning "'\\\\','''',''',''','')".toList =
        some (["\\".toList, "'".toList, "','".toList, []], [')']) := by
  intro meaning
  obtain ⟨literal, list⟩ := literals_read_back mysql meaning
  exact ⟨literal "C:\\n' \\" " NOT NULL" (by decide),
    list { name := "flags", values := ["\\", "'", "','", ""] } ")" (by decide) (by decide)⟩

end Dialect

end Sqlwright
