import Sqlwright.Proofs.Schema.Finding
import Sqlwright.Proofs.Schema.Refusal

/-!
The default of an enumeration or a set against the check that keeps its values, where the database
has neither. Both are read back from the row of the column: the check as a condition on what the
column holds (`Piece.valueChecks`), the default as what it holds then (`Piece.defaults`). An
enumeration admits its default. A set admits it as far as the check of the database does, since its
default is compared with nothing. Main statement: `Blueprint.Reachable.default_admitted_iff`.
-/

namespace Sqlwright

open Definition Piece Text

variable {d : Dialect} {b : Blueprint} {c : Column} {table : String} {row : List Piece}

/-- What a column holds: a text, or an array of texts. -/
inductive Held
  | text (s : String)
  | items (texts : List String)
  deriving DecidableEq, Repr

/-- How what a column holds is compared with some values: it is one of them, each of its items is
one of them, or it has one of them in it. -/
inductive ValueRelation
  | equalsOne | eachAmong | containsOne
  deriving DecidableEq, Repr

namespace ValueRelation

/-- Whether what is held stands in a relation to some values. A text is no array and an array is no
text. -/
def Holds : ValueRelation → List String → Held → Prop
  | equalsOne, values, .text s => s ∈ values
  | eachAmong, values, .items texts => ∀ text ∈ texts, text ∈ values
  | containsOne, values, .text s => ∃ v ∈ values, v.toList <:+: s.toList
  | _, _, _ => False

instance : (relation : ValueRelation) → (values : List String) → (held : Held) →
    Decidable (relation.Holds values held)
  | equalsOne, values, .text s => inferInstanceAs (Decidable (s ∈ values))
  | eachAmong, values, .items texts => inferInstanceAs (Decidable (∀ text ∈ texts, text ∈ values))
  | containsOne, values, .text s =>
    inferInstanceAs (Decidable (∃ v ∈ values, v.toList <:+: s.toList))
  | equalsOne, _, .items _ | eachAmong, _, .text _ | containsOne, _, .items _ =>
    inferInstanceAs (Decidable False)

end ValueRelation

/-- A condition on what a column holds. -/
structure ValueCheck where
  column : String
  relation : ValueRelation
  values : List String
  deriving DecidableEq, Repr

def ValueCheck.Admits (k : ValueCheck) (held : Held) : Prop := k.relation.Holds k.values held

instance (k : ValueCheck) (held : Held) : Decidable (k.Admits held) :=
  inferInstanceAs (Decidable (k.relation.Holds k.values held))

namespace Piece

/-- The literals at the front of a row, with commas between them, up to what closes the list. -/
def listedAhead (closing : String) : List Piece → Option (List String)
  | literal s :: plain text :: rest =>
    if text = closing then some [s]
    else if text = "," then (listedAhead closing rest).map (s :: ·)
    else none
  | _ => none

/-- What a column is compared with by a word at the front of a row, with OR between the comparisons,
up to the end of the check. -/
def comparedAhead (column keyword : String) : List Piece → Option (List String)
  | name other :: plain found :: literal s :: plain text :: rest =>
    if other ≠ column ∨ found ≠ keyword then none
    else if text = ")" then some [s]
    else if text = " OR " then (comparedAhead column keyword rest).map (s :: ·)
    else none
  | _ => none

def betweenSigns (pattern : String) : Option String :=
  match pattern.toList with
  | '%' :: rest => if rest.getLast? = some '%' then some (String.ofList rest.dropLast) else none
  | _ => none

def prependLetter (letter : Char) : List (List Char) → List (List Char)
  | [] => [[letter]]
  | first :: others => (letter :: first) :: others

/-- The alternatives of a pattern from inside its bracket on, none of which has a sign in it but
behind a backslash. -/
def alternativesFrom : List Char → Option (List (List Char))
  | [] => none
  | [')'] => some [[]]
  | '|' :: rest => (alternativesFrom rest).map ([] :: ·)
  | '\\' :: letter :: rest => (alternativesFrom rest).map (prependLetter letter)
  | letter :: rest =>
    if letter ∈ patternSigns then none else (alternativesFrom rest).map (prependLetter letter)

/-- The alternatives of a pattern in brackets. -/
def alternatives (pattern : String) : Option (List String) :=
  match pattern.toList with
  | '(' :: rest => (alternativesFrom rest).map (·.map String.ofList)
  | _ => none

/-- What a word between a column and a literal compares, and how the value is read from the literal.
Patterns are taken for texts to be found somewhere. -/
def relationBy (keyword : String) : Option (ValueRelation × (String → Option String)) :=
  if keyword = " = " then some (.equalsOne, some)
  else if keyword = " LIKE " then some (.containsOne, betweenSigns)
  else if keyword = " CONTAINING " then some (.containsOne, some)
  else none

def checkAhead : List Piece → Option ValueCheck
  | plain text :: name column :: plain between :: literal pattern :: _ =>
    if text = "REGEXP_LIKE(" ∧ between = ", " then
      (alternatives pattern).map (⟨column, .containsOne, ·⟩)
    else none
  | name column :: plain keyword :: rest =>
    if keyword = " IN (" then (listedAhead ")" rest).map (⟨column, .equalsOne, ·⟩)
    else if keyword = " <@ ARRAY[" then (listedAhead "]" rest).map (⟨column, .eachAmong, ·⟩)
    else do
      let (relation, value) ← relationBy keyword
      let texts ← comparedAhead column keyword (name column :: plain keyword :: rest)
      return ⟨column, relation, ← texts.mapM value⟩
  | _ => none

def valueChecks (row : List Piece) : List ValueCheck := behind [" CHECK ("] checkAhead row

def heldAhead : List Piece → Option Held
  | literal s :: _ => some (.text s)
  | plain text :: rest => if text = "ARRAY[" then (listedAhead "]" rest).map .items else none
  | _ => none

def defaults (row : List Piece) : List Held := behind ["DEFAULT "] heldAhead row

section Ahead

theorem listedAhead_literalList {closing : String} {texts : List String} (present : texts ≠ [])
    (rest : List Piece) (other : closing ≠ ",") :
    listedAhead closing (literalList texts ++ plain closing :: rest) = some texts := by
  induction texts with
  | nil => exact absurd rfl present
  | cons s others ih =>
    cases others with
    | nil => simp [literalList, joined, listedAhead]
    | cons next more =>
      have later := ih (by simp)
      simp only [literalList, List.map_cons] at later
      simp [literalList, joined, listedAhead, other.symm, later]

theorem comparedAhead_joined {column keyword : String} {values : List String}
    (pattern : String → String) (present : values ≠ []) (rest : List Piece) :
    comparedAhead column keyword
      (joined " OR " (values.map fun v => [name column, plain keyword, literal (pattern v)]) ++
        plain ")" :: rest) = some (values.map pattern) := by
  induction values with
  | nil => exact absurd rfl present
  | cons v others ih =>
    cases others with
    | nil => simp [joined, comparedAhead]
    | cons next more =>
      have later := ih (by simp)
      simp only [List.map_cons] at later
      simp [joined, comparedAhead, later]

theorem betweenSigns_between (v : String) : betweenSigns ("%" ++ v ++ "%") = some v := by
  simp [betweenSigns]

/-- An escaped letter stands for itself. -/
theorem alternativesFrom_escaped (letter : Char) (rest : List Char) :
    alternativesFrom ('\\' :: letter :: rest) =
      (alternativesFrom rest).map (prependLetter letter) := by
  cases rest <;> rfl

theorem alternativesFrom_letter {letter : Char} (h : letter ∉ patternSigns) (rest : List Char) :
    alternativesFrom (letter :: rest) = (alternativesFrom rest).map (prependLetter letter) := by
  have sign (other : Char) (listed : other ∈ patternSigns) : letter ≠ other :=
    fun same => h (same ▸ listed)
  have closing := sign ')' (by decide)
  have bar := sign '|' (by decide)
  have backslash := sign '\\' (by decide)
  rw [alternativesFrom, if_neg h]
  · exact fun same _ => closing same
  · exact bar
  · exact fun _ _ same _ => backslash same

/-- The letters of a text in a pattern that matches it stand before the first alternative. -/
theorem alternativesFrom_escapePattern (text rest : List Char) :
    alternativesFrom (escapePattern text ++ rest) =
      (alternativesFrom rest).map fun found => text.foldr prependLetter found := by
  induction text with
  | nil => simp [escapePattern]
  | cons letter more ih =>
    have step : alternativesFrom (escapePattern (letter :: more) ++ rest) =
        (alternativesFrom (escapePattern more ++ rest)).map (prependLetter letter) := by
      by_cases sign : letter ∈ patternSigns
      · simpa [escapePattern, sign] using alternativesFrom_escaped letter _
      · simpa [escapePattern, sign] using alternativesFrom_letter sign _
    rw [step, ih, Option.map_map]
    rfl

theorem foldr_prependLetter (text first : List Char) (others : List (List Char)) :
    text.foldr prependLetter (first :: others) = (text ++ first) :: others := by
  induction text with
  | nil => rfl
  | cons letter more ih => rw [List.foldr_cons, ih, prependLetter, List.cons_append]

/-- The values of a set are the alternatives of its pattern. -/
theorem alternatives_setPattern (declared : c.values ≠ []) :
    alternatives (setPattern c) = some c.values := by
  have inside {values : List String} (present : values ≠ []) :
      alternativesFrom ((join "|" (values.map fun v =>
        String.ofList (escapePattern v.toList))).toList ++ [')']) =
        some (values.map String.toList) := by
    induction values with
    | nil => exact absurd rfl present
    | cons v others ih =>
      cases others with
      | nil =>
        simp [join, alternativesFrom_escapePattern, alternativesFrom, foldr_prependLetter]
      | cons next more =>
        have later := ih (by simp)
        simp only [List.map_cons] at later
        simp [join, alternativesFrom_escapePattern, alternativesFrom, foldr_prependLetter, later]
  simp [alternatives, setPattern, inside declared, Function.comp_def]

/-- Comparisons with OR between them are one condition. -/
theorem checkAhead_compared {column keyword : String} {relation : ValueRelation}
    {value : String → Option String} {pattern : String → String} {values : List String}
    (known : relationBy keyword = some (relation, value))
    (reads : ∀ v, value (pattern v) = some v) (present : values ≠ []) (rest : List Piece) :
    checkAhead
      (joined " OR " (values.map fun v => [name column, plain keyword, literal (pattern v)]) ++
        plain ")" :: rest) = some ⟨column, relation, values⟩ := by
  have other : keyword ≠ " IN (" ∧ keyword ≠ " <@ ARRAY[" := by
    constructor <;> rintro rfl <;> cases known
  have compared : comparedAhead column keyword _ = some (values.map pattern) :=
    comparedAhead_joined pattern present rest
  have read : values.mapM (value ∘ pattern) = some values := by
    clear compared present
    induction values with
    | nil => rfl
    | cons v others ih => simp [reads, ih]
  obtain ⟨tail, front⟩ : ∃ tail, joined " OR " (values.map fun v =>
      [name column, plain keyword, literal (pattern v)]) ++ plain ")" :: rest =
        name column :: plain keyword :: tail := by
    obtain ⟨first, others, rfl⟩ := List.exists_cons_of_ne_nil present
    cases others <;> exact ⟨_, rfl⟩
  rw [front] at compared ⊢
  simp [checkAhead, other, known, compared, read]

end Ahead

end Piece

namespace Definition

def relation (d : Dialect) (c : Column) : ValueRelation :=
  if c.type = some .enum then .equalsOne
  else
    match d.setStyle with
    | .array => .eachAmong
    | .orEquals => .equalsOne
    | _ => .containsOne

def membership (d : Dialect) (c : Column) : ValueCheck := ⟨c.name, relation d c, c.values⟩

def heldBy (d : Dialect) (c : Column) (s : String) : Held :=
  if c.type = some .set ∧ d.setStyle = .array then .items (splitOn ',' s) else .text s

def isEmulated (d : Dialect) (c : Column) : Bool := checkedInType d c || checkedBehind d c

theorem isEmulated_iff : isEmulated d c = true ↔
    c.type = some .enum ∧ (d.enumStyle = .inlineCheck ∨ d.enumStyle = .namedConstraint) ∨
      c.type = some .set ∧ d.setStyle ∈ [.array, .orEquals, .like, .regexp, .containing] := by
  simp only [isEmulated, checkedInType, checkedBehind, Bool.or_eq_true, decide_eq_true_eq,
    List.mem_cons, List.not_mem_nil, or_false]
  tauto

/-- The databases known from the start keep the values by a check wherever they have no such type
of their own. -/
theorem isEmulated_of_known (known : d ∈ Dialect.builtIn) :
    isEmulated d c = true ↔ c.type = some .enum ∧ d.enumStyle ≠ .native ∨
      c.type = some .set ∧ d.setStyle ≠ .native := by
  have styles : ∀ d ∈ Dialect.builtIn,
      (d.enumStyle ≠ .native ↔ d.enumStyle = .inlineCheck ∨ d.enumStyle = .namedConstraint) ∧
      (d.setStyle ≠ .native ↔ d.setStyle ∈ [.array, .orEquals, .like, .regexp, .containing]) := by
    decide +kernel
  rw [isEmulated_iff, (styles d known).1, (styles d known).2]

/-- The check is read as the condition that it states. -/
theorem checkAhead_conditionRow (emulated : isEmulated d c = true) (declared : c.values ≠ [])
    (rest : List Piece) :
    checkAhead (conditionRow d c ++ plain ")" :: rest) = some (membership d c) := by
  rcases isEmulated_iff.mp emulated with ⟨enum, -⟩ | ⟨set, style⟩
  · have listed := listedAhead_literalList declared (plain ")" :: rest) (show ")" ≠ "," by decide)
    simp [conditionRow, enum, enumExpressionRow, checkAhead, listed, membership, relation]
  · have other : c.type ≠ some .enum := by simp [set]
    simp only [conditionRow, membership, relation, if_neg other]
    simp only [List.mem_cons, List.not_mem_nil, or_false] at style
    rcases style with style | style | style | style | style <;>
      simp only [setExpressionRow, style]
    · have listed := listedAhead_literalList declared (plain ")" :: rest)
        (show "]" ≠ "," by decide)
      simp [checkAhead, listed]
    · exact checkAhead_compared rfl (fun _ => rfl) declared rest
    · exact checkAhead_compared rfl betweenSigns_between declared rest
    · simp [checkAhead, alternatives_setPattern declared]
    · exact checkAhead_compared rfl (fun _ => rfl) declared rest

section Column

variable (emulated : isEmulated d c = true) (declared : c.values ≠ [])

include emulated declared

/-- The check under a name has one condition. -/
theorem finds_membership (table : String) : Finds [" CHECK ("] checkAhead
    (namedCheckRow table c (conditionRow d c)) [membership d c] :=
  finds_readCheck (checkAhead_conditionRow emulated declared) table

/-- A column and what stands behind the columns for it have one check under a name, which keeps the
declared values. -/
theorem valueChecks_eq (b : Blueprint) :
    (columnRow d b c :: emulatedCheckRows d b.table c).flatMap valueChecks = [membership d c] := by
  have check := finds_membership emulated declared b.table
  have default : Collected (Finds [" CHECK ("] checkAhead) (defaultRows d c) [] :=
    collected_defaultRows (by decide)
  have inside := finds_columnRow (by decide) (fun _ => check) default
  have whole := (Collected.single inside).append (finds_emulatedCheckRows fun _ => check)
  have once : (if checkedInType d c then [membership d c] else []) ++ [] ++
      (if checkedBehind d c then [membership d c] else []) = [membership d c] := by
    cases inType : checkedInType d c with
    | true => simp [not_checkedBehind inType]
    | false =>
      have behind : checkedBehind d c = true := by simpa [isEmulated, inType] using emulated
      simp [behind]
  rw [once] at whole
  exact Finds.flatMap_behind whole

end Column

/-- A default that is a text is read back as what the column holds then. -/
theorem defaults_eq {s : String} (given : c.effectiveDefault = some (.text s)) :
    defaults (columnRow d b c) = [heldBy d c s] := by
  have check : Finds ["DEFAULT "] heldAhead (namedCheckRow b.table c (conditionRow d c)) [] :=
    finds_muteCheck (by decide) b.table
  have reads (rest : List Piece) :
      heldAhead (defaultRow d c (.text s) ++ rest) = some (heldBy d c s) := by
    have present : splitOn ',' s ≠ [] := by simp [splitOn, pieces_ne_nil]
    have listed := listedAhead_literalList present rest (show "]" ≠ "," by decide)
    unfold defaultRow heldBy
    dsimp only
    split
    · simpa [heldAhead] using listed
    · rfl
  have default : Collected (Finds ["DEFAULT "] heldAhead) (defaultRows d c) [heldBy d c s] := by
    rw [defaultRows, given]
    exact .single (.mark (by decide) reads (isMute_defaultRow (by decide) _))
  have inside := finds_columnRow (by decide) (fun _ => check) default
  rw [ite_self, List.nil_append] at inside
  exact inside.behind_eq

/-- Whether a set holds a text by default that its check admits: where sets are arrays, each part
between commas is a declared value; where they are compared with each value, the text is one; else
it has one in it. -/
def KeepsDefault (d : Dialect) (c : Column) (s : String) : Prop :=
  match d.setStyle with
  | .array => ∀ item ∈ splitOn ',' s, item ∈ c.values
  | .orEquals => s ∈ c.values
  | _ => ∃ v ∈ c.values, v.toList <:+: s.toList

/-- For one of several values the check admits the values that were declared. -/
theorem admits_enum (enum : c.type = some .enum) (s : String) :
    (membership d c).Admits (heldBy d c s) ↔ s ∈ c.values := by
  simp [ValueCheck.Admits, ValueRelation.Holds, membership, relation, heldBy, enum]

/-- For several values at once the check admits the defaults that a set of the style keeps. -/
theorem admits_set (set : c.type = some .set) (s : String) :
    (membership d c).Admits (heldBy d c s) ↔ KeepsDefault d c s := by
  cases style : d.setStyle <;>
    simp [ValueCheck.Admits, ValueRelation.Holds, membership, relation, heldBy, KeepsDefault, set,
      style]

/-- A set of declared values with commas between them is kept, but where the whole of it is compared
with each value. -/
theorem keepsDefault_of_items {s : String} (items : ∀ item ∈ splitOn ',' s, item ∈ c.values)
    (whole : d.setStyle = .orEquals → s ∈ c.values) : KeepsDefault d c s := by
  have inside : ∃ v ∈ c.values, v.toList <:+: s.toList := by
    obtain ⟨first, others, split⟩ := List.exists_cons_of_ne_nil
      (show splitOn ',' s ≠ [] by simp [splitOn, pieces_ne_nil])
    have member : first ∈ splitOn ',' s := by simp [split]
    obtain ⟨piece, cut, rfl⟩ := List.mem_map.mp member
    refine ⟨_, items _ member, ?_⟩
    rw [String.toList_ofList]
    exact isInfix_of_mem_pieces cut
  unfold KeepsDefault
  split <;> rename_i style
  · exact items
  · exact whole style
  · exact inside

/-- What is written for a column, read back: its check, and what it holds by default. -/
structure ReadBack (d : Dialect) (b : Blueprint) (c : Column) (text : String)
    (behind : Option String) (check : ValueCheck) (held : Held) : Prop where
  rendered : text = render d (columnRow d b c)
  renderedBehind : behind.toList = (emulatedCheckRows d b.table c).map (render d)
  check : (columnRow d b c :: emulatedCheckRows d b.table c).flatMap valueChecks = [check]
  default : defaults (columnRow d b c) = [held]

/-- An enumeration is only written with a declared value as its default. -/
theorem mem_values_of_column {s text : String} (enum : c.type = some .enum)
    (given : c.effectiveDefault = some (.text s)) (written : column d b c = .ok text) :
    s ∈ c.values := by
  obtain ⟨_, -, h⟩ := bind_eq_ok.mp written
  obtain ⟨_, -, h⟩ := bind_eq_ok.mp h
  obtain ⟨default, literal, -⟩ := bind_eq_ok.mp h
  unfold defaultLiteral at literal
  rw [given] at literal
  obtain ⟨_, fitting, -⟩ := map_eq_ok.mp literal
  unfold fittingLiteral at fitting
  rw [enum] at fitting
  by_contra other
  simp [isDeclared, other] at fitting

end Definition

namespace Blueprint

theorem WellFormed.readBack (wf : b.WellFormed) (member : c ∈ b.columns)
    (emulated : isEmulated d c = true) (declared : c.values ≠ []) {s text : String}
    (given : c.effectiveDefault = some (.text s)) (written : Definition.column d b c = .ok text) :
    ∃ behind, emulatedCheck d b.table c = .ok behind ∧
      ReadBack d b c text behind (membership d c) (heldBy d c s) := by
  obtain ⟨behind, checked⟩ := exists_emulatedCheck (d := d) wf.table (wf.names c member)
  exact ⟨behind, checked, (render_columnRow written).symm, (render_emulatedCheckRows checked).symm,
    valueChecks_eq emulated declared b, defaults_eq given⟩

/-- If a column with declared values stands in for an enumeration or a set and has a text as its
default, what is written for it has one check on its values and that default. An enumeration admits
its default. A set admits it exactly if the database's way to check sets does; it always does for
declared values with commas between them, but where the whole text is compared with each value. -/
theorem Reachable.default_admitted_iff (h : b.Reachable) (member : c ∈ b.columns)
    (emulated : isEmulated d c = true) (declared : c.values ≠ []) {s text : String}
    (given : c.effectiveDefault = some (.text s)) (written : Definition.column d b c = .ok text) :
    ∃ behind check held, emulatedCheck d b.table c = .ok behind ∧
      ReadBack d b c text behind check held ∧ check.column = c.name ∧ check.values = c.values ∧
      (c.type = some .enum → check.Admits held) ∧
      (c.type = some .set → (check.Admits held ↔ KeepsDefault d c s)) ∧
      (c.type = some .set → (∀ item ∈ splitOn ',' s, item ∈ c.values) →
        (d.setStyle = .orEquals → s ∈ c.values) → check.Admits held) := by
  obtain ⟨behind, checked, readBack⟩ := h.wellFormed.readBack member emulated declared given written
  refine ⟨behind, _, _, checked, readBack, rfl, rfl, fun enum => ?_, fun set => admits_set set s,
    fun set items whole => ?_⟩
  · exact (admits_enum enum s).mpr (mem_values_of_column enum given written)
  · exact (admits_set set s).mpr (keepsDefault_of_items items whole)

/-- A set whose default is none of its values, and one whose default is two of them. -/
def posts : Blueprint :=
  Blueprint.run { table := "posts" }
    [.call (.column (.text "tags")), .call (.onColumn "tags" (.set [.text "a", .text "b"])),
      .call (.onColumn "tags" (.default (.text "c"))),
      .call (.column (.text "topics")), .call (.onColumn "topics" (.set [.text "a", .text "b"])),
      .call (.onColumn "topics" (.default (.text "a,b")))]

def letters (name default : String) : Column :=
  { name, type := some .set, values := ["a", "b"], default? := some (.text default) }

theorem columns_posts : posts.columns = [letters "tags" "c", letters "topics" "a,b"] := rfl

theorem reachable_posts : posts.Reachable :=
  (Reachable.start (show Blueprint.start (.text "posts") "deleted_at" = _ from rfl)).run _

theorem Reachable.default_admitted_iff_topics :
    letters "topics" "a,b" ∈ posts.columns ∧
      ∃ text, Definition.column Dialect.pgsql posts (letters "topics" "a,b") = .ok text ∧
        ∃ behind check held,
          ReadBack Dialect.pgsql posts (letters "topics" "a,b") text behind check held ∧
          check.Admits held := by
  have member : letters "topics" "a,b" ∈ posts.columns := by simp [columns_posts]
  obtain ⟨text, written⟩ :
      ∃ text, Definition.column Dialect.pgsql posts (letters "topics" "a,b") = .ok text :=
    exists_of_isOk (by decide +kernel)
  obtain ⟨behind, check, held, -, readBack, -, -, -, -, kept⟩ :=
    Reachable.default_admitted_iff reachable_posts member (by decide +kernel) (by decide) rfl
      written
  exact ⟨member, text, written, behind, check, held, readBack,
    kept rfl (by decide +kernel) (by decide)⟩

/-- A set is written with a default that no database admits. -/
theorem default_refused_posts :
    posts.Reachable ∧ letters "tags" "c" ∈ posts.columns ∧
      ∀ d ∈ Dialect.builtIn, d.setStyle ≠ .native →
        ∃ text behind check held, Definition.column d posts (letters "tags" "c") = .ok text ∧
          emulatedCheck d posts.table (letters "tags" "c") = .ok behind ∧
          ReadBack d posts (letters "tags" "c") text behind check held ∧ ¬ check.Admits held := by
  have member : letters "tags" "c" ∈ posts.columns := by simp [columns_posts]
  have all : ∀ d ∈ Dialect.builtIn, d.setStyle ≠ .native →
      (Definition.column d posts (letters "tags" "c")).isOk = true ∧
        ¬ (membership d (letters "tags" "c")).Admits (heldBy d (letters "tags" "c") "c") := by
    decide +kernel
  refine ⟨reachable_posts, member, fun d known emulating => ?_⟩
  obtain ⟨isOk, refused⟩ := all d known emulating
  obtain ⟨text, written⟩ := exists_of_isOk isOk
  have emulated : isEmulated d (letters "tags" "c") = true :=
    (isEmulated_of_known known).mpr (Or.inr ⟨rfl, emulating⟩)
  obtain ⟨behind, checked, readBack⟩ :=
    reachable_posts.wellFormed.readBack member emulated (by decide) rfl written
  exact ⟨text, behind, _, _, written, checked, readBack, refused⟩

end Blueprint

end Sqlwright
