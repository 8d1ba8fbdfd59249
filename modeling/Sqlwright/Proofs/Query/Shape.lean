import Sqlwright.Proofs.Query.Test
import Sqlwright.Proofs.Query.Tidy

/-!
The shape of a WHERE clause: which tests stand in it, and how connectors and parentheses hold them
together. A shape is written for a database and read back without knowing for which. Main statement:
`Shape.readWhere_sql`.
-/

namespace Sqlwright

open Text

namespace Text

/-- Takes the one of some words off the front of a text that stands there. -/
def readWord {α : Type} (words : List α) (spelling : α → String) (text : List Char) :
    Option (α × List Char) :=
  words.findSome? fun word => (Pagination.behind? (spelling word) text).map (word, ·)

/-- If no word begins another, a word at the front of a text is read. -/
theorem readWord_append {α : Type} {words : List α} {spelling : α → String} {word : α}
    (member : word ∈ words)
    (free : ∀ other ∈ words, (spelling other).toList <+: (spelling word).toList ∨
      (spelling word).toList <+: (spelling other).toList → other = word) (rest : List Char) :
    readWord words spelling ((spelling word).toList ++ rest) = some (word, rest) := by
  induction words with
  | nil => cases member
  | cons other others ih =>
    rw [readWord, List.findSome?_cons]
    by_cases same : other = word
    · rw [same, Pagination.behind?_append]
      rfl
    · have absent : ¬ (spelling other).toList <+: (spelling word).toList ++ rest := fun begins =>
        same (free other (by simp)
          (List.prefix_or_prefix_of_prefix begins (List.prefix_append _ rest)))
      rw [Pagination.behind?_eq_none absent]
      refine ih ?_ fun next later => free next (by simp [later])
      exact (List.mem_cons.mp member).resolve_left (Ne.symm same)

theorem readWord_eq_none {α : Type} {words : List α} {spelling : α → String} {text : List Char}
    (h : ∀ word ∈ words, ¬ (spelling word).toList <+: text) :
    readWord words spelling text = none := by
  refine List.findSome?_eq_none_iff.mpr fun word member => ?_
  rw [Pagination.behind?_eq_none (h word member)]
  rfl

/-- What only surrounds the parts of a joined text can be left out afterwards. -/
theorem filter_join {keep : Char → Bool} (dot : keep '.' = true) {wrap : List Char → List Char}
    {parts : List (List Char)} (each : ∀ part ∈ parts, (wrap part).filter keep = part) :
    (join "." (parts.map fun part => String.ofList (wrap part))).toList.filter keep =
      (join "." (parts.map String.ofList)).toList := by
  induction parts with
  | nil => rfl
  | cons part rest ih =>
    have here := each part (by simp)
    have later := ih fun other member => each other (by simp [member])
    cases rest with
    | nil => simpa [join] using here
    | cons next more => simpa [join, dot, here] using later

end Text

structure ColumnName where
  text : String
  qualified : Identifier.isQualified text.toList = true

namespace ColumnName

def isLetter (c : Char) : Bool := Identifier.isTail c || c == '.'

def sql (d : Dialect) (n : ColumnName) : String :=
  join "." ((pieces (· == '.') n.text.toList).map fun segment =>
    String.ofList (d.quotes.wrap segment))

def read (text : List Char) : Option (ColumnName × List Char) :=
  let spelled := String.ofList ((text.takeWhile (· != ' ')).filter isLetter)
  if h : Identifier.isQualified spelled.toList then
    some (⟨spelled, h⟩, text.dropWhile (· != ' '))
  else none

variable {d : Dialect} {opening closing : Char}

theorem quoteIdentifier_text (d : Dialect) (n : ColumnName) :
    d.quoteIdentifier n.text = .ok (n.sql d) := by
  rw [Dialect.quoteIdentifier, if_pos n.qualified]
  rfl

variable (apart : d.quotes.Apart opening closing) (n : ColumnName)

include apart

/-- Without its quotation marks a column is read as it was named. -/
theorem filter_sql : (n.sql d).toList.filter isLetter = n.text.toList := by
  rw [sql, filter_join (by decide), join_pieces rfl]
  intro segment member
  have name := Identifier.isName_of_mem_pieces n.qualified member
  have letters : segment.filter isLetter = segment := by
    refine List.filter_eq_self.mpr fun c inside => ?_
    rw [isLetter, Identifier.isName_tail name inside, Bool.true_or]
  have mark {c : Char} (h : isPlain c = false) : isLetter c = false := by
    rw [isLetter, Bool.or_eq_false_iff]
    rw [isPlain, Bool.or_eq_false_iff] at h
    refine ⟨h.1, ?_⟩
    rw [beq_eq_false_iff_ne]
    rintro rfl
    exact absurd h.2 (by decide)
  rw [apart.wrap_eq name]
  simp [letters, mark apart.opening_foreign, mark apart.closing_foreign]

theorem head_sql : (n.sql d).toList.head? = some opening := by
  refine Dialect.head_of_quoteIdentifier ?_ (quoteIdentifier_text d n)
  rw [apart.opens]
  rfl

theorem not_prefix_sql {word : String} {first : Char} (begins : word.toList.head? = some first)
    (plain : isPlain first = true) (rest : List Char) :
    ¬ word.toList <+: (n.sql d).toList ++ rest := by
  obtain ⟨letters, spelled⟩ := List.head?_eq_some_iff.mp begins
  obtain ⟨others, quoted⟩ := List.head?_eq_some_iff.mp (n.head_sql apart)
  rw [spelled, quoted, List.cons_append, List.cons_prefix_cons]
  rintro ⟨rfl, -⟩
  rw [apart.opening_foreign] at plain
  cases plain

theorem blank_not_mem_sql : ' ' ∉ (n.sql d).toList := by
  intro member
  have foreign : ∀ mark ∈ [opening, closing], ' ' ≠ mark := by
    rintro mark inside rfl
    exact absurd (apart.foreign ' ' inside).1 (by decide)
  rcases Dialect.nameLetter_of_quoteIdentifier (quoteIdentifier_text d n) member with
    h | h | h
  · rw [apart.opens] at h
    exact foreign opening (by simp) (List.mem_singleton.mp h)
  · rw [apart.closes] at h
    exact foreign closing (by simp) (List.mem_singleton.mp h)
  · exact absurd h (by decide)

theorem read_sql (rest : List Char) :
    read ((n.sql d).toList ++ ' ' :: rest) = some (n, ' ' :: rest) := by
  have quiet : ∀ c ∈ (n.sql d).toList, (c != ' ') = true := by
    intro c member
    rw [bne_iff_ne]
    rintro rfl
    exact n.blank_not_mem_sql apart member
  have front : ((n.sql d).toList ++ ' ' :: rest).takeWhile (· != ' ') = (n.sql d).toList := by
    rw [List.takeWhile_append_of_pos quiet]
    simp
  have behind : ((n.sql d).toList ++ ' ' :: rest).dropWhile (· != ' ') = ' ' :: rest := by
    rw [List.dropWhile_append_of_pos quiet]
    simp
  simp only [read, front, behind, n.filter_sql apart, String.ofList_toList, n.qualified,
    dite_true]

end ColumnName

namespace Test

/-- The tests that are told apart by their word, of lists those of one value. -/
def words (denied : Bool) : List Test :=
  if denied then Comparison.all.map .denied
  else Comparison.all.map .compared ++
    [.listed false 0, .listed true 0, .null false, .null true, .range]

/-- Reads the marks of a list: how many there are beyond the first. -/
def readMarks : List Char → Option (Nat × List Char)
  | '?' :: ')' :: rest => some (0, rest)
  | '?' :: ',' :: ' ' :: rest => (readMarks rest).map fun (more, rest) => (more + 1, rest)
  | _ => none

def read (text : List Char) : Option ((ColumnName × Test) × List Char) := do
  let inside := Pagination.behind? (front true) text
  let (column, rest) ← ColumnName.read (inside.getD text)
  let (test, rest) ← readWord (words inside.isSome) word rest
  match test with
  | .listed negated _ =>
    let (more, rest) ← readMarks rest
    return ((column, .listed negated more), rest)
  | test => return ((column, test), rest)

/-- The test by which the word of a test is known. -/
def known : Test → Test
  | .listed negated _ => .listed negated 0
  | t => t

theorem word_known (t : Test) : t.known.word = t.word := by cases t <;> rfl

theorem known_mem_words (t : Test) : t.known ∈ words t.isDenied := by
  cases t with
  | compared operator | denied operator => cases operator <;> decide
  | listed negated more => cases negated <;> simp [known, words, isDenied]
  | null negated => cases negated <;> decide
  | range => decide

/-- No word of a kind begins with another one, so at most one of them can be read. -/
theorem words_free (denied : Bool) : ∀ t ∈ words denied, ∀ other ∈ words denied,
    other.word.toList <+: t.word.toList ∨ t.word.toList <+: other.word.toList → other = t := by
  cases denied <;> decide

/-- Every word begins with the blank that ends the column. -/
theorem word_eq (t : Test) : ∃ rest, t.word.toList = ' ' :: rest := by
  refine List.head?_eq_some_iff.mp ?_
  cases t with
  | compared operator | denied operator => simp [word]
  | listed negated more | null negated => cases negated <;> simp [word]
  | range => decide

theorem readMarks_replicate (more : Nat) (rest : List Char) :
    readMarks ((join ", " (List.replicate (more + 1) "?") ++ ")").toList ++ rest) =
      some (more, rest) := by
  induction more with
  | zero => rfl
  | succ more ih =>
    have marks : join ", " (List.replicate (more + 1 + 1) "?") =
        "?, " ++ join ", " (List.replicate (more + 1) "?") := rfl
    have letters : "?, ".toList = ['?', ',', ' '] := rfl
    rw [marks, String.append_assoc, String.toList_append, letters, List.append_assoc]
    simp only [List.cons_append, List.nil_append, readMarks, ih, Option.map_some]

theorem front_false (inner : List Char) : (front false).toList ++ inner = inner := by simp [front]

variable {d : Dialect} {opening closing : Char}

theorem behind?_front (denied : Bool) {inner : List Char}
    (unfronted : ¬ (front true).toList <+: inner) :
    Pagination.behind? (front true) ((front denied).toList ++ inner) =
      if denied then some inner else none := by
  cases denied with
  | true => rw [Pagination.behind?_append, if_pos rfl]
  | false =>
    rw [front_false, Pagination.behind?_eq_none unfronted, if_neg (by simp)]

theorem read_sql (apart : d.quotes.Apart opening closing) (column : ColumnName) (t : Test)
    (rest : List Char) :
    read ((t.sql (column.sql d)).toList ++ rest) = some ((column, t), rest) := by
  obtain ⟨letters, blank⟩ := t.word_eq
  let inner := (column.sql d).toList ++ (t.word.toList ++ (t.marks.toList ++ rest))
  have text : (t.sql (column.sql d)).toList ++ rest = (front t.isDenied).toList ++ inner := by
    simp only [sql, String.toList_append, List.append_assoc, inner]
  have unfronted : ¬ (front true).toList <+: inner :=
    column.not_prefix_sql apart rfl (by decide) _
  have opened : (if t.isDenied then some inner else none).getD
      ((front t.isDenied).toList ++ inner) = inner := by
    cases t.isDenied <;> simp [front]
  have denied : (if t.isDenied then some inner else none).isSome = t.isDenied := by
    cases t.isDenied <;> simp
  have named : ColumnName.read inner =
      some (column, t.word.toList ++ (t.marks.toList ++ rest)) := by
    have here := column.read_sql apart (letters ++ (t.marks.toList ++ rest))
    rwa [← List.cons_append, ← blank] at here
  have worded := readWord_append t.known_mem_words
    (fun other => words_free t.isDenied _ t.known_mem_words other) (t.marks.toList ++ rest)
  rw [word_known] at worded
  rw [text, read, behind?_front t.isDenied unfronted]
  simp only [opened, denied, named, worded, bind, Option.bind]
  cases t with
  | listed negated more =>
    simp only [known, marks, readMarks_replicate]
    rfl
  | _ => rfl

theorem not_prefix_sql (apart : d.quotes.Apart opening closing) (column : ColumnName) (t : Test)
    (rest : List Char) : ¬ "(".toList <+: (t.sql (column.sql d)).toList ++ rest := by
  simp only [sql, String.toList_append, List.append_assoc]
  cases t.isDenied with
  | true =>
    intro begins
    exact absurd (List.cons_prefix_cons.mp begins).1 (by decide)
  | false =>
    rw [front_false]
    exact column.not_prefix_sql apart rfl (by decide) _

end Test

def Connector.word (connector : Connector) : String := " " ++ connector.sql ++ " "

theorem Connector.readWord_word (connector : Connector) (rest : List Char) :
    readWord [and, or] word (connector.word.toList ++ rest) = some (connector, rest) := by
  have free : ∀ k ∈ [and, or], ∀ other ∈ [and, or], other.word.toList <+: k.word.toList ∨
      k.word.toList <+: other.word.toList → other = k := by decide
  have member : connector ∈ [and, or] := by cases connector <;> decide
  exact readWord_append member (free connector member) rest

/-- The shape of a condition: a test, or a group that holds at least one condition. The connector of
the first condition of a group is no part of it. -/
inductive Shape
  | test (column : ColumnName) (t : Test)
  | group (first : Shape) (others : List (Connector × Shape))

namespace Shape

mutual

def sql (d : Dialect) : Shape → String
  | .test column t => t.sql (column.sql d)
  | .group first others => "(" ++ (first.sql d ++ (behind d others ++ ")"))

def behind (d : Dialect) : List (Connector × Shape) → String
  | [] => ""
  | (connector, s) :: rest => connector.word ++ (s.sql d ++ behind d rest)

end

mutual

def read : Nat → List Char → Option (Shape × List Char)
  | 0, _ => none
  | fuel + 1, text =>
    match Pagination.behind? "(" text with
    | none => (Test.read text).map fun ((column, t), rest) => (.test column t, rest)
    | some inside => do
      let (first, rest) ← read fuel inside
      let (others, rest) ← readOthers fuel rest
      let rest ← Pagination.behind? ")" rest
      return (.group first others, rest)

def readOthers : Nat → List Char → Option (List (Connector × Shape) × List Char)
  | 0, _ => none
  | fuel + 1, text =>
    match readWord [.and, .or] Connector.word text with
    | none => some ([], text)
    | some (connector, rest) => do
      let (s, rest) ← read fuel rest
      let (others, rest) ← readOthers fuel rest
      return ((connector, s) :: others, rest)

end

variable {d : Dialect} {opening closing : Char}

/-- What does not begin with a blank goes on with no connector. -/
theorem readOthers_end {fuel : Nat} {text : List Char} (ends : text.head? ≠ some ' ') :
    readOthers (fuel + 1) text = some ([], text) := by
  have none : readWord [.and, .or] Connector.word text = none := by
    refine readWord_eq_none fun connector _ begins => ends ?_
    obtain ⟨rest, rfl⟩ := begins
    cases connector <;> rfl
  simp only [readOthers, none]

mutual

/-- The text of a condition is read as the condition, whatever stands behind. -/
theorem read_sql (apart : d.quotes.Apart opening closing) : (s : Shape) → (fuel : Nat) →
    (s.sql d).length ≤ fuel → (rest : List Char) →
    read (fuel + 1) ((s.sql d).toList ++ rest) = some (s, rest)
  | .test column t, fuel, _, rest => by
    have single : Pagination.behind? "(" ((t.sql (column.sql d)).toList ++ rest) = none :=
      Pagination.behind?_eq_none (t.not_prefix_sql apart column rest)
    rw [read, sql, single]
    simp only [t.read_sql apart column rest, Option.map_some]
  | .group first others, fuel, enough, rest => by
    have mark : "(".length = 1 := rfl
    rw [sql, String.length_append, String.length_append, String.length_append, mark] at enough
    obtain ⟨left, rfl⟩ : ∃ left, fuel = left + 1 := ⟨fuel - 1, by omega⟩
    have here := read_sql apart first left (by omega)
    have later := readOthers_behind apart others left (by omega) (")".toList ++ rest) (by simp)
    rw [read]
    simp only [sql, String.toList_append, List.append_assoc, Pagination.behind?_append, here,
      later, bind, Option.bind]
    rfl

/-- The text behind the first condition of a level is read as the other conditions. -/
theorem readOthers_behind (apart : d.quotes.Apart opening closing) :
    (others : List (Connector × Shape)) → (fuel : Nat) → (behind d others).length ≤ fuel →
    (rest : List Char) → rest.head? ≠ some ' ' →
    readOthers (fuel + 1) ((behind d others).toList ++ rest) = some (others, rest)
  | [], _, _, _, ends => readOthers_end ends
  | (connector, s) :: others, fuel, enough, rest, ends => by
    rw [behind, String.length_append, String.length_append] at enough
    have present : 0 < connector.word.length := by cases connector <;> decide
    obtain ⟨left, rfl⟩ : ∃ left, fuel = left + 1 := ⟨fuel - 1, by omega⟩
    have here := read_sql apart s left (by omega)
    have later := readOthers_behind apart others left (by omega) rest ends
    rw [readOthers]
    simp only [behind, String.toList_append, List.append_assoc, connector.readWord_word, here,
      later, bind, Option.bind]
    rfl

end

def whereSql (d : Dialect) (first : Shape) (others : List (Connector × Shape)) : String :=
  " WHERE " ++ (first.sql d ++ behind d others)

/-- Reads a WHERE clause: its first condition, and the others with their connectors. -/
def readWhere (sql : String) : Option (Shape × List (Connector × Shape)) := do
  let text ← Pagination.behind? " WHERE " sql.toList
  let (first, rest) ← read (sql.length + 1) text
  let (others, rest) ← readOthers (sql.length + 1) rest
  if rest.isEmpty then some (first, others) else none

/-- A WHERE clause is read as the conditions that it was written for. -/
theorem readWhere_sql (apart : d.quotes.Apart opening closing) (first : Shape)
    (others : List (Connector × Shape)) :
    readWhere (whereSql d first others) = some (first, others) := by
  have length : (whereSql d first others).length =
      " WHERE ".length + ((first.sql d).length + (behind d others).length) := by
    rw [whereSql, String.length_append, String.length_append]
  have here := read_sql apart first (whereSql d first others).length (by omega)
    (behind d others).toList
  have later := readOthers_behind apart others (whereSql d first others).length (by omega) []
    (by simp)
  rw [List.append_nil] at later
  have text : Pagination.behind? " WHERE " (whereSql d first others).toList =
      some ((first.sql d).toList ++ (behind d others).toList) := by
    rw [whereSql, String.toList_append, Pagination.behind?_append, String.toList_append]
  simp only [readWhere, text, here, later, bind, Option.bind]
  rfl

end Shape

end Sqlwright
