import Mathlib.Data.List.Chain
import Sqlwright.Proofs.Dialect.Piece
import Sqlwright.Proofs.Dialect.Quotes

/-!
Reading a statement as a database does: names between the quotation marks with the closing mark
written twice inside, literals between single quotes with two of them for one, and a backslash in
front of a character where the database has such escapes. A row of pieces whose quoted pieces stand
apart is read back piece by piece. Main statements: `Piece.lex_render`, `Piece.reads_render`.
-/

namespace Sqlwright

open Text

/-- What a reader of statements tells apart. -/
inductive Lexeme
  | mark (c : Char)
  | name (text : String)
  | literal (text : String)
  deriving DecidableEq

namespace Lexeme

def literal? : Lexeme → Option String
  | literal text => some text
  | _ => none

def literals (lexemes : List Lexeme) : List String := lexemes.filterMap literal?

def ofSegments : List (List Char) → List Lexeme
  | [] => []
  | [segment] => [name (String.ofList segment)]
  | segment :: next :: rest =>
    name (String.ofList segment) :: mark '.' :: ofSegments (next :: rest)

theorem mem_ofSegments {segments : List (List Char)} {lexeme : Lexeme}
    (h : lexeme ∈ ofSegments segments) :
    lexeme = mark '.' ∨ ∃ segment ∈ segments, lexeme = name (String.ofList segment) := by
  induction segments using ofSegments.induct with
  | case1 => cases h
  | case2 segment => exact Or.inr ⟨segment, by simp, List.mem_singleton.mp h⟩
  | case3 segment next rest ih =>
    rcases List.mem_cons.mp h with rfl | h
    · exact Or.inr ⟨segment, by simp, rfl⟩
    · rcases List.mem_cons.mp h with rfl | later
      · exact Or.inl rfl
      · exact (ih later).imp_right fun ⟨other, member, same⟩ =>
          ⟨other, List.mem_cons_of_mem _ member, same⟩

/-- What may stand before the end of a statement: marks that do not end it, names that are names,
and literals. -/
def IsInner : Lexeme → Prop
  | mark c => c ≠ ';'
  | name text => Identifier.isName text.toList = true
  | literal _ => True

end Lexeme

/-- Where a reader of statements stands. Characters read are held last first; behind the mark that
closes a name or a literal it may still turn out to be the first of two. -/
inductive LexerState
  | outside
  | name (read : List Char)
  | nameEnd (read : List Char)
  | literal (read : List Char)
  | literalEnd (read : List Char)
  | escaped (read : List Char)

namespace Dialect

variable (d : Dialect)

def enter (c : Char) : List Lexeme × LexerState :=
  if QuotePair.isMark d.quotes.opening c then ([], .name [])
  else if c = '\'' then ([], .literal [])
  else ([.mark c], .outside)

/-- What one character completes, and where the reader stands behind it. -/
def lexStep : LexerState → Char → List Lexeme × LexerState
  | .outside, c => d.enter c
  | .name read, c =>
    if QuotePair.isMark d.quotes.closing c then ([], .nameEnd read) else ([], .name (c :: read))
  | .nameEnd read, c =>
    if QuotePair.isMark d.quotes.closing c then ([], .name (c :: read))
    else (.name (String.ofList read.reverse) :: (d.enter c).1, (d.enter c).2)
  | .literal read, c =>
    if c = '\'' then ([], .literalEnd read)
    else if c = '\\' && d.can .backslashEscapes then ([], .escaped read)
    else ([], .literal (c :: read))
  | .literalEnd read, c =>
    if c = '\'' then ([], .literal (c :: read))
    else (.literal (String.ofList read.reverse) :: (d.enter c).1, (d.enter c).2)
  | .escaped read, c => ([], .literal (c :: read))

/-- What the end of the text completes. Nothing may be left open. -/
def lexEnd : LexerState → Option (List Lexeme)
  | .outside => some []
  | .nameEnd read => some [.name (String.ofList read.reverse)]
  | .literalEnd read => some [.literal (String.ofList read.reverse)]
  | .name _ | .literal _ | .escaped _ => none

def lex : LexerState → List Char → Option (List Lexeme)
  | state, [] => lexEnd state
  | state, c :: rest =>
    (lex (d.lexStep state c).2 rest).map ((d.lexStep state c).1 ++ ·)

/-- A character that ends nothing and begins nothing but itself. -/
structure IsOrdinary (c : Char) : Prop where
  opening : c ∉ d.quotes.opening.toList
  closing : c ∉ d.quotes.closing.toList
  quote : c ≠ '\''
  stop : c ≠ ';'

/-- A text in front of which a name or a literal is over. -/
def Stops (rest : List Char) : Prop :=
  ∀ c ∈ rest.head?, c ∉ d.quotes.closing.toList ∧ c ≠ '\''

variable {d} {opening closing : Char} {rest : List Char}

/-- A character that completes nothing. -/
theorem lex_silent {state next : LexerState} {c : Char} (h : d.lexStep state c = ([], next))
    (rest : List Char) : d.lex state (c :: rest) = d.lex next rest := by
  rw [lex, h]
  exact Option.map_id'

/-- A text inside a literal is read as it was before its quotes and backslashes were written twice.
-/
theorem lex_inLiteral {text read : List Char} :
    d.lex (.literal read) (text.flatMap (literalChar (d.can .backslashEscapes)) ++ rest) =
      d.lex (.literal (text.reverse ++ read)) rest := by
  induction text generalizing read with
  | nil => rfl
  | cons c others ih =>
    have next : d.lex (.literal read) (literalChar (d.can .backslashEscapes) c ++
        (others.flatMap (literalChar (d.can .backslashEscapes)) ++ rest)) =
        d.lex (.literal (c :: read))
          (others.flatMap (literalChar (d.can .backslashEscapes)) ++ rest) := by
      rcases literalChar_cases (d.can .backslashEscapes) c with
        ⟨rfl, twice⟩ | ⟨rfl, escapes, twice⟩ | ⟨quote, escape, once⟩
      · rw [twice]
        exact (lex_silent (by rfl) _).trans (lex_silent (by rfl) _)
      · have step : d.lexStep (.literal read) '\\' = ([], .escaped read) := by
          rw [lexStep, if_neg (by decide), if_pos (by simp [escapes])]
        rw [twice]
        exact (lex_silent step _).trans (lex_silent (by rfl) _)
      · rw [once]
        refine lex_silent ?_ _
        rw [lexStep, if_neg quote, if_neg escape]
    rw [List.flatMap_cons, List.append_assoc, next, ih]
    simp

theorem lex_literalEnd {read : List Char} (stops : d.Stops rest) :
    d.lex (.literalEnd read) rest =
      (d.lex .outside rest).map (.literal (String.ofList read.reverse) :: ·) := by
  cases rest with
  | nil => rfl
  | cons c later =>
    rw [lex, lex, lexStep, lexStep, if_neg (stops c rfl).2, Option.map_map]
    rfl

section Reading

variable (apart : d.quotes.Apart opening closing)

include apart

theorem isOrdinary_of_isPlain {c : Char} (h : isPlain c = true) : d.IsOrdinary c := by
  obtain ⟨opening, closing⟩ := apart.not_mark (Or.inl h)
  have harmless := not_mem_breaking_of_isPlain h
  refine ⟨opening, closing, ?_, ?_⟩
  · rintro rfl
    exact harmless (by decide)
  · rintro rfl
    exact harmless (by decide)

theorem isMark_opening_iff {c : Char} :
    QuotePair.isMark d.quotes.opening c = true ↔ c = opening := by
  rw [QuotePair.isMark, apart.opens, beq_iff_eq, List.cons.injEq, eq_comm]
  simp

theorem isMark_closing_iff {c : Char} :
    QuotePair.isMark d.quotes.closing c = true ↔ c = closing := by
  rw [QuotePair.isMark, apart.closes, beq_iff_eq, List.cons.injEq, eq_comm]
  simp

theorem enter_mark {c : Char} (other : c ∉ d.quotes.opening.toList) (unquoted : c ≠ '\'') :
    d.enter c = ([.mark c], .outside) := by
  have plain : ¬ QuotePair.isMark d.quotes.opening c = true := by
    rw [isMark_opening_iff apart]
    rintro rfl
    exact other (by simp [apart.opens])
  rw [enter, if_neg plain, if_neg unquoted]

theorem lex_mark {c : Char} (other : c ∉ d.quotes.opening.toList) (unquoted : c ≠ '\'') :
    d.lex .outside (c :: rest) = (d.lex .outside rest).map (.mark c :: ·) := by
  rw [lex, lexStep, enter_mark apart other unquoted]
  rfl

theorem lex_marks {text : List Char} (ordinary : ∀ c ∈ text, d.IsOrdinary c) :
    d.lex .outside (text ++ rest) = (d.lex .outside rest).map (text.map .mark ++ ·) := by
  induction text with
  | nil => simp
  | cons c others ih =>
    obtain ⟨here, later⟩ := List.forall_mem_cons.mp ordinary
    rw [List.cons_append, lex_mark apart here.opening here.quote, ih later, Option.map_map]
    rfl

/-- Behind a closing mark a name is over, unless another one follows. -/
theorem lex_nameEnd {read : List Char} (stops : d.Stops rest) :
    d.lex (.nameEnd read) rest =
      (d.lex .outside rest).map (.name (String.ofList read.reverse) :: ·) := by
  cases rest with
  | nil => rfl
  | cons c later =>
    have other : ¬ QuotePair.isMark d.quotes.closing c = true := by
      rw [isMark_closing_iff apart]
      rintro rfl
      exact (stops c rfl).1 (by simp [apart.closes])
    rw [lex, lex, lexStep, lexStep, if_neg other, Option.map_map]
    rfl

theorem lex_inName {segment read : List Char} (h : closing ∉ segment) :
    d.lex (.name read) (segment ++ rest) = d.lex (.name (segment.reverse ++ read)) rest := by
  induction segment generalizing read with
  | nil => rfl
  | cons c others ih =>
    rw [List.mem_cons, not_or] at h
    obtain ⟨other, later⟩ := h
    have inside : d.lexStep (.name read) c = ([], .name (c :: read)) := by
      rw [lexStep, if_neg fun mark => other ((isMark_closing_iff apart).mp mark).symm]
    rw [List.cons_append, lex_silent inside, ih later]
    simp

/-- A segment of a name is read as it is. -/
theorem lex_segment {segment : List Char} (name : Identifier.isName segment = true)
    (stops : d.Stops rest) :
    d.lex .outside (d.quotes.wrap segment ++ rest) =
      (d.lex .outside rest).map (.name (String.ofList segment) :: ·) := by
  have absent : closing ∉ segment := by
    intro member
    have plain := isPlain_of_isTail (Identifier.isName_tail name member)
    rw [apart.closing_foreign] at plain
    cases plain
  have opens : d.lexStep .outside opening = ([], .name []) := by
    rw [lexStep, enter, if_pos ((isMark_opening_iff apart).mpr rfl)]
  have closes (read : List Char) : d.lexStep (.name read) closing = ([], .nameEnd read) := by
    rw [lexStep, if_pos ((isMark_closing_iff apart).mpr rfl)]
  rw [apart.wrap_eq name, List.cons_append, lex_silent opens, List.append_assoc,
    lex_inName apart absent, List.singleton_append, lex_silent (closes _), lex_nameEnd apart stops]
  simp

/-- A string literal is read back as the text it was written for. -/
theorem lex_quoteString (text : String) (stops : d.Stops rest) :
    d.lex .outside ((d.quoteString text).toList ++ rest) =
      (d.lex .outside rest).map (.literal text :: ·) := by
  have opens : d.lexStep .outside '\'' = ([], .literal []) := by
    have other : ¬ QuotePair.isMark d.quotes.opening '\'' = true := by
      rw [isMark_opening_iff apart]
      rintro rfl
      exact (apart.foreign '\'' (by simp)).2.2.1 (by decide)
    rw [lexStep, enter, if_neg other, if_pos rfl]
  have closes (read : List Char) : d.lexStep (.literal read) '\'' = ([], .literalEnd read) := rfl
  rw [quoteString, String.toList_ofList, List.append_assoc, List.cons_append, lex_silent opens,
    lex_inLiteral, List.singleton_append, lex_silent (closes _), lex_literalEnd stops]
  simp

/-- A dotted name in quotation marks is read as its segments with the dots between them. -/
theorem lex_segments {segments : List (List Char)}
    (names : ∀ segment ∈ segments, Identifier.isName segment = true) (stops : d.Stops rest) :
    d.lex .outside ((join "." (segments.map fun segment =>
        String.ofList (d.quotes.wrap segment))).toList ++ rest) =
      (d.lex .outside rest).map (Lexeme.ofSegments segments ++ ·) := by
  induction segments using Lexeme.ofSegments.induct with
  | case1 => simp [join, Lexeme.ofSegments]
  | case2 segment =>
    simp [join, Lexeme.ofSegments, lex_segment apart (names segment (by simp)) stops]
  | case3 segment next others ih =>
    obtain ⟨first, later⟩ := List.forall_mem_cons.mp names
    have ih := ih later
    have dot : d.IsOrdinary '.' := isOrdinary_of_isPlain apart (by decide)
    have stop (later : List Char) : d.Stops ('.' :: later) := by
      rintro _ ⟨⟩
      exact ⟨dot.closing, dot.quote⟩
    have point : ".".toList = ['.'] := rfl
    simp only [List.map_cons, join, String.toList_append, String.toList_ofList,
      List.append_assoc] at ih ⊢
    rw [point, List.singleton_append, lex_segment apart first (stop _),
      lex_mark apart dot.opening dot.quote, ih, Option.map_map, Option.map_map]
    simp [Function.comp_def, Lexeme.ofSegments]

end Reading

end Dialect

namespace Piece

variable {opening closing : Char}

def lexemes : Piece → List Lexeme
  | plain text | word text | free text => text.toList.map .mark
  | name text => Lexeme.ofSegments (pieces (· == '.') text.toList)
  | literal text => [.literal text]

/-- A piece that is read back: a text of characters that begin and end nothing, a name, or a
literal. -/
def IsOrdinary (d : Dialect) : Piece → Prop
  | plain text => text ≠ "" ∧ ∀ c ∈ text.toList, d.IsOrdinary c
  | word text | free text => ∀ c ∈ text.toList, d.IsOrdinary c
  | name text => Identifier.isQualified text.toList = true
  | literal _ => True

def IsQuoted : Piece → Prop
  | name _ | literal _ => True
  | _ => False

def IsPlain : Piece → Prop
  | plain _ => True
  | _ => False

/-- Quoted pieces stand apart: behind each comes a keyword or punctuation. -/
abbrev Apart (row : List Piece) : Prop :=
  row.IsChain fun piece next => piece.IsQuoted → next.IsPlain

variable {d : Dialect} {row : List Piece} {rest : List Char}

theorem stops_render (stops : d.Stops rest) (ordinary : ∀ piece ∈ row, piece.IsOrdinary d)
    (plain : ∀ piece ∈ row.head?, piece.IsPlain) :
    d.Stops ((render d row).toList ++ rest) := by
  cases row with
  | nil => simpa using stops
  | cons piece others =>
    have plain := plain piece rfl
    have ordinary := ordinary piece (by simp)
    cases piece with
    | plain text =>
      obtain ⟨present, ordinary⟩ := ordinary
      obtain ⟨c, letters, spelled⟩ : ∃ c letters, text.toList = c :: letters := by
        refine List.exists_cons_of_ne_nil fun empty => present ?_
        rw [← String.toList_inj, empty]
        rfl
      have first := ordinary c (by simp [spelled])
      intro other head
      rw [render_cons, sql, String.toList_append, spelled] at head
      obtain rfl : c = other := by simpa using head
      exact ⟨first.closing, first.quote⟩
    | _ => exact plain.elim

/-- A row of ordinary pieces that stand apart is read back piece by piece. -/
theorem lex_render (quotes : d.quotes.Apart opening closing)
    (ordinary : ∀ piece ∈ row, piece.IsOrdinary d) (apart : Apart row) (stops : d.Stops rest) :
    d.lex .outside ((render d row).toList ++ rest) =
      (d.lex .outside rest).map (row.flatMap lexemes ++ ·) := by
  induction row with
  | nil => simp
  | cons piece others ih =>
    obtain ⟨here, later⟩ := List.forall_mem_cons.mp ordinary
    obtain ⟨next, apart⟩ := List.isChain_cons.mp apart
    have behind (quoted : piece.IsQuoted) : d.Stops ((render d others).toList ++ rest) :=
      stops_render stops later fun other member => next other member quoted
    have read : d.lex .outside ((piece.sql d).toList ++ ((render d others).toList ++ rest)) =
        (d.lex .outside ((render d others).toList ++ rest)).map (piece.lexemes ++ ·) := by
      cases piece with
      | plain text => exact Dialect.lex_marks quotes here.2
      | word text | free text => exact Dialect.lex_marks quotes here
      | name text =>
        exact Dialect.lex_segments quotes
          (fun _ member => Identifier.isName_of_mem_pieces here member) (behind trivial)
      | literal text => exact Dialect.lex_quoteString quotes text (behind trivial)
    rw [render_cons, String.toList_append, List.append_assoc, read, ih later apart,
      List.flatMap_cons, Option.map_map]
    simp [Function.comp_def]

theorem isInner_lexemes {piece : Piece} (ordinary : piece.IsOrdinary d) :
    ∀ lexeme ∈ piece.lexemes, lexeme.IsInner := by
  intro lexeme member
  cases piece with
  | plain text =>
    obtain ⟨c, inside, rfl⟩ := List.mem_map.mp member
    exact (ordinary.2 c inside).stop
  | word text | free text =>
    obtain ⟨c, inside, rfl⟩ := List.mem_map.mp member
    exact (ordinary c inside).stop
  | name text =>
    rcases Lexeme.mem_ofSegments member with rfl | ⟨segment, inside, rfl⟩
    · exact Char.ne_of_val_ne (by decide)
    · rw [Lexeme.IsInner, String.toList_ofList]
      exact Identifier.isName_of_mem_pieces ordinary inside
  | literal text =>
    obtain rfl := List.mem_singleton.mp member
    trivial

/-- The literals among the lexemes of a row are those of its pieces. -/
theorem literals_lexemes (row : List Piece) :
    Lexeme.literals (row.flatMap lexemes) = literals row := by
  have marks (text : List Char) : (text.map Lexeme.mark).filterMap Lexeme.literal? = [] := by
    simp [List.filterMap_eq_nil_iff, Lexeme.literal?]
  induction row with
  | nil => rfl
  | cons piece rest ih =>
    rw [List.flatMap_cons, Lexeme.literals, List.filterMap_append]
    cases piece with
    | plain text | word text | free text =>
      rw [lexemes, marks]
      exact ih
    | name text =>
      have segments : (Lexeme.ofSegments (pieces (· == '.') text.toList)).filterMap
          Lexeme.literal? = [] := by
        refine List.filterMap_eq_nil_iff.mpr fun lexeme member => ?_
        rcases Lexeme.mem_ofSegments member with rfl | ⟨name, -, rfl⟩ <;> rfl
      rw [lexemes, segments]
      exact ih
    | literal text => exact congrArg (text :: ·) ih

theorem Apart.nil : Apart [] := List.isChain_nil

theorem Apart.single (piece : Piece) : Apart [piece] := List.isChain_singleton piece

/-- Anything may stand behind a piece without quotes. -/
theorem Apart.plain {text : String} (h : Apart row) : Apart (plain text :: row) :=
  List.isChain_cons.mpr ⟨fun _ _ => False.elim, h⟩

theorem Apart.word {text : String} (h : Apart row) : Apart (word text :: row) :=
  List.isChain_cons.mpr ⟨fun _ _ => False.elim, h⟩

/-- A keyword may stand behind any piece. -/
theorem Apart.before {piece : Piece} {text : String} (h : Apart row) :
    Apart (piece :: .plain text :: row) :=
  List.isChain_cons_cons.mpr ⟨fun _ => trivial, h.plain⟩

theorem Apart.append {a b : List Piece} {text : String} (ha : Apart a) (hb : Apart b) :
    Apart (a ++ .plain text :: b) := by
  refine List.IsChain.append ha hb.plain ?_
  rintro piece - _ ⟨⟩ -
  trivial

theorem Apart.joined {separator : String} {rows : List (List Piece)}
    (h : ∀ row ∈ rows, Apart row) : Apart (joined separator rows) := by
  induction rows using joined.induct with
  | case1 => exact .nil
  | case2 row => exact h row (by simp)
  | case3 row next rest ih =>
    exact (h row (by simp)).append (ih fun other member => h other (by simp [List.mem_cons.mp member]))

end Piece

/-- A statement that can be read: no name and no literal is left open, the mark that ends it stands
at the end and nowhere else outside literals, and the literals are the given ones. -/
def Dialect.Reads (d : Dialect) (text : String) (literals : List String) : Prop :=
  ∃ front, d.lex .outside text.toList = some (front ++ [.mark ';']) ∧
    (∀ lexeme ∈ front, lexeme.IsInner) ∧ Lexeme.literals front = literals

/-- Where pieces are ordinary and stand apart, a statement is read as what they say. -/
theorem Piece.reads_render {d : Dialect} {row : List Piece} {opening closing : Char}
    (quotes : d.quotes.Apart opening closing) (ordinary : ∀ piece ∈ row, piece.IsOrdinary d)
    (apart : Apart row) : d.Reads (render d row ++ ";") (literals row) := by
  have harmless : ∀ c ∈ [opening, closing], c ≠ ';' := by
    rintro _ member rfl
    exact (quotes.foreign ';' member).2.2.1 (by decide)
  have opens : ';' ∉ d.quotes.opening.toList := by
    rw [quotes.opens, List.mem_singleton]
    exact (harmless opening (by simp)).symm
  have closes : ';' ∉ d.quotes.closing.toList := by
    rw [quotes.closes, List.mem_singleton]
    exact (harmless closing (by simp)).symm
  have stops : d.Stops [';'] := by
    rintro _ ⟨⟩
    exact ⟨closes, by decide⟩
  have last : d.lex .outside [';'] = some [.mark ';'] := by
    rw [Dialect.lex_mark quotes opens (by decide)]
    rfl
  refine ⟨row.flatMap lexemes, ?_, ?_, literals_lexemes row⟩
  · rw [String.toList_append]
    exact (lex_render quotes ordinary apart stops).trans (by rw [last]; rfl)
  · intro lexeme member
    obtain ⟨piece, inside, found⟩ := List.mem_flatMap.mp member
    exact isInner_lexemes (ordinary piece inside) lexeme found

end Sqlwright
