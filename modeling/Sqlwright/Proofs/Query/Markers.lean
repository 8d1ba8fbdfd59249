import Sqlwright.Proofs.Query.Injection
import Sqlwright.Proofs.Query.Sending
import Sqlwright.Proofs.Query.Spacing

/-!
Marks in a driver's style. A driver reads a text as characters and markers, and a statement rewritten
for it reads back as the SQL, with a marker for each parameter in the order of the parameters. Where
markers are letters behind percent signs this holds of any text. Where they are numbers it takes that
nothing in a statement looks like a marker and that no number runs into what stands behind it, which
the statements for a database known from the start have. Main statement:
`Session.statements_portable`.
-/

namespace Sqlwright

open Text

/-- What a driver reads: a character of SQL, or a marker with its label. -/
inductive DriverToken
  | letter (c : Char)
  | marker (label : List Char)
  deriving DecidableEq, Repr

namespace DriverToken

def sql : DriverToken → Char
  | letter c => c
  | marker _ => Statement.mark

def label? : DriverToken → Option (List Char)
  | letter _ => none
  | marker label => some label

def ofChar (c : Char) : DriverToken := if c = Statement.mark then marker [] else letter c

/-- Reads markers that are a letter behind a percent sign. A percent sign with anything else behind it
than the letter or another percent sign is an error. -/
def readFormat : List Char → Option (List DriverToken)
  | [] => some []
  | '%' :: '%' :: rest => (readFormat rest).map (letter '%' :: ·)
  | '%' :: 's' :: rest => (readFormat rest).map (marker [] :: ·)
  | '%' :: _ => none
  | c :: rest => (readFormat rest).map (letter c :: ·)

/-- Reads markers that are a number behind a sign. A marker takes all digits that there are. -/
def readNumbered (sign : Char) : List Char → List DriverToken
  | [] => []
  | c :: rest =>
    if c = sign && rest.head?.any Char.isDigit then
      marker (rest.takeWhile Char.isDigit) :: readNumbered sign (rest.dropWhile Char.isDigit)
    else letter c :: readNumbered sign rest
termination_by text => text.length
decreasing_by
  · exact Nat.lt_succ_of_le (List.dropWhile_suffix Char.isDigit).length_le
  · exact Nat.lt_succ_self _

def ofText (label : Nat → List Char) (next : Nat) : List Char → List DriverToken
  | [] => []
  | c :: rest =>
    if c = Statement.mark then marker (label next) :: ofText label (next + 1) rest
    else letter c :: ofText label next rest

variable {label : Nat → List Char} {next : Nat} {text : List Char}

theorem map_sql_ofText : (ofText label next text).map sql = text := by
  induction text generalizing next with
  | nil => rfl
  | cons c rest ih =>
    by_cases mark : c = Statement.mark
    · simp [ofText, mark, ih, sql]
    · simp [ofText, mark, ih, sql]

theorem filterMap_label?_ofText : (ofText label next text).filterMap label? =
    (List.range' next (text.count Statement.mark)).map label := by
  induction text generalizing next with
  | nil => rfl
  | cons c rest ih =>
    by_cases mark : c = Statement.mark
    · simp [ofText, mark, ih, label?, List.range'_succ]
    · simp [ofText, mark, ih, label?, List.filterMap_cons]

theorem map_ofChar : text.map ofChar = ofText (fun _ => []) next text := by
  induction text generalizing next with
  | nil => rfl
  | cons c rest ih =>
    by_cases mark : c = Statement.mark
    · simp [ofText, ofChar, mark, @ih (next + 1)]
    · simp [ofText, ofChar, mark, @ih next]

/-- Percent signs are doubled and marks become markers, so that the reader never meets a percent sign
that it cannot place. -/
theorem readFormat_flatMap :
    readFormat (text.flatMap Statement.formatChar) = some (ofText (fun _ => []) next text) := by
  induction text generalizing next with
  | nil => rfl
  | cons c rest ih =>
    rw [List.flatMap_cons]
    by_cases percent : c = '%'
    · subst percent
      simp [Statement.formatChar, readFormat, @ih next, ofText, Statement.mark]
    · by_cases mark : c = Statement.mark
      · subst mark
        simp [Statement.formatChar, Statement.mark, readFormat, @ih (next + 1), ofText]
      · simp [Statement.formatChar, percent, mark, readFormat, @ih next, ofText]

/-- A marker in front of what begins with no digit. -/
theorem readNumbered_marker (sign : Char) (number : Nat) {rest : List Char}
    (apart : ∀ c, rest.head? = some c → c.isDigit = false) :
    readNumbered sign (sign :: Number.decimalDigits number ++ rest) =
      marker (Number.decimalDigits number) :: readNumbered sign rest := by
  have digits : ∀ c ∈ Number.decimalDigits number, c.isDigit = true := fun c =>
    Number.isDigit_of_mem_decimalDigits
  have starts : (Number.decimalDigits number ++ rest).head?.any Char.isDigit = true := by
    cases split : Number.decimalDigits number with
    | nil => exact absurd split Nat.toDigits_ne_nil
    | cons c others => simp [digits c (by simp [split])]
  have stops : rest.takeWhile Char.isDigit = [] ∧ rest.dropWhile Char.isDigit = rest := by
    cases rest with
    | nil => exact ⟨rfl, rfl⟩
    | cons c others => simp [apart c rfl]
  rw [List.cons_append, readNumbered, starts, List.takeWhile_append_of_pos digits,
    List.dropWhile_append_of_pos digits, stops.1, stops.2]
  simp

/-- The induction is on the text; a number is as long as it was written because no digit follows its
mark. -/
theorem readNumbered_numberMarks {sign : Char} (foreign : sign.isDigit = false)
    (absent : sign ∉ text)
    (spaced : text.IsChain fun c next => c = Statement.mark → next.isDigit = false) :
    readNumbered sign (Statement.numberMarks sign next text) =
      ofText Number.decimalDigits next text := by
  induction text generalizing next with
  | nil => simp [Statement.numberMarks, readNumbered, ofText]
  | cons c rest ih =>
    rw [List.mem_cons, not_or] at absent
    obtain ⟨behind, later⟩ := List.isChain_cons.mp spaced
    by_cases mark : c = Statement.mark
    · rw [Statement.numberMarks, if_pos mark, ofText, if_pos mark, readNumbered_marker,
        ih absent.2 later]
      intro first starts
      cases rest with
      | nil => cases starts
      | cons other rest =>
        rw [Statement.numberMarks] at starts
        split at starts
        · cases starts
          exact foreign
        · cases starts
          exact behind _ rfl mark
    · rw [Statement.numberMarks, if_neg mark, ofText, if_neg mark, readNumbered,
        decide_eq_false (Ne.symm absent.1), Bool.false_and, if_neg Bool.false_ne_true,
        ih absent.2 later]

end DriverToken

namespace ParameterStyle

/-- The styles that can be asked for. -/
def IsKnown (style : ParameterStyle) : Prop := ∀ name, style ≠ .other name

def label : ParameterStyle → Nat → List Char
  | .numeric, n | .dollar, n => Number.decimalDigits n
  | _, _ => []

def read? : ParameterStyle → List Char → Option (List DriverToken)
  | .qmark, text => some (text.map DriverToken.ofChar)
  | .format, text => DriverToken.readFormat text
  | .numeric, text => some (DriverToken.readNumbered ':' text)
  | .dollar, text => some (DriverToken.readNumbered '$' text)
  | .other _, _ => none

end ParameterStyle

/-- The databases known from the start ask for known styles. -/
theorem Dialect.isKnown_parameterStyle {d : Dialect} (h : d ∈ builtIn) :
    d.parameterStyle.IsKnown := by
  intro name other
  have known : (builtIn.all fun d => d.parameterStyle ≠ .other d.parameterStyle.name) = true := by
    decide
  have named := of_decide_eq_true (List.all_eq_true.mp known d h)
  rw [other] at named
  exact named rfl

namespace Statement

variable {s : Statement}

/-- A driver of the style reads the text as the SQL of the statement, with markers labelled from one
to `n` in this order. -/
def ReadsIn (s : Statement) (style : ParameterStyle) (text : String) (n : Nat) : Prop :=
  ∃ tokens, style.read? text.toList = some tokens ∧
    tokens.map DriverToken.sql = s.sql.toList ∧
    tokens.filterMap DriverToken.label? = (List.range' 1 n).map style.label

/-- In every style, and so for every database's driver, the statement reads as its SQL with one
marker for each parameter. -/
structure Portable (s : Statement) : Prop where
  render : ∀ style : ParameterStyle, style.IsKnown →
    ∃ text, s.render style = .ok text ∧ s.ReadsIn style text s.params.length
  forDialect : ∀ d : Dialect, d.parameterStyle.IsKnown →
    ∃ text, s.forDialect d = .ok text ∧ s.ReadsIn d.parameterStyle text s.params.length

theorem readsIn_of_ofText {style : ParameterStyle} {text : String}
    (read : style.read? text.toList = some (DriverToken.ofText style.label 1 s.sql.toList)) :
    s.ReadsIn style text s.markCount :=
  ⟨_, read, DriverToken.map_sql_ofText, DriverToken.filterMap_label?_ofText⟩

/-- With percent marks every text can be sent: its own percent signs are doubled. -/
theorem render_format (s : Statement) :
    ∃ text, s.render .format = .ok text ∧ s.ReadsIn .format text s.markCount := by
  refine ⟨_, rfl, readsIn_of_ofText ?_⟩
  rw [String.toList_ofList]
  exact DriverToken.readFormat_flatMap

/-- Numbered marks are read back if their sign stands nowhere else and no digit follows a mark. -/
theorem readsIn_numbered {style : ParameterStyle} {sign : Char} (foreign : sign.isDigit = false)
    (absent : sign ∉ s.sql.toList) (spaced : Spaced s.sql)
    (read : ∀ text, style.read? text = some (DriverToken.readNumbered sign text))
    (label : style.label = Number.decimalDigits) :
    s.ReadsIn style (String.ofList (numberMarks sign 1 s.sql.toList)) s.markCount := by
  refine readsIn_of_ofText ?_
  rw [read, String.toList_ofList, label]
  exact congrArg some (DriverToken.readNumbered_numberMarks foreign absent spaced)

/-- What a statement needs to be read in every style. -/
theorem portable (counted : s.markCount = s.params.length) (spaced : Spaced s.sql)
    (absent : ∀ sign ∈ [':', '$'], sign ∉ s.sql.toList) : s.Portable := by
  have render : ∀ style : ParameterStyle, style.IsKnown →
      ∃ text, s.render style = .ok text ∧ s.ReadsIn style text s.params.length := by
    intro style known
    rw [← counted]
    cases style with
    | qmark => exact ⟨s.sql, rfl, readsIn_of_ofText (congrArg some DriverToken.map_ofChar)⟩
    | format => exact s.render_format
    | numeric =>
      exact ⟨_, rfl, readsIn_numbered rfl (absent ':' (by simp)) spaced (fun _ => rfl) rfl⟩
    | dollar =>
      exact ⟨_, rfl, readsIn_numbered rfl (absent '$' (by simp)) spaced (fun _ => rfl) rfl⟩
    | other name => exact absurd rfl (known name)
  exact ⟨render, fun d known => render d.parameterStyle known⟩

end Statement

namespace Dialect

variable {d : Dialect}

theorem markless_of_mem_builtIn (h : d ∈ builtIn) : d.Markless := by
  obtain ⟨opening, closing, opens, closes, known⟩ := quoteMarks_of_mem_builtIn h
  have other : Statement.mark ∉ quoteMarks := by decide
  have foreign : Statement.mark ∉ [opening, closing] := fun member => other (known _ member)
  rw [List.mem_cons, not_or] at foreign
  rw [Markless, opens, closes]
  exact ⟨by simpa using foreign.1, foreign.2⟩

/-- The signs in front of numbers stand in no text of the form of a statement. -/
theorem Tidy.signs_absent (h : d ∈ builtIn) {text : String} (tidy : d.Tidy text) :
    ∀ sign ∈ [':', '$'], sign ∉ text.toList := by
  obtain ⟨opening, closing, opens, closes, known⟩ := quoteMarks_of_mem_builtIn h
  have other : quoteMarks.all (· ∉ [':', '$']) = true := by decide
  have signs : ∀ c ∈ text.toList, c ∉ [':', '$'] := by
    refine QuotePair.Spelled.forall_mem (apart_of_quoteMarks opens closes known) ?_ (by decide) ?_
      tidy
    · rintro c plain sign
      have foreign : [':', '$'].all (isPlain · = false) = true := by decide
      rw [of_decide_eq_true (List.all_eq_true.mp foreign c sign)] at plain
      cases plain
    · intro c quote
      exact of_decide_eq_true (List.all_eq_true.mp other c (known c quote))
  exact fun sign member inside => signs sign inside member

end Dialect

/-- Every statement that a builder compiles in work on a well-formed query is read in every style. -/
theorem Builder.Compiles.portable {b : Builder} (known : b.dialect ∈ Dialect.builtIn) {q : Query}
    (wf : q.WellFormed b.dialect) {statement : Statement} (h : b.Compiles q statement) :
    statement.Portable := by
  obtain ⟨variant, r, statements, made, signed, compiled, member⟩ := h
  have wf := wf.variant made
  obtain ⟨opening, closing, apart⟩ := Dialect.apart_of_mem_builtIn known
  have free := Dialect.markless_of_mem_builtIn known
  exact Statement.portable (b.markCount_compile free wf signed compiled statement member)
    (b.spaced_compile free wf signed compiled statement member)
    (Dialect.Tidy.signs_absent known (b.tidy_compile wf apart signed compiled statement member))

namespace Session

/-- Sending portable statements only adds portable statements to those that were sent. -/
theorem keeps_portable (earlier : List Statement) :
    Keeps Statement.Portable fun s =>
      ∃ later, s.sent = earlier ++ later ∧ ∀ statement ∈ later, statement.Portable where
  send := by
    rintro s operation statement portable ⟨later, sent, each⟩
    rcases s.sent_send operation statement with nothing | one
    · exact ⟨later, nothing.trans sent, each⟩
    · refine ⟨later ++ [statement], by rw [one, sent, List.append_assoc], ?_⟩
      rw [List.forall_mem_append]
      exact ⟨each, List.forall_mem_singleton.mpr portable⟩
  reset := fun h => h
  deliver := fun _ h => h

/-- Rewriting marks for a driver loses nothing. Any text reads back from the style with percent
signs. For a database known from the start, whatever was called before, the statements of every
request, and all that any other work than the caller's own SQL sends, read back from every style with
one marker for each parameter, numbered in the order of the parameters. -/
theorem statements_portable :
    (∀ s : Statement, ∃ text, s.render .format = .ok text ∧ s.ReadsIn .format text s.markCount) ∧
    (∀ d ∈ Dialect.builtIn, d.parameterStyle.IsKnown) ∧
    ∀ s : Session, s.Reachable → s.builder.dialect ∈ Dialect.builtIn →
      (∀ r statements, (r.operator = "+" ∨ r.operator = "-") →
        s.builder.compile s.query r = .ok statements →
        ∀ statement ∈ statements, statement.Portable) ∧
      ∀ j, (∀ sql params, j ≠ .execute sql params) →
        ∃ later, (s.perform j).2.sent = s.sent ++ later ∧
          ∀ statement ∈ later, statement.Portable := by
  refine ⟨Statement.render_format, fun _ => Dialect.isKnown_parameterStyle, ?_⟩
  intro s reached known
  constructor
  · intro r statements signed compiled statement member
    exact Builder.Compiles.portable known reached.wellFormed
      ⟨s.query, r, statements, .same, signed, compiled, member⟩
  · intro j other
    exact (keeps_portable s.sent).perform
      (fun _ compiled => compiled.portable known reached.wellFormed) ⟨[], by simp, by simp⟩
      fun sql params same => absurd same (other sql params)

def crowdedSession : Session :=
  Session.play { builder := { dialect := Dialect.pgsql }, replies := some [], log := {} }
    [.clause (.table "users"), .clause (.membership "id" [.int 1, .int 23] false (.text "AND")),
      .clause (.between "age" (.int 18) (.int 65) (.text "OR"))]

theorem statements_portable_crowdedSession :
    ∃ statements, crowdedSession.builder.compile crowdedSession.query .select = .ok statements ∧
      (∀ statement ∈ statements, statement.Portable) ∧
      ∃ later, (crowdedSession.perform .get).2.sent = crowdedSession.sent ++ later ∧
        ∀ statement ∈ later, statement.Portable := by
  have reached : crowdedSession.Reachable := ⟨_, _, rfl, rfl⟩
  have known : crowdedSession.builder.dialect ∈ Dialect.builtIn := by
    change Dialect.pgsql ∈ Dialect.builtIn
    exact .tail _ (.head _)
  have accepted : (crowdedSession.builder.compile crowdedSession.query .select).isOk = true := by
    decide +kernel
  obtain ⟨statements, compiled⟩ := exists_of_isOk accepted
  obtain ⟨requested, sent⟩ := statements_portable.2.2 crowdedSession reached known
  exact ⟨statements, compiled, requested .select statements (Or.inl rfl) compiled,
    sent .get nofun⟩

end Session

end Sqlwright
