import Sqlwright.Dialect.BuiltIn
import Sqlwright.Proofs.Dialect.Piece
import Sqlwright.Proofs.Text.Name

/-!
Quoted identifiers are read back. Between marks of one character each anything may stand in a
segment, the marks and the dot included: the closing mark is written twice there, and a closing mark
that stands alone is followed by a dot or by nothing. Main statement: `Dialect.quoting_round_trips`.
-/

namespace Sqlwright

open Text

namespace Text

/-- A text of one character is replaced wherever the character stands. -/
theorem replaceAll_singleton (c : Char) (by' text : List Char) :
    replaceAll [c] by' text = substitute c by' text := by
  have skipped : replaceFrom [c] by' 0 text = substitute c by' text := by
    induction text with
    | nil => rfl
    | cons first rest ih =>
      by_cases same : first = c
      · simp [replaceFrom, substitute, same, ih]
      · simp [replaceFrom, substitute, same, Ne.symm same, ih]
  exact skipped

end Text

namespace QuotePair

/-- Quotation marks of one character each, of which the closing one is no dot. -/
structure Legible (pair : QuotePair) (opening closing : Char) : Prop where
  opens : pair.opening.toList = [opening]
  closes : pair.closing.toList = [closing]
  undotted : closing ≠ '.'

theorem isMark_iff {mark : String} {m c : Char} (single : mark.toList = [m]) :
    isMark mark c = true ↔ c = m := by
  rw [isMark, single, beq_iff_eq, List.singleton_inj, eq_comm]

namespace Legible

variable {pair : QuotePair} {opening closing : Char}

theorem wrap_eq (legible : pair.Legible opening closing) (segment : List Char) :
    pair.wrap segment = opening :: substitute closing [closing, closing] segment ++ [closing] := by
  rw [wrap, legible.opens, legible.closes, List.singleton_append, List.singleton_append,
    replaceAll_singleton]

/-- What is written for the characters of a segment is read as these characters, whatever has been
read before. The induction is on the segment. -/
theorem readSegments_inside (legible : pair.Legible opening closing)
    (read segment rest : List Char) :
    pair.readSegments (.inside read) (substitute closing [closing, closing] segment ++ rest) =
      pair.readSegments (.inside (segment.reverse ++ read)) rest := by
  have closes (c : Char) : isMark pair.closing c = true ↔ c = closing := isMark_iff legible.closes
  induction segment generalizing read with
  | nil => rfl
  | cons c others ih =>
    have behind := ih (c :: read)
    rw [List.reverse_cons, List.append_assoc, List.singleton_append, ← behind]
    by_cases doubled : c = closing
    · simp [substitute, readSegments, doubled, (closes closing).mpr rfl]
    · have single : isMark pair.closing c = false := by
        rw [Bool.eq_false_iff]
        exact fun mark => doubled ((closes c).mp mark)
      simp [substitute, readSegments, doubled, single]

/-- Behind a wrapped segment the reader waits for a second closing mark. -/
theorem readSegments_wrap (legible : pair.Legible opening closing) (segment rest : List Char) :
    pair.readSegments .outside (pair.wrap segment ++ rest) =
      pair.readSegments (.closed segment.reverse) rest := by
  have opens : isMark pair.opening opening = true := (isMark_iff legible.opens).mpr rfl
  have closes : isMark pair.closing closing = true := (isMark_iff legible.closes).mpr rfl
  rw [legible.wrap_eq, List.cons_append, List.cons_append, List.append_assoc, readSegments,
    if_pos opens, legible.readSegments_inside, List.append_nil, List.singleton_append,
    readSegments, if_pos closes]

/-- A dot is no closing mark, so it ends the segment that is waiting. -/
theorem readSegments_dot (legible : pair.Legible opening closing) (read rest : List Char) :
    pair.readSegments (.closed read) ('.' :: rest) =
      (pair.readSegments .outside rest).map (read.reverse :: ·) := by
  have apart : ¬ isMark pair.closing '.' = true := fun mark =>
    legible.undotted ((isMark_iff legible.closes).mp mark).symm
  rw [readSegments, if_neg apart, if_pos rfl]

/-- Quoted segments with dots between them are read back, whatever characters they are of. -/
theorem readSegments_joined (legible : pair.Legible opening closing)
    {segments : List (List Char)} (present : segments ≠ []) :
    pair.readSegments .outside (join "." (segments.map fun segment =>
        String.ofList (pair.wrap segment))).toList = some segments := by
  induction segments with
  | nil => exact absurd rfl present
  | cons segment others ih =>
    cases others with
    | nil =>
      have whole := legible.readSegments_wrap segment []
      simpa [join, readSegments] using whole
    | cons next more =>
      have later := ih (by simp)
      have point : ".".toList = ['.'] := rfl
      simp only [List.map_cons, join, String.toList_append, String.toList_ofList,
        List.append_assoc] at later ⊢
      rw [point, List.singleton_append, legible.readSegments_wrap, legible.readSegments_dot, later,
        List.reverse_reverse, Option.map_some]

end Legible

end QuotePair

namespace Dialect

variable {d : Dialect} {opening closing : Char}

theorem unquoteIdentifier_joined (legible : d.quotes.Legible opening closing)
    {segments : List (List Char)} (present : segments ≠ []) :
    d.unquoteIdentifier (join "." (segments.map fun segment =>
      String.ofList (d.quotes.wrap segment))) = .ok (join "." (segments.map String.ofList)) := by
  rw [unquoteIdentifier, legible.readSegments_joined present]

/-- What a name is quoted to is read back as the name. -/
theorem unquoteIdentifier_quoted (legible : d.quotes.Legible opening closing) {name text : String}
    (h : d.quoteIdentifier name = .ok text) : d.unquoteIdentifier text = .ok name := by
  obtain ⟨-, rfl⟩ := quoteIdentifier_eq_ok.mp h
  rw [spell, unquoteIdentifier_joined legible (pieces_ne_nil _ _)]
  exact congrArg Except.ok (String.toList_inj.mp (join_pieces rfl name.toList))

/-- Segments of any characters are read back from their quoted form, in which the closing mark is
written twice. So a name is read back from what it is quoted to, and no two names are quoted to the
same text. -/
theorem quoting_round_trips (legible : d.quotes.Legible opening closing) :
    (∀ segment, d.quotes.wrap segment =
      opening :: (segment.flatMap fun c => if c = closing then [closing, closing] else [c]) ++
        [closing]) ∧
    (∀ segments : List String, segments ≠ [] →
      d.unquoteIdentifier (join "." (segments.map fun segment =>
        String.ofList (d.quotes.wrap segment.toList))) = .ok (join "." segments)) ∧
    (∀ name text, d.quoteIdentifier name = .ok text → d.unquoteIdentifier text = .ok name) ∧
    ∀ name other text, d.quoteIdentifier name = .ok text → d.quoteIdentifier other = .ok text →
      name = other := by
  have back : ∀ name text, d.quoteIdentifier name = .ok text →
      d.unquoteIdentifier text = .ok name := fun _ _ quoted =>
    unquoteIdentifier_quoted legible quoted
  refine ⟨legible.wrap_eq, ?_, back, ?_⟩
  · intro segments present
    have letters : segments.map String.toList ≠ [] := by simpa using present
    have read := unquoteIdentifier_joined legible letters
    simpa [Function.comp_def] using read
  · intro name other text quoted alike
    have same : (Except.ok name : Except Error String) = .ok other :=
      (back name text quoted).symm.trans (back other text alike)
    exact Except.ok.inj same

/-- Brackets, with a closing one, an empty segment and a dot among the segments. -/
theorem quoting_round_trips_brackets :
    sqlServer.quotes.Legible '[' ']' ∧
    sqlServer.unquoteIdentifier "[a]]b].[].[c.[d]" = .ok "a]b..c.[d" ∧
    sqlServer.unquoteIdentifier "[dbo].[users]" = .ok "dbo.users" := by
  have legible : sqlServer.quotes.Legible '[' ']' := ⟨rfl, rfl, by decide⟩
  obtain ⟨-, segments, names, -⟩ := quoting_round_trips legible
  exact ⟨legible, segments ["a]b", "", "c.[d"] (by simp), names "dbo.users" _ rfl⟩

end Dialect

end Sqlwright
