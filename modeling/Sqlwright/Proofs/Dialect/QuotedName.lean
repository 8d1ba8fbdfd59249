import Sqlwright.Proofs.Dialect.Unquoting

/-!
Which texts are read as quoted names. Between marks of one character each, a quoted name is one or
more segments with single dots between them, and inside a segment the closing mark stands only twice
in a row (`QuotePair.QuotedName`). The reader takes these texts, each of them with a dot behind it,
and the empty text, and refuses all others. Main statement: `Dialect.unquoting_accepts_iff`.
-/

namespace Sqlwright

open Text

namespace QuotePair

/-- Characters among which the closing mark stands only twice in a row. -/
inductive Doubled (closing : Char) : List Char → Prop
  | nil : Doubled closing []
  | letter {c : Char} {rest : List Char} (other : c ≠ closing) (h : Doubled closing rest) :
    Doubled closing (c :: rest)
  | mark {rest : List Char} (h : Doubled closing rest) :
    Doubled closing (closing :: closing :: rest)

/-- One or more quoted segments with single dots between them. -/
inductive QuotedName (opening closing : Char) : List Char → Prop
  | last {inner : List Char} (h : Doubled closing inner) :
    QuotedName opening closing (opening :: inner ++ [closing])
  | dot {inner rest : List Char} (h : Doubled closing inner)
    (next : QuotedName opening closing rest) :
    QuotedName opening closing (opening :: inner ++ closing :: '.' :: rest)

/-- A quoted name, with or without a dot behind it, or nothing. -/
def Accepted (opening closing : Char) (text : List Char) : Prop :=
  text = [] ∨ QuotedName opening closing text ∨
    ∃ front, QuotedName opening closing front ∧ text = front ++ ['.']

/-- What may stand behind a segment. -/
def Behind (opening closing : Char) (text : List Char) : Prop :=
  text = [] ∨ ∃ rest, Accepted opening closing rest ∧ text = '.' :: rest

/-- The end of a segment whose opening mark has been read, and what may stand behind it. -/
def Ends (opening closing : Char) (text : List Char) : Prop :=
  ∃ inner rest, Doubled closing inner ∧ Behind opening closing rest ∧
    text = inner ++ closing :: rest

/-- What a reader may still find from where it stands. -/
def Position.Finds (opening closing : Char) : Position → List Char → Prop
  | .outside, text => Accepted opening closing text
  | .inside _, text => Ends opening closing text
  | .closed _, text =>
    Behind opening closing text ∨ ∃ rest, Ends opening closing rest ∧ text = closing :: rest

section Grammar

variable {opening closing : Char} {text : List Char}

theorem Behind.accepted (h : Behind opening closing text) {inner : List Char}
    (doubled : Doubled closing inner) :
    Accepted opening closing (opening :: (inner ++ closing :: text)) := by
  rcases h with rfl | ⟨rest, rfl | named | ⟨front, named, rfl⟩, rfl⟩
  · exact Or.inr (Or.inl (.last doubled))
  · exact Or.inr (Or.inr ⟨_, .last doubled, by simp⟩)
  · exact Or.inr (Or.inl (.dot doubled named))
  · exact Or.inr (Or.inr ⟨_, .dot doubled named, by simp⟩)

/-- A quoted name ends with the closing mark, so there is no dot behind it. -/
theorem QuotedName.getLast?_eq (named : QuotedName opening closing text) :
    text.getLast? = some closing := by
  induction named with
  | last _ => exact List.getLast?_concat
  | @dot inner rest _ _ ih =>
    obtain ⟨front, rfl⟩ := List.getLast?_eq_some_iff.mp ih
    rw [← List.cons_append, ← List.cons_append, ← List.append_assoc]
    exact List.getLast?_concat

end Grammar

namespace Legible

variable {pair : QuotePair} {opening closing : Char} {text : List Char}

/-- A reader that goes through a text to its end finds there what it may find. The induction is on
the text, from any place where the reader may stand. -/
theorem finds_of_readSegments (legible : pair.Legible opening closing) {position : Position}
    {segments : List (List Char)} (h : pair.readSegments position text = some segments) :
    position.Finds opening closing text := by
  have opens (c : Char) : isMark pair.opening c = true ↔ c = opening := isMark_iff legible.opens
  have closes (c : Char) : isMark pair.closing c = true ↔ c = closing := isMark_iff legible.closes
  induction text generalizing position segments with
  | nil =>
    cases position with
    | outside => exact Or.inl rfl
    | inside read => cases h
    | closed read => exact Or.inl (Or.inl rfl)
  | cons c rest ih =>
    cases position with
    | outside =>
      rw [readSegments] at h
      split at h
      · rename_i mark
        obtain rfl := (opens c).mp mark
        obtain ⟨inner, behind, doubled, ends, rfl⟩ := ih h
        exact ends.accepted doubled
      · cases h
    | inside read =>
      rw [readSegments] at h
      split at h
      · rename_i mark
        obtain rfl := (closes c).mp mark
        rcases ih h with ends | ⟨more, ⟨inner, behind, doubled, ends, rfl⟩, rfl⟩
        · exact ⟨[], rest, .nil, ends, rfl⟩
        · exact ⟨_, behind, .mark doubled, ends, rfl⟩
      · rename_i other
        obtain ⟨inner, behind, doubled, ends, rfl⟩ := ih h
        have single : c ≠ closing := fun same => other ((closes c).mpr same)
        exact ⟨_, behind, .letter single doubled, ends, rfl⟩
    | closed read =>
      rw [readSegments] at h
      split at h
      · rename_i mark
        obtain rfl := (closes c).mp mark
        exact Or.inr ⟨rest, ih h, rfl⟩
      · split at h
        · rename_i dot
          obtain rfl := dot
          obtain ⟨others, later, -⟩ := Option.map_eq_some_iff.mp h
          exact Or.inl (Or.inr ⟨rest, ih later, rfl⟩)
        · cases h

/-- The inside of a segment leaves the reader inside. -/
theorem readSegments_doubled (legible : pair.Legible opening closing) {inner : List Char}
    (doubled : Doubled closing inner) (read : List Char) :
    ∃ read', ∀ rest, pair.readSegments (.inside read) (inner ++ rest) =
      pair.readSegments (.inside read') rest := by
  have closes (c : Char) : isMark pair.closing c = true ↔ c = closing := isMark_iff legible.closes
  induction doubled generalizing read with
  | nil => exact ⟨read, fun _ => rfl⟩
  | @letter c inner other _ ih =>
    obtain ⟨read', inside⟩ := ih (c :: read)
    refine ⟨read', fun rest => ?_⟩
    rw [List.cons_append, readSegments, if_neg fun mark => other ((closes c).mp mark), inside]
  | @mark inner _ ih =>
    obtain ⟨read', inside⟩ := ih (closing :: read)
    refine ⟨read', fun rest => ?_⟩
    rw [List.cons_append, List.cons_append, readSegments, if_pos ((closes _).mpr rfl), readSegments,
      if_pos ((closes _).mpr rfl), inside]

/-- Behind a segment the reader waits for a second closing mark. -/
theorem readSegments_segment (legible : pair.Legible opening closing) {inner : List Char}
    (doubled : Doubled closing inner) :
    ∃ read, ∀ rest, pair.readSegments .outside (opening :: (inner ++ closing :: rest)) =
      pair.readSegments (.closed read) rest := by
  obtain ⟨read, inside⟩ := legible.readSegments_doubled doubled []
  refine ⟨read, fun rest => ?_⟩
  rw [readSegments, if_pos ((isMark_iff legible.opens).mpr rfl), inside, readSegments,
    if_pos ((isMark_iff legible.closes).mpr rfl)]

/-- A quoted name is read, and a dot behind it makes no difference. -/
theorem exists_readSegments (legible : pair.Legible opening closing)
    (named : QuotedName opening closing text) :
    ∃ segments, pair.readSegments .outside text = some segments ∧
      pair.readSegments .outside (text ++ ['.']) = some segments := by
  induction named with
  | @last inner doubled =>
    obtain ⟨read, reaches⟩ := legible.readSegments_segment doubled
    have dotted : pair.readSegments (.closed read) ['.'] = some [read.reverse] :=
      legible.readSegments_dot read []
    refine ⟨[read.reverse], reaches [], ?_⟩
    rw [← dotted, ← reaches ['.'], List.cons_append, List.cons_append, List.append_assoc]
    rfl
  | @dot inner rest doubled _ ih =>
    obtain ⟨segments, later, dotted⟩ := ih
    obtain ⟨read, reaches⟩ := legible.readSegments_segment doubled
    refine ⟨read.reverse :: segments, ?_, ?_⟩
    · simpa [legible.readSegments_dot, later] using reaches ('.' :: rest)
    · simpa [legible.readSegments_dot, dotted] using reaches ('.' :: (rest ++ ['.']))

/-- A reader reaches the end of just the accepted texts. -/
theorem readSegments_isSome_iff (legible : pair.Legible opening closing) :
    (∃ segments, pair.readSegments .outside text = some segments) ↔
      Accepted opening closing text := by
  constructor
  · rintro ⟨segments, read⟩
    exact legible.finds_of_readSegments read
  · rintro (rfl | named | ⟨front, named, rfl⟩)
    · exact ⟨[], rfl⟩
    · obtain ⟨segments, alone, -⟩ := legible.exists_readSegments named
      exact ⟨segments, alone⟩
    · obtain ⟨segments, -, dotted⟩ := legible.exists_readSegments named
      exact ⟨segments, dotted⟩

end Legible

end QuotePair

namespace Dialect

open QuotePair

variable {d : Dialect} {opening closing : Char}

theorem unquoteIdentifier_of_read {text : String} {segments : List (List Char)}
    (h : d.quotes.readSegments .outside text.toList = some segments) :
    d.unquoteIdentifier text = .ok (join "." (segments.map String.ofList)) := by
  rw [unquoteIdentifier, h]

theorem unquoteIdentifier_of_unread {text : String}
    (h : d.quotes.readSegments .outside text.toList = none) :
    d.unquoteIdentifier text = .error (.invalidIdentifier (quoted text)) := by
  rw [unquoteIdentifier, h]

/-- Besides the quoted names, only the empty text and a quoted name with a dot behind it are read.
The dot makes no difference to what is read, nothing is read from the empty text, and every other
text is refused. -/
theorem unquoting_accepts_iff (legible : d.quotes.Legible opening closing) (text : String) :
    ((∃ name, d.unquoteIdentifier text = .ok name) ↔
      text = "" ∨ QuotedName opening closing text.toList ∨
        ∃ front : String, QuotedName opening closing front.toList ∧ text = front ++ ".") ∧
    ((∃ name, d.unquoteIdentifier text = .ok name) ∨
      d.unquoteIdentifier text = .error (.invalidIdentifier (quoted text))) ∧
    d.unquoteIdentifier "" = .ok "" ∧
    (QuotedName opening closing text.toList →
      ∃ name, d.unquoteIdentifier text = .ok name ∧
        d.unquoteIdentifier (text ++ ".") = .ok name) := by
  have accepts : (∃ name, d.unquoteIdentifier text = .ok name) ↔
      Accepted opening closing text.toList := by
    rw [← legible.readSegments_isSome_iff]
    constructor
    · rintro ⟨name, read⟩
      rcases found : d.quotes.readSegments .outside text.toList with _ | segments
      · rw [unquoteIdentifier_of_unread found] at read
        cases read
      · exact ⟨segments, rfl⟩
    · rintro ⟨segments, found⟩
      exact ⟨_, unquoteIdentifier_of_read found⟩
  refine ⟨accepts.trans (or_congr String.toList_eq_nil_iff (or_congr Iff.rfl ?_)), ?_, rfl, ?_⟩
  · constructor
    · rintro ⟨front, named, same⟩
      refine ⟨String.ofList front, by rwa [String.toList_ofList], String.toList_inj.mp ?_⟩
      rw [same, String.toList_append, String.toList_ofList]
      rfl
    · rintro ⟨front, named, rfl⟩
      exact ⟨front.toList, named, String.toList_append⟩
  · rcases found : d.quotes.readSegments .outside text.toList with _ | segments
    · exact Or.inr (unquoteIdentifier_of_unread found)
    · exact Or.inl ⟨_, unquoteIdentifier_of_read found⟩
  · intro named
    obtain ⟨segments, alone, dotted⟩ := legible.exists_readSegments named
    refine ⟨_, unquoteIdentifier_of_read alone, unquoteIdentifier_of_read ?_⟩
    rw [String.toList_append]
    exact dotted

/-- Two segments, one with a closing bracket in it. -/
theorem unquoting_accepts_iff_brackets :
    sqlServer.quotes.Legible '[' ']' ∧ QuotedName '[' ']' "[a]]b].[c]".toList ∧
    ∃ name, sqlServer.unquoteIdentifier "[a]]b].[c]" = .ok name ∧
      sqlServer.unquoteIdentifier "[a]]b].[c]." = .ok name := by
  have legible : sqlServer.quotes.Legible '[' ']' := ⟨rfl, rfl, by decide⟩
  have first : Doubled ']' ['a', ']', ']', 'b'] :=
    .letter (by decide) (.mark (.letter (by decide) .nil))
  have second : Doubled ']' ['c'] := .letter (by decide) .nil
  have named : QuotedName '[' ']' "[a]]b].[c]".toList := .dot first (.last second)
  obtain ⟨-, -, -, read⟩ := unquoting_accepts_iff legible "[a]]b].[c]"
  exact ⟨legible, named, read named⟩

/-- A name is read from a quoted name with a dot behind it and from nothing, and neither is a quoted
name. -/
theorem unquoteIdentifier_reads_more :
    (sqlServer.unquoteIdentifier "[a]." = .ok "a" ∧ ¬ QuotedName '[' ']' "[a].".toList) ∧
    sqlServer.unquoteIdentifier "" = .ok "" ∧ ¬ QuotedName '[' ']' "".toList := by
  refine ⟨⟨rfl, fun named => ?_⟩, rfl, fun named => ?_⟩
  · cases named.getLast?_eq
  · cases named.getLast?_eq

end Dialect

end Sqlwright
