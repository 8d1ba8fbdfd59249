import Sqlwright.Proofs.Query.Provenance
import Sqlwright.Proofs.Text.Name

/-!
Which characters quoted references are made of. A quoted name holds the database's quotation marks,
name characters and dots; a quoted column may hold a star, blanks, parentheses and a dotted capital
I besides. Nothing that a caller writes for a name gets past these.
-/

namespace Sqlwright

open Text

namespace Text

theorem mem_capitalChar {c x : Char} (h : x ∈ capitalChar c) :
    x = c.toUpper ∨ x ∈ ['S', 'I', 'F', 'L', 'T'] := by
  unfold capitalChar at h
  split at h <;> simp_all <;> tauto

/-- A text that spells a word becomes that word in capitals, but for the dotted capital I. -/
theorem mem_capitals_of_spells {word text : List Char} {x : Char} (h : spells word text = true)
    (member : x ∈ capitals text) : x ∈ word ∨ x ∈ ['S', 'I', 'F', 'L', 'T', 'İ'] := by
  induction word generalizing text with
  | nil =>
    cases text with
    | nil => cases member
    | cons c rest => cases h
  | cons w ws ih =>
    cases text with
    | nil => cases h
    | cons c rest =>
      rw [spells, Bool.and_eq_true] at h
      rw [capitals, List.flatMap_cons, List.mem_append] at member
      rcases member with here | later
      · have upper := mem_capitalChar here
        have reads : c.toUpper = w ∨ c = 'ſ' ∨ c = 'ı' ∨ c = 'İ' := by
          have := h.1
          simp only [readsAs, Bool.or_eq_true, Bool.and_eq_true, beq_iff_eq] at this
          tauto
        rcases reads with same | rfl | rfl | rfl
        · rcases upper with rfl | special
          · exact Or.inl (by simp [same])
          · exact Or.inr (by simp_all; tauto)
        all_goals exact Or.inr (by revert here; simp [capitalChar]; tauto)
      · exact (ih h.2 later).imp_left (List.mem_cons_of_mem _)

end Text

namespace Dialect

variable {d : Dialect} {name text : String} {c : Char}

/-- The characters of quoted names. -/
def NameLetter (d : Dialect) (c : Char) : Prop :=
  c ∈ d.quotes.opening.toList ∨ c ∈ d.quotes.closing.toList ∨ Identifier.isTail c = true ∨ c = '.'

/-- The characters of quoted references to columns and tables. -/
def TermLetter (d : Dialect) (c : Char) : Prop :=
  d.NameLetter c ∨ c ∈ ['*', ' ', '(', ')', 'İ']

/-- The letters of keywords, blanks and punctuation. -/
theorem termLetter_of_literal {literal : String}
    (known : literal.toList.all fun c => Identifier.isTail c || ['*', ' ', '(', ')'].contains c)
    (member : c ∈ literal.toList) : d.TermLetter c := by
  have here := List.all_eq_true.mp known c member
  rw [Bool.or_eq_true] at here
  rcases here with letter | mark
  · exact Or.inl (Or.inr (Or.inr (Or.inl letter)))
  · exact Or.inr (by simp_all; tauto)

theorem nameLetter_of_quoteIdentifier (h : d.quoteIdentifier name = .ok text)
    (member : c ∈ text.toList) : d.NameLetter c := by
  unfold quoteIdentifier at h
  split at h
  · rename_i qualified
    cases h
    rcases mem_join member with dot | ⟨part, hpart, inside⟩
    · exact Or.inr (Or.inr (Or.inr (by simpa using dot)))
    · obtain ⟨segment, hsegment, rfl⟩ := List.mem_map.mp hpart
      simp only [QuotePair.wrap, String.toList_ofList, List.mem_append] at inside
      rcases inside with (opening | written) | closing
      · exact Or.inl opening
      · rcases mem_replaceAll written with doubled | plain
        · exact Or.inr (Or.inl (by simpa using doubled))
        · exact Or.inr (Or.inr
            (Identifier.isTail_or_dot_of_isQualified qualified (mem_pieces hsegment plain)))
      · exact Or.inr (Or.inl closing)
  · cases h

end Dialect

namespace ColumnTerm

/-- The functions in a term that was read are aggregates. -/
def Sound : ColumnTerm → Prop
  | .aggregate function _ _ => ∃ word ∈ aggregates, spells word.toList function = true
  | .aliased base _ => base.Sound
  | .star | .allOf _ | .plain _ => True

theorem sound_readSimple (text : List Char) : (readSimple text).Sound := by
  unfold readSimple
  split
  · trivial
  · split
    · trivial
    · cases found : readAggregate? text with
      | none => trivial
      | some term =>
        unfold readAggregate? at found
        split at found
        · cases found
        · split at found
          · dsimp only at found
            split at found
            · rename_i known
              cases found
              rw [Bool.and_eq_true, List.any_eq_true] at known
              exact known.1
            · cases found
          · cases found

/-- However many aliases there are, the functions of a term that was read are aggregates. -/
theorem sound_read (text : List Char) : (read text).Sound := by
  induction text using read.induct with
  | case1 text base name found ih =>
    rw [read]
    split
    · rename_i base' name' found'
      obtain ⟨rfl, rfl⟩ : base' = base ∧ name' = name := by simp_all
      exact ih
    · exact sound_readSimple _
  | case2 text found =>
    rw [read]
    split
    · rename_i found'
      simp [found] at found'
    · exact sound_readSimple _

theorem all_aggregates : ∀ word ∈ aggregates,
    word.toList.all fun c => Identifier.isTail c || ['*', ' ', '(', ')'].contains c := by
  decide

theorem render_aggregate_eq_ok {d : Dialect} {function argument : List Char} {distinct : Bool}
    {text : String} (h : (aggregate function distinct argument).render d = .ok text) :
    ∃ inner : String,
      (inner = "*" ∨ d.quoteIdentifier (String.ofList argument) = .ok inner) ∧
      text = String.ofList (capitals function) ++ "(" ++ (if distinct then "DISTINCT " else "") ++
        inner ++ ")" := by
  rw [render] at h
  split at h
  · cases h
    exact ⟨"*", Or.inl rfl, rfl⟩
  · obtain ⟨inner, hinner, h⟩ := bind_eq_ok.mp h
    cases h
    exact ⟨inner, Or.inr hinner, rfl⟩

theorem termLetter_of_render {d : Dialect} {term : ColumnTerm} (sound : term.Sound)
    {text : String} (h : term.render d = .ok text) {c : Char} (member : c ∈ text.toList) :
    d.TermLetter c := by
  induction term generalizing text with
  | star =>
    cases h
    exact Or.inr (by simp_all)
  | allOf owner =>
    obtain ⟨quoted, hquoted, h⟩ := bind_eq_ok.mp h
    cases h
    rw [String.toList_append, List.mem_append] at member
    rcases member with inside | behind
    · exact Or.inl (Dialect.nameLetter_of_quoteIdentifier hquoted inside)
    · simp only [String.reduceToList, List.mem_cons, List.not_mem_nil, or_false] at behind
      rcases behind with rfl | rfl
      · exact Or.inl (Or.inr (Or.inr (Or.inr rfl)))
      · exact Or.inr (by simp)
  | aggregate function distinct argument =>
    obtain ⟨inner, hinner, rfl⟩ := render_aggregate_eq_ok h
    have letters : ∀ c ∈ inner.toList, d.TermLetter c := by
      rcases hinner with rfl | quoted
      · exact fun c star => Dialect.termLetter_of_literal (by decide) star
      · exact fun c here => Or.inl (Dialect.nameLetter_of_quoteIdentifier quoted here)
    simp only [String.toList_append, List.mem_append] at member
    rcases member with (((called | opening) | keyword) | inside) | closing
    · obtain ⟨word, hword, spelled⟩ := sound
      rw [String.toList_ofList] at called
      rcases mem_capitals_of_spells spelled called with capital | special
      · exact Dialect.termLetter_of_literal (all_aggregates word hword) capital
      · rcases List.mem_append.mp (show c ∈ ['S', 'I', 'F', 'L', 'T'] ++ ['İ'] from special) with
          letter | dotted
        · have spelled : c ∈ "SIFLT".toList := letter
          exact Dialect.termLetter_of_literal (by decide) spelled
        · exact Or.inr (by simp_all)
    · exact Dialect.termLetter_of_literal (by decide) opening
    · split at keyword
      · exact Dialect.termLetter_of_literal (by decide) keyword
      · cases keyword
    · exact letters c inside
    · exact Dialect.termLetter_of_literal (by decide) closing
  | plain name => exact Or.inl (Dialect.nameLetter_of_quoteIdentifier h member)
  | aliased base name ih =>
    obtain ⟨before, hbefore, h⟩ := bind_eq_ok.mp h
    obtain ⟨quoted, hquoted, h⟩ := bind_eq_ok.mp h
    cases h
    simp only [String.toList_append, List.mem_append] at member
    rcases member with (inside | between) | behind
    · exact ih sound hbefore inside
    · exact Dialect.termLetter_of_literal (by decide) between
    · exact Or.inl (Dialect.nameLetter_of_quoteIdentifier hquoted behind)

end ColumnTerm

namespace Dialect

variable {d : Dialect} {text : String} {c : Char}

theorem IsColumn.letter (h : d.IsColumn text) (member : c ∈ text.toList) : d.TermLetter c := by
  obtain ⟨given, h⟩ := h
  exact ColumnTerm.termLetter_of_render (ColumnTerm.sound_read _) h member

theorem IsTable.letter (h : d.IsTable text) (member : c ∈ text.toList) : d.TermLetter c := by
  obtain ⟨given, h⟩ := h
  obtain ⟨name, hname, h⟩ := bind_eq_ok.mp h
  split at h
  · cases h
    exact Or.inl (nameLetter_of_quoteIdentifier hname member)
  · obtain ⟨second, hsecond, h⟩ := bind_eq_ok.mp h
    cases h
    simp only [String.toList_append, List.mem_append] at member
    rcases member with (inside | between) | behind
    · exact Or.inl (nameLetter_of_quoteIdentifier hname inside)
    · exact termLetter_of_literal (by decide) between
    · exact Or.inl (nameLetter_of_quoteIdentifier hsecond behind)

/-- A quoted name is not empty, even where the quotation marks are. -/
theorem ne_empty_of_quoteIdentifier {name : String} (h : d.quoteIdentifier name = .ok text) :
    text ≠ "" := by
  unfold quoteIdentifier at h
  split at h
  · rename_i qualified
    cases h
    obtain ⟨segment, others, split, present⟩ : ∃ segment others,
        pieces (· == '.') name.toList = segment :: others ∧ segment ≠ [] := by
      cases letters : name.toList with
      | nil =>
        rw [letters] at qualified
        cases qualified
      | cons first rest =>
        rw [letters, Identifier.isQualified, Bool.and_eq_true] at qualified
        have dotless : (first == '.') = false := by
          rw [beq_eq_false_iff_ne]
          rintro rfl
          exact absurd qualified.1 (by decide)
        unfold pieces
        rw [dotless, if_neg (by simp)]
        split
        · exact ⟨_, _, rfl, by simp⟩
        · exact ⟨_, _, rfl, by simp⟩
    have wrapped : d.quotes.wrap segment ≠ [] := by
      intro empty
      simp only [QuotePair.wrap, List.append_eq_nil_iff] at empty
      obtain ⟨⟨-, inside⟩, closing⟩ := empty
      rw [closing] at inside
      exact present inside
    intro empty
    have letters := congrArg String.toList empty
    rw [split, List.map_cons] at letters
    cases others with
    | nil => simp [join, wrapped] at letters
    | cons next more => simp [join, wrapped] at letters
  · cases h

theorem IsTable.ne_empty (h : d.IsTable text) : text ≠ "" := by
  obtain ⟨given, h⟩ := h
  obtain ⟨name, hname, h⟩ := bind_eq_ok.mp h
  have present := ne_empty_of_quoteIdentifier hname
  split at h
  · cases h
    exact present
  · obtain ⟨second, hsecond, h⟩ := bind_eq_ok.mp h
    cases h
    intro empty
    have letters := congrArg String.toList empty
    simp [String.toList_append] at letters

theorem head_of_quoteIdentifier {mark : Char} (opening : d.quotes.opening.toList.head? = some mark)
    {name : String} (h : d.quoteIdentifier name = .ok text) : text.toList.head? = some mark := by
  unfold quoteIdentifier at h
  split at h
  · cases h
    have first (segment : List Char) : (d.quotes.wrap segment).head? = some mark := by
      simp [QuotePair.wrap, opening]
    cases split : pieces (· == '.') name.toList with
    | nil => exact absurd split (pieces_ne_nil _ _)
    | cons segment others =>
      cases others with
      | nil => simp [join, first]
      | cons next more => simp [join, first]
  · cases h

end Dialect

namespace ColumnTerm

/-- No function is called by a name with a D in it. -/
theorem not_mem_capitals {function : List Char}
    (h : ∃ word ∈ aggregates, spells word.toList function) : 'D' ∉ capitals function := by
  obtain ⟨word, hword, spelled⟩ := h
  intro member
  have absent : ∀ word ∈ aggregates, 'D' ∉ word.toList := by decide
  rcases mem_capitals_of_spells spelled member with letter | special
  · exact absent word hword letter
  · exact absurd special (by decide)

/-- A column begins with a quotation mark, with a star or with an aggregate, and none of these has
the first letter of DISTINCT. -/
theorem head_ne_of_render {d : Dialect} {mark : Char}
    (opening : d.quotes.opening.toList.head? = some mark) (other : mark ≠ 'D') {term : ColumnTerm}
    (sound : term.Sound) {text : String} (h : term.render d = .ok text) :
    ∃ c, text.toList.head? = some c ∧ c ≠ 'D' := by
  induction term generalizing text with
  | star =>
    cases h
    exact ⟨'*', rfl, by decide⟩
  | allOf owner =>
    obtain ⟨quoted, hquoted, h⟩ := bind_eq_ok.mp h
    cases h
    exact ⟨mark, by simp [Dialect.head_of_quoteIdentifier opening hquoted], other⟩
  | aggregate function distinct argument =>
    obtain ⟨inner, -, rfl⟩ := render_aggregate_eq_ok h
    have absent := not_mem_capitals sound
    cases letters : capitals function with
    | nil => exact ⟨'(', by simp, by decide⟩
    | cons c rest =>
      refine ⟨c, by simp, ?_⟩
      rintro rfl
      exact absent (by simp [letters])
  | plain name => exact ⟨mark, Dialect.head_of_quoteIdentifier opening h, other⟩
  | aliased base name ih =>
    obtain ⟨before, hbefore, h⟩ := bind_eq_ok.mp h
    obtain ⟨quoted, hquoted, h⟩ := bind_eq_ok.mp h
    cases h
    obtain ⟨c, hc, apart⟩ := ih sound hbefore
    exact ⟨c, by simp [hc], apart⟩

end ColumnTerm

theorem Dialect.IsColumn.head_ne {d : Dialect} {mark : Char}
    (opening : d.quotes.opening.toList.head? = some mark) (other : mark ≠ 'D') {text : String}
    (h : d.IsColumn text) : ∃ c, text.toList.head? = some c ∧ c ≠ 'D' := by
  obtain ⟨given, h⟩ := h
  exact ColumnTerm.head_ne_of_render opening other (ColumnTerm.sound_read _) h

end Sqlwright
