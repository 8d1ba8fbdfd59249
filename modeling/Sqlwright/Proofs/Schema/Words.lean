import Sqlwright.Proofs.Dialect.Lexer
import Sqlwright.Proofs.Number.Numeral
import Sqlwright.Proofs.Schema.Phrases
import Sqlwright.Proofs.Schema.SizeText

/-!
The characters of the words in the statements of a table definition, for the databases known from
the start. The words of a database are a short list; numbers, sizes and options bring in characters
of a few kinds. None of them is a quotation mark, a single quote or the mark that ends a statement
(`Ddl.Spells.isOrdinary`).
-/

namespace Sqlwright

open Number Text

variable {d : Dialect} {b : Blueprint} {text : String}

namespace Dialect

/-- The characters that a word does without. -/
def reserved : List Char := quoteMarks ++ ['\'', ';']

/-- The words of a database that stand in the statements of table definitions. -/
def vocabulary (d : Dialect) : List String :=
  [d.trueLiteral, d.falseLiteral, d.autoIncrement, d.addColumn] ++
    ColumnType.all.flatMap fun type =>
      (d.types type).name :: ((d.types type).size.map Size.render).toList ++
        (d.serialTypes type).toList

instance (d : Dialect) (c : Char) : Decidable (d.IsOrdinary c) :=
  decidable_of_iff (c ∉ d.quotes.opening.toList ∧ c ∉ d.quotes.closing.toList ∧ c ≠ '\'' ∧ c ≠ ';')
    ⟨fun ⟨opening, closing, quote, stop⟩ => ⟨opening, closing, quote, stop⟩,
      fun h => ⟨h.opening, h.closing, h.quote, h.stop⟩⟩

/-- The words of the databases known from the start need no quotation marks. They also do without
the letter K, so that none of them can be taken for a part of PRIMARY KEY. -/
theorem isOrdinary_vocabulary :
    ∀ d ∈ builtIn, ∀ text ∈ d.vocabulary, ∀ c ∈ text.toList, d.IsOrdinary c ∧ c ≠ 'K' := by
  have all : builtIn.all (fun d => d.vocabulary.all fun text =>
      text.toList.all fun c => d.IsOrdinary c ∧ c ≠ 'K') = true := by decide +kernel
  intro d known text listed c member
  have here := List.all_eq_true.mp (List.all_eq_true.mp all d known) text listed
  exact of_decide_eq_true (List.all_eq_true.mp here c member)

theorem isOrdinary_of_not_mem (known : d ∈ builtIn) {c : Char} (h : c ∉ reserved) :
    d.IsOrdinary c := by
  have marks : builtIn.all (fun d => (d.quotes.opening.toList ++ d.quotes.closing.toList).all
      (· ∈ quoteMarks)) = true := by decide +kernel
  have known := List.all_eq_true.mp (List.all_eq_true.mp marks d known)
  rw [reserved, List.mem_append, not_or] at h
  obtain ⟨unmarked, others⟩ := h
  refine ⟨fun member => unmarked ?_, fun member => unmarked ?_, fun same => others ?_,
    fun same => others ?_⟩
  · exact of_decide_eq_true (known c (List.mem_append_left _ member))
  · exact of_decide_eq_true (known c (List.mem_append_right _ member))
  · simp [same]
  · simp [same]

/-- A fixed text without reserved characters. -/
theorem isOrdinary_of_all (known : d ∈ builtIn) {text : List Char}
    (h : text.all (· ∉ reserved) = true) : ∀ c ∈ text, d.IsOrdinary c := fun c member =>
  isOrdinary_of_not_mem known (of_decide_eq_true (List.all_eq_true.mp h c member))

/-- Characters of a kind to which no reserved character belongs. -/
theorem isOrdinary_of_kind (known : d ∈ builtIn) {kind : Char → Bool}
    (foreign : (reserved ++ ['K']).all (!kind ·) = true) {c : Char} (h : kind c = true) :
    d.IsOrdinary c ∧ c ≠ 'K' := by
  have other : c ∉ reserved ++ ['K'] := by
    intro member
    have out := List.all_eq_true.mp foreign c member
    rw [h] at out
    cases out
  rw [List.mem_append, not_or, List.mem_singleton] at other
  exact ⟨isOrdinary_of_not_mem known other.1, other.2⟩

end Dialect

namespace Ddl

section Known

variable (known : d ∈ Dialect.builtIn)

include known

theorem isOrdinary_numeral {c : Char} (h : isNumeral c = true) : d.IsOrdinary c ∧ c ≠ 'K' :=
  Dialect.isOrdinary_of_kind known (by decide) h

theorem isOrdinary_word (h : text ∈ d.vocabulary) :
    ∀ c ∈ text.toList, d.IsOrdinary c ∧ c ≠ 'K' := Dialect.isOrdinary_vocabulary d known text h

theorem isOrdinary_type {size : Option Size} (type : ColumnType)
    (sized : ∀ s, size = some s → ∀ c ∈ s.render.toList, d.IsOrdinary c ∧ c ≠ 'K') :
    ∀ c ∈ ((d.types type).render size).toList, d.IsOrdinary c ∧ c ≠ 'K' := by
  have name : ∀ c ∈ (d.types type).name.toList, d.IsOrdinary c ∧ c ≠ 'K' :=
    isOrdinary_word known (List.mem_append_right _
      (List.mem_flatMap.mpr ⟨type, ColumnType.mem_all type, by simp⟩))
  have own (s : Size) (h : (d.types type).size = some s) :
      ∀ c ∈ s.render.toList, d.IsOrdinary c ∧ c ≠ 'K' :=
    isOrdinary_word known (List.mem_append_right _
      (List.mem_flatMap.mpr ⟨type, ColumnType.mem_all type, by simp [h]⟩))
  have bracket {c : Char} (h : ['(', ')'].contains c = true) : d.IsOrdinary c ∧ c ≠ 'K' :=
    Dialect.isOrdinary_of_kind known (by decide) h
  unfold TypeName.render
  split
  · rename_i s given
    split
    · exact name
    · have size : ∀ c ∈ s.render.toList, d.IsOrdinary c ∧ c ≠ 'K' := by
        rcases Option.or_eq_some_iff.mp given with declared | ⟨-, default⟩
        · exact sized s declared
        · exact own s default
      simp only [String.toList_append]
      refine List.forall_mem_append.mpr ⟨List.forall_mem_append.mpr
        ⟨List.forall_mem_append.mpr ⟨name, fun c member => bracket ?_⟩, size⟩,
        fun c member => bracket ?_⟩
      · rw [show c = '(' by simpa using member]
        rfl
      · rw [show c = ')' by simpa using member]
        rfl
  · exact name

/-- Words are made of ordinary characters other than K, but for the words of options. -/
theorem Spells.letters (wf : b.WellFormed) (h : Spells d b text) :
    (∀ c ∈ text.toList, d.IsOrdinary c ∧ c ≠ 'K') ∨
      ∃ keyword ∈ optionKeywords, ∃ word, Identifier.isOption word.toList = true ∧
        text = keyword ++ "=" ++ word := by
  cases h with
  | @type c member type =>
    refine Or.inl (isOrdinary_type known type fun s declared => ?_)
    obtain ⟨given, read⟩ := wf.sizes c member s declared
    rcases Column.isSizeChar_of_readSize read with ⟨n, count⟩ | chars
    · rw [count]
      exact fun c inside => isOrdinary_numeral known (isNumeral_intText n c inside)
    · exact fun c inside => Dialect.isOrdinary_of_kind known (by decide) (chars c inside)
  | @serial type text serial =>
    refine Or.inl (isOrdinary_word known (List.mem_append_right _
      (List.mem_flatMap.mpr ⟨type, ColumnType.mem_all type, by simp [serial]⟩)))
  | truth v =>
    refine Or.inl (isOrdinary_word known (List.mem_append_left _ ?_))
    cases v <;> simp [Dialect.booleanLiteral]
  | int n => exact Or.inl fun c inside => isOrdinary_numeral known (isNumeral_intText n c inside)
  | float x => exact Or.inl fun c inside => isOrdinary_numeral known (x.isNumeral_text c inside)
  | decimal n => exact Or.inl fun c inside => isOrdinary_numeral known (n.isNumeral_text c inside)
  | counter => exact Or.inl (isOrdinary_word known (List.mem_append_left _ (by simp)))
  | addition => exact Or.inl (isOrdinary_word known (List.mem_append_left _ (by simp)))
  | @option keyword text listed member =>
    exact Or.inr ⟨keyword, listed, text, wf.options text member, rfl⟩

/-- No word of a dialect opens a name or a literal. -/
theorem Spells.isOrdinary (wf : b.WellFormed) (h : Spells d b text) :
    ∀ c ∈ text.toList, d.IsOrdinary c := by
  rcases h.letters known wf with letters | ⟨keyword, listed, word, valid, rfl⟩
  · exact fun c member => (letters c member).1
  · have fixed : optionKeywords.all (fun keyword =>
        (keyword ++ "=").toList.all (· ∉ Dialect.reserved)) = true := by decide
    obtain ⟨opening, closing, apart⟩ := Dialect.apart_of_mem_builtIn known
    rw [Identifier.isOption, Bool.and_eq_true, List.all_eq_true] at valid
    rw [String.toList_append]
    exact List.forall_mem_append.mpr
      ⟨Dialect.isOrdinary_of_all known (List.all_eq_true.mp fixed keyword listed),
        fun c member => Dialect.isOrdinary_of_isPlain apart (isPlain_of_isTail (valid.2 c member))⟩

end Known

end Ddl

end Sqlwright
