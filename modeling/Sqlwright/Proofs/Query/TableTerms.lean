import Sqlwright.Proofs.Dialect.Piece
import Sqlwright.Proofs.Query.ColumnTerms
import Sqlwright.Proofs.Text.LetterCase
import Sqlwright.Proofs.Text.Strip
import Sqlwright.Proofs.Text.Words

/-!
What a caller may write for a table: its name, its name and an alias, or the two with AS between
them, with any blanks between these words and around them. Naming the table of a query and joining a
table take the same texts and quote them alike, and refuse all others in the same words. Main
statement: `Builder.table_references_agree`.
-/

namespace Sqlwright

open Text

namespace TableTerm

/-- The ways to write AS: both letters in either case, and the long s for the second. -/
def spellingsOfAs : List String := ["AS", "As", "aS", "as", "Aſ", "aſ"]

inductive Words : TableTerm → List String → Prop
  | name {name : String} : Words ⟨name, none⟩ [name]
  | aliased {name second : String} : Words ⟨name, some second⟩ [name, second]
  | keyword {name keyword second : String} (h : keyword ∈ spellingsOfAs) :
    Words ⟨name, some second⟩ [name, keyword, second]

/-- A text for a table: the words for it with blanks around them, where the name and the alias are
names. -/
structure IsWritten (term : TableTerm) (given : String) : Prop where
  words : ∃ words, Consists words given ∧ term.Words words
  name : Identifier.isQualified term.name.toList = true
  second : ∀ second, term.alias? = some second → Identifier.isQualified second.toList = true

/-- The quoted name of a table, and behind a space its quoted alias if there is one. -/
inductive Quotes (d : Dialect) : TableTerm → String → Prop
  | name {name quoted : String} (h : d.quoteIdentifier name = .ok quoted) :
    Quotes d ⟨name, none⟩ quoted
  | aliased {name second quoted behind : String} (h : d.quoteIdentifier name = .ok quoted)
    (next : d.quoteIdentifier second = .ok behind) :
    Quotes d ⟨name, some second⟩ (quoted ++ " " ++ behind)

variable {d : Dialect} {term : TableTerm} {given text : String}

/-- The spellings of AS are the words that are read as it. -/
theorem spells_as_iff {text : List Char} :
    spells "AS".toList text = true ↔ String.ofList text ∈ spellingsOfAs := by
  constructor
  · intro h
    have capitals : "AS".toList = ['A', 'S'] := rfl
    rw [capitals] at h
    obtain ⟨first, rest, rfl, reads, h⟩ := exists_of_spells_cons h
    obtain ⟨last, others, rfl, reads', h⟩ := exists_of_spells_cons h
    obtain rfl := eq_nil_of_spells h
    have letter : first = 'A' ∨ first = 'a' := by
      have upper : first.toUpper = 'A' := by simpa [readsAs] using reads
      exact eq_or_eq_toLower_of_toUpper upper
    have letter' : last = 'S' ∨ last = 's' ∨ last = 'ſ' := by
      have upper : last.toUpper = 'S' ∨ last = 'ſ' := by simpa [readsAs] using reads'
      rcases upper with upper | long
      · exact (eq_or_eq_toLower_of_toUpper upper).imp_right Or.inl
      · exact Or.inr (Or.inr long)
    rcases letter with rfl | rfl <;> rcases letter' with rfl | rfl | rfl <;> decide
  · intro h
    have all : ∀ word ∈ spellingsOfAs, spells "AS".toList word.toList = true := by decide
    simpa using all _ h

/-- A table is accepted exactly if all of its names can be quoted. -/
theorem render_eq_ok : term.render d = .ok text ↔ term.Quotes d text := by
  constructor
  · intro h
    obtain ⟨quoted, hquoted, h⟩ := bind_eq_ok.mp h
    obtain ⟨name, second⟩ := term
    cases second with
    | none =>
      cases h
      exact .name hquoted
    | some second =>
      obtain ⟨behind, hbehind, h⟩ := bind_eq_ok.mp h
      cases h
      exact .aliased hquoted hbehind
  · intro h
    cases h with
    | name h => exact bind_eq_ok.mpr ⟨_, h, rfl⟩
    | aliased h next => exact bind_eq_ok.mpr ⟨_, h, bind_eq_ok.mpr ⟨_, next, rfl⟩⟩

/-- A table is refused as a name is. -/
theorem exists_of_render_error {e : Error} (h : term.render d = .error e) :
    ∃ shown, e = .invalidIdentifier shown := by
  obtain ⟨name, second⟩ := term
  rcases bind_eq_error.mp h with refused | ⟨quoted, -, h⟩
  · exact ⟨_, Dialect.eq_of_quoteIdentifier_error refused⟩
  · cases second with
    | none => cases h
    | some second =>
      rcases bind_eq_error.mp h with refused | ⟨_, -, made⟩
      · exact ⟨_, Dialect.eq_of_quoteIdentifier_error refused⟩
      · cases made

/-- A table whose name and alias are names is quoted. -/
theorem IsWritten.exists_quotes (h : term.IsWritten given) (d : Dialect) :
    ∃ text, term.Quotes d text := by
  obtain ⟨-, name, second⟩ := h
  have quoted {name : String} (valid : Identifier.isQualified name.toList = true) :
      d.quoteIdentifier name = .ok (d.spell name) :=
    Dialect.quoteIdentifier_eq_ok.mpr ⟨valid, rfl⟩
  obtain ⟨_, _ | other⟩ := term
  · exact ⟨_, .name (quoted name)⟩
  · exact ⟨_, .aliased (quoted name) (quoted (second other rfl))⟩

/-- What is written for a table is read as that table. -/
theorem IsWritten.read_eq (h : term.IsWritten given) : read given = term := by
  obtain ⟨words, consists, shape⟩ := h.words
  have lists : wordLists given.toList = words.map String.toList := by
    rw [← words_of_consists consists, Text.words, List.map_map]
    simp
  cases shape with
  | name =>
    obtain ⟨-, whole⟩ := consists_singleton_iff.mp consists
    simp [read, lists, whole]
  | aliased => simp [read, lists]
  | @keyword name keyword second listed =>
    have reads : spells "AS".toList keyword.toList = true :=
      spells_as_iff.mpr (by rwa [String.ofList_toList])
    simp only [read, lists, List.map_cons, List.map_nil, reads, if_true, String.ofList_toList]

/-- A text is read as its words say, or else as a name from its first word to its last. -/
theorem words_read (given : String) :
    (read given).Words (words given) ∨ read given = ⟨strip given, none⟩ := by
  unfold read
  split
  · rename_i name second found
    left
    rw [Text.words, found]
    exact .aliased
  · rename_i name keyword second found
    split
    · rename_i reads
      left
      rw [Text.words, found]
      exact .keyword (spells_as_iff.mp reads)
    · exact Or.inr rfl
  · exact Or.inr rfl

theorem isWord_of_isQualified (h : Identifier.isQualified text.toList = true) : IsWord text := by
  constructor
  · intro empty
    rw [empty] at h
    cases h
  · intro c member
    rcases Identifier.isTail_or_dot_of_isQualified h member with letter | rfl
    · exact not_isBlank_of_isTail letter
    · rfl

/-- What is read and quoted as a table is written for it. A text of several words that is read as
one name is none, because names hold no blanks. -/
theorem isWritten_of_render (h : (read given).render d = .ok text) :
    (read given).IsWritten given := by
  have names : Identifier.isQualified (read given).name.toList = true ∧
      ∀ second, (read given).alias? = some second →
        Identifier.isQualified second.toList = true := by
    generalize read given = term at h
    cases render_eq_ok.mp h with
    | name quoted => exact ⟨(Dialect.quoteIdentifier_eq_ok.mp quoted).1, nofun⟩
    | aliased quoted next =>
      refine ⟨(Dialect.quoteIdentifier_eq_ok.mp quoted).1, ?_⟩
      rintro _ ⟨⟩
      exact (Dialect.quoteIdentifier_eq_ok.mp next).1
  refine ⟨?_, names.1, names.2⟩
  rcases words_read given with shape | whole
  · exact ⟨words given, consists_iff.mpr rfl, shape⟩
  · rw [whole] at names ⊢
    have single := consists_singleton_iff.mpr ⟨isWord_of_isQualified names.1, rfl⟩
    exact ⟨[strip given], single, .name⟩

end TableTerm

/-- A join is what was given for it, the table aside: the kind, the operator and both columns are
accepted. -/
structure Join.IsGiven (j : Join) (d : Dialect) (left : String) (operator : Value) (right : String)
    (kind : Value) : Prop where
  kind : JoinKind.ofValue kind = .ok j.kind
  operator : Comparison.ofValue operator = .ok j.operator
  left : d.column left = .ok j.left
  right : d.column right = .ok j.right

namespace Builder

/-- A text names a table for a query exactly if it names one for a join whose other arguments are
accepted: if its words are a name, a name and an alias, or the two with AS between them. Both quote
the name, and behind a space the alias; both refuse any other text with the same error. A query that
a table is named for starts afresh, whatever it held; one that a join is refused for stays as it
is. -/
theorem table_references_agree (b : Builder) (given : String) :
    (∀ term : TableTerm, term.IsWritten given →
      ∃ text, term.Quotes b.dialect text ∧
        (∀ q, b.apply q (.clause (.table given)) =
          (.ok (), { name := some term.name, table := some text })) ∧
        ∀ (q : Query) (j : Join) (left right : String) (operator kind : Value),
          j.IsGiven b.dialect left operator right kind →
          b.apply q (.clause (.join given left operator right kind)) =
            (.ok (), { q with joins := q.joins ++ [{ j with table := text }] })) ∧
    ((¬ ∃ term : TableTerm, term.IsWritten given) →
      ∃ shown,
        (∀ q, b.apply q (.clause (.table given)) = (.error (.invalidIdentifier shown), {})) ∧
        ∀ (q : Query) (j : Join) (left right : String) (operator kind : Value),
          j.IsGiven b.dialect left operator right kind →
          b.apply q (.clause (.join given left operator right kind)) =
            (.error (.invalidIdentifier shown), q)) := by
  constructor
  · intro term written
    obtain ⟨text, quotes⟩ := written.exists_quotes b.dialect
    have rendered : (TableTerm.read given).render b.dialect = .ok text := by
      rw [written.read_eq]
      exact TableTerm.render_eq_ok.mpr quotes
    refine ⟨text, quotes, fun q => ?_, fun q j left right operator kind accepted => ?_⟩
    · have named : Clause.setTable b.dialect {} given =
          .ok { name := some term.name, table := some text } := by
        rw [← written.read_eq]
        exact bind_eq_ok.mpr ⟨text, rendered, rfl⟩
      simp only [Builder.apply, Clause.apply, named, Clause.attempt]
    · have joined : Clause.addJoin b.dialect q given left operator right kind =
          .ok { q with joins := q.joins ++ [{ j with table := text }] } := by
        simp only [Clause.addJoin, accepted.kind, accepted.operator, rendered, accepted.left,
          accepted.right]
        rfl
      simp only [Builder.apply, Clause.apply, joined, Clause.attempt]
  · intro unwritten
    cases rendered : (TableTerm.read given).render b.dialect with
    | ok text => exact absurd ⟨_, TableTerm.isWritten_of_render rendered⟩ unwritten
    | error e =>
      obtain ⟨shown, rfl⟩ := TableTerm.exists_of_render_error rendered
      refine ⟨shown, fun q => ?_, fun q j left right operator kind accepted => ?_⟩
      · have refused : Clause.setTable b.dialect {} given = .error (.invalidIdentifier shown) :=
          bind_eq_error.mpr (Or.inl rendered)
        simp only [Builder.apply, Clause.apply, refused, Clause.attempt]
      · have refused : Clause.addJoin b.dialect q given left operator right kind =
            .error (.invalidIdentifier shown) := by
          simp only [Clause.addJoin, accepted.kind, accepted.operator, rendered]
          rfl
        simp only [Builder.apply, Clause.apply, refused, Clause.attempt]

/-- An alias behind a long s, an alias that is called as, and three words of which the second is not
AS. -/
theorem table_references_agree_blanks :
    (∀ q, Builder.apply { dialect := Dialect.mysql } q (.clause (.table "\n dbo.users\taſ  u ")) =
      (.ok (), { name := some "dbo.users", table := some "`dbo`.`users` `u`" })) ∧
    (∀ q, Builder.apply { dialect := Dialect.mysql } q
      (.clause (.join "users as" "id" (.text "=") "as.id" (.text "left"))) =
      (.ok (), { q with joins :=
        q.joins ++ [⟨.left, "`users` `as`", "`id`", .equal, "`as`.`id`"⟩] })) ∧
    ∃ shown, ∀ q, Builder.apply { dialect := Dialect.mysql } q (.clause (.table "users of u")) =
      (.error (.invalidIdentifier shown), {}) := by
  have agree := table_references_agree { dialect := Dialect.mysql }
  have consists {given : String} {words : List String} (h : Text.words given = words) :
      Consists words given := consists_iff.mpr h
  have aliased : TableTerm.IsWritten ⟨"dbo.users", some "u"⟩ "\n dbo.users\taſ  u " :=
    ⟨⟨["dbo.users", "aſ", "u"], consists (by decide +kernel), .keyword (by decide)⟩, by decide,
      by rintro _ ⟨⟩; decide⟩
  have called : TableTerm.IsWritten ⟨"users", some "as"⟩ "users as" :=
    ⟨⟨["users", "as"], consists (by decide +kernel), .aliased⟩, by decide,
      by rintro _ ⟨⟩; decide⟩
  have unwritten : ¬ ∃ term : TableTerm, term.IsWritten "users of u" := by
    rintro ⟨term, ⟨words, split, shape⟩, -, -⟩
    have three : Text.words "users of u" = ["users", "of", "u"] := by decide +kernel
    rw [words_of_consists split] at three
    subst three
    cases shape with
    | keyword listed => exact absurd listed (by decide)
  obtain ⟨text, quotes, named, -⟩ := (agree _).1 _ aliased
  obtain ⟨text', quotes', -, joined⟩ := (agree _).1 _ called
  obtain ⟨shown, refused, -⟩ := (agree _).2 unwritten
  cases TableTerm.render_eq_ok.mpr quotes
  cases TableTerm.render_eq_ok.mpr quotes'
  have given : Join.IsGiven ⟨.left, "", "`id`", .equal, "`as`.`id`"⟩ Dialect.mysql "id" (.text "=")
      "as.id" (.text "left") :=
    ⟨rfl, rfl, eq_ok_of_toOption (by decide +kernel), eq_ok_of_toOption (by decide +kernel)⟩
  exact ⟨named, fun q => joined q _ _ _ _ _ given, shown, refused⟩

end Builder

end Sqlwright
