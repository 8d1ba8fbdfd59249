import Mathlib.Data.List.Induction
import Sqlwright.Proofs.Dialect.Quotes
import Sqlwright.Proofs.Query.Letters

/-!
The texts that columns are quoted to. A term is a star, a quoted name, all columns of one, or a
function of many rows of a name or a star, and behind it may stand one alias. What a caller writes
for a column is refused, or becomes such a text; only aliases behind an alias are taken as well, and
the dotted capital I in the name of a function is kept. Main statement:
`Dialect.column_wellFormed_iff`.
-/

namespace Sqlwright

open Text

namespace Text

/-- A letter that is read as an ASCII capital has it for its capital form, but for the dotted
capital I. -/
theorem capitalChar_of_readsAs {capital c : Char} (ascii : capital.toNat < 128)
    (h : readsAs capital c = true) (plain : c ≠ 'İ') : capitalChar c = [capital] := by
  simp only [readsAs, Bool.or_eq_true, Bool.and_eq_true, beq_iff_eq] at h
  rcases h with (upper | ⟨rfl, rfl⟩) | ⟨rfl, rfl | dotted⟩
  · subst upper
    unfold capitalChar
    -- The letters with capital forms of their own have no other one in ASCII.
    split <;> first | rfl | exact absurd ascii (by decide)
  · rfl
  · rfl
  · exact absurd dotted plain

/-- A dotted capital I is read as nothing but an I. -/
theorem eq_of_readsAs_dotted {capital : Char} (ascii : capital.toNat < 128)
    (h : readsAs capital 'İ' = true) : capital = 'I' := by
  simp only [readsAs, Bool.or_eq_true, Bool.and_eq_true, beq_iff_eq] at h
  rcases h with (upper | ⟨-, other⟩) | ⟨same, -⟩
  · subst upper
    exact absurd ascii (by decide)
  · exact absurd other (by decide)
  · exact same

theorem eq_nil_of_spells {text : List Char} (h : spells [] text = true) : text = [] := by
  cases text with
  | nil => rfl
  | cons c rest => cases h

theorem exists_of_spells_cons {w : Char} {ws text : List Char} (h : spells (w :: ws) text = true) :
    ∃ c rest, text = c :: rest ∧ readsAs w c = true ∧ spells ws rest = true := by
  cases text with
  | nil => cases h
  | cons c rest =>
    rw [spells, Bool.and_eq_true] at h
    exact ⟨c, rest, rfl, h⟩

/-- The capitals of a text that spells a word are that word, unless there is a dotted capital I. -/
theorem capitals_of_spells {word text : List Char} (ascii : ∀ w ∈ word, w.toNat < 128)
    (h : spells word text = true) (plain : 'İ' ∉ text) : capitals text = word := by
  induction word generalizing text with
  | nil =>
    obtain rfl := eq_nil_of_spells h
    rfl
  | cons w ws ih =>
    obtain ⟨c, rest, rfl, reads, spelled⟩ := exists_of_spells_cons h
    rw [List.mem_cons, not_or] at plain
    rw [List.forall_mem_cons] at ascii
    have later := ih ascii.2 spelled plain.2
    rw [capitals] at later ⊢
    rw [List.flatMap_cons, capitalChar_of_readsAs ascii.1 reads (Ne.symm plain.1), later,
      List.singleton_append]

/-- A dotted capital I can only stand for an I. -/
theorem mem_of_spells_dotted {word text : List Char} (ascii : ∀ w ∈ word, w.toNat < 128)
    (h : spells word text = true) (dotted : 'İ' ∈ text) : 'I' ∈ word := by
  induction word generalizing text with
  | nil =>
    obtain rfl := eq_nil_of_spells h
    cases dotted
  | cons w ws ih =>
    obtain ⟨c, rest, rfl, reads, spelled⟩ := exists_of_spells_cons h
    rw [List.forall_mem_cons] at ascii
    rcases List.mem_cons.mp dotted with rfl | later
    · exact List.mem_cons.mpr (Or.inl (eq_of_readsAs_dotted ascii.1 reads).symm)
    · exact List.mem_cons_of_mem _ (ih ascii.2 spelled later)

/-- Where MIN is read from a word with the dotted letter, that letter stays in the capitals. -/
theorem capitals_of_spells_dotted {text : List Char} (h : spells ['M', 'I', 'N'] text = true)
    (dotted : 'İ' ∈ text) : capitals text = ['M', 'İ', 'N'] := by
  obtain ⟨m, _, rfl, first, h⟩ := exists_of_spells_cons h
  obtain ⟨i, _, rfl, -, h⟩ := exists_of_spells_cons h
  obtain ⟨n, _, rfl, last, h⟩ := exists_of_spells_cons h
  obtain rfl := eq_nil_of_spells h
  have plain : m ≠ 'İ' ∧ n ≠ 'İ' := by
    constructor
    · rintro rfl
      exact absurd (eq_of_readsAs_dotted (by decide) first) (by decide)
    · rintro rfl
      exact absurd (eq_of_readsAs_dotted (by decide) last) (by decide)
  obtain rfl : i = 'İ' := by simpa [plain.1.symm, plain.2.symm, eq_comm] using dotted
  rw [capitals, List.flatMap_cons, List.flatMap_cons, List.flatMap_cons, List.flatMap_nil,
    capitalChar_of_readsAs (by decide) first plain.1,
    capitalChar_of_readsAs (by decide) last plain.2]
  rfl

theorem dotted_mem_capitals {text : List Char} (h : 'İ' ∈ text) : 'İ' ∈ capitals text :=
  List.mem_flatMap.mpr ⟨'İ', h, .head _⟩

end Text

namespace Dialect

variable {d : Dialect} {text : String}

def IsQuoted (d : Dialect) (text : String) : Prop := ∃ name, d.quoteIdentifier name = .ok text

/-- The text of a column without an alias, for functions of certain names. -/
inductive IsTerm (d : Dialect) (functions : List String) : String → Prop
  | star : IsTerm d functions "*"
  | allOf {owner : String} (h : d.IsQuoted owner) : IsTerm d functions (owner ++ ".*")
  | name {text : String} (h : d.IsQuoted text) : IsTerm d functions text
  | aggregate {function argument : String} (known : function ∈ functions) (distinct : Bool)
    (h : argument = "*" ∨ d.IsQuoted argument) :
    IsTerm d functions
      (function ++ "(" ++ (if distinct then "DISTINCT " else "") ++ argument ++ ")")

/-- The functions of many rows, in ASCII capitals. -/
def functions : List String := ["COUNT", "SUM", "AVG", "MIN", "MAX"]

/-- A well-formed text of a column: a term, or a term with an alias. -/
def IsExpression (d : Dialect) (text : String) : Prop :=
  d.IsTerm functions text ∨
    ∃ term name, d.IsTerm functions term ∧ d.IsQuoted name ∧ text = term ++ " AS " ++ name

def withAliases (term : String) (names : List String) : String :=
  names.foldl (fun text name => text ++ " AS " ++ name) term

theorem withAliases_concat (term : String) (names : List String) (name : String) :
    withAliases term (names ++ [name]) = withAliases term names ++ " AS " ++ name :=
  List.foldl_concat ..

section Known

variable (known : d ∈ builtIn)

include known

/-- No blank and no dotted capital I stands in a name. -/
theorem not_nameLetter {c : Char} (foreign : c ∈ [' ', 'İ']) : ¬ d.NameLetter c := by
  have all : [' ', 'İ'].all (fun c =>
      c ∉ quoteMarks ∧ Identifier.isTail c = false ∧ c ≠ '.') = true := by decide
  obtain ⟨opening, closing, opens, closes, marks⟩ := quoteMarks_of_mem_builtIn known
  obtain ⟨unmarked, unnamed, undotted⟩ :=
    of_decide_eq_true (List.all_eq_true.mp all c foreign)
  rintro (opened | closed | letter | dot)
  · rw [opens, List.mem_singleton] at opened
    exact unmarked (marks c (by simp [opened]))
  · rw [closes, List.mem_singleton] at closed
    exact unmarked (marks c (by simp [closed]))
  · rw [unnamed] at letter
    cases letter
  · exact undotted dot

theorem IsQuoted.not_mem (h : d.IsQuoted text) {c : Char} (foreign : c ∈ [' ', 'İ']) :
    c ∉ text.toList := by
  obtain ⟨name, quoted⟩ := h
  exact fun member => not_nameLetter known foreign (nameLetter_of_quoteIdentifier quoted member)

theorem IsQuoted.count_blank (h : d.IsQuoted text) : text.toList.count ' ' = 0 :=
  List.count_eq_zero.mpr (h.not_mem known (by simp))

/-- The letters of a term but for those of names. -/
theorem IsTerm.letters (h : d.IsTerm functions text) :
    text.toList.count ' ' ≤ 1 ∧ 'İ' ∉ text.toList := by
  have quoted {name : String} (h : d.IsQuoted name) :
      name.toList.count ' ' = 0 ∧ 'İ' ∉ name.toList :=
    ⟨List.count_eq_zero.mpr (h.not_mem known (by simp)), h.not_mem known (by simp)⟩
  cases h with
  | star => decide
  | allOf h =>
    obtain ⟨blank, dotted⟩ := quoted h
    simp [String.toList_append, List.count_append, blank, dotted]
  | name h =>
    obtain ⟨blank, dotted⟩ := quoted h
    exact ⟨by omega, dotted⟩
  | @aggregate function argument listed distinct h =>
    have named : ∀ function ∈ functions,
        function.toList.count ' ' = 0 ∧ 'İ' ∉ function.toList := by decide
    obtain ⟨blank, dotted⟩ := named function listed
    obtain ⟨blank', dotted'⟩ : argument.toList.count ' ' = 0 ∧ 'İ' ∉ argument.toList := by
      rcases h with rfl | h
      · decide
      · exact quoted h
    cases distinct <;>
      simp [String.toList_append, List.count_append, blank, dotted, blank', dotted']

theorem IsExpression.letters (h : d.IsExpression text) :
    text.toList.count ' ' ≤ 3 ∧ 'İ' ∉ text.toList := by
  rcases h with term | ⟨term, name, h, quoted, rfl⟩
  · obtain ⟨blank, dotted⟩ := term.letters known
    exact ⟨by omega, dotted⟩
  · obtain ⟨blank, dotted⟩ := h.letters known
    obtain ⟨blank', dotted'⟩ := (IsTerm.name quoted).letters known
    have none := quoted.count_blank known
    refine ⟨?_, by simp [String.toList_append, dotted, dotted']⟩
    simp only [String.toList_append, List.count_append, none]
    have between : " AS ".toList.count ' ' = 2 := rfl
    omega

end Known

/-- Each alias brings two blanks. -/
theorem count_withAliases (term : String) (names : List String) :
    2 * names.length ≤ (withAliases term names).toList.count ' ' := by
  induction names using List.reverseRecOn with
  | nil => exact Nat.zero_le _
  | append_singleton names name ih =>
    have between : " AS ".toList.count ' ' = 2 := rfl
    rw [withAliases_concat, List.length_append, List.length_singleton, String.toList_append,
      String.toList_append, List.count_append, List.count_append]
    omega

end Dialect

namespace ColumnTerm

/-- The number of aliases that stand behind a term. -/
def aliases : ColumnTerm → Nat
  | .aliased base _ => base.aliases + 1
  | .star | .allOf _ | .aggregate .. | .plain _ => 0

def function? : ColumnTerm → Option (List Char)
  | .aggregate function _ _ => some function
  | .aliased base _ => base.function?
  | .star | .allOf _ | .plain _ => none

variable {d : Dialect} {term : ColumnTerm} {text : String}

/-- A term is refused as a name is. -/
theorem exists_of_render_error {e : Error} (h : term.render d = .error e) :
    ∃ shown, e = .invalidIdentifier shown := by
  have unquoted {name : String} {e : Error} (h : d.quoteIdentifier name = .error e) :
      ∃ shown, e = .invalidIdentifier shown := ⟨_, Dialect.eq_of_quoteIdentifier_error h⟩
  induction term generalizing e with
  | star => cases h
  | allOf owner =>
    rcases bind_eq_error.mp h with refused | ⟨_, -, made⟩
    · exact unquoted refused
    · cases made
  | aggregate function distinct argument =>
    rw [render] at h
    split at h
    · cases h
    · rcases bind_eq_error.mp h with refused | ⟨_, -, made⟩
      · exact unquoted refused
      · cases made
  | plain name => exact unquoted h
  | aliased base name ih =>
    rcases bind_eq_error.mp h with refused | ⟨_, -, h⟩
    · exact ih refused
    · rcases bind_eq_error.mp h with refused | ⟨_, -, made⟩
      · exact unquoted refused
      · cases made

/-- What a term is rendered to: a text without aliases, and the aliases behind it. -/
theorem exists_of_render (h : term.render d = .ok text) :
    ∃ base names, text = Dialect.withAliases base names ∧ names.length = term.aliases ∧
      (∀ name ∈ names, d.IsQuoted name) ∧
      ∀ functions, (∀ function, term.function? = some function →
        String.ofList (capitals function) ∈ functions) → d.IsTerm functions base := by
  induction term generalizing text with
  | star =>
    cases h
    exact ⟨"*", [], rfl, rfl, nofun, fun _ _ => .star⟩
  | allOf owner =>
    obtain ⟨quoted, hquoted, h⟩ := bind_eq_ok.mp h
    cases h
    exact ⟨_, [], rfl, rfl, nofun, fun _ _ => .allOf ⟨_, hquoted⟩⟩
  | aggregate function distinct argument =>
    obtain ⟨inner, hinner, rfl⟩ := render_aggregate_eq_ok h
    exact ⟨_, [], rfl, rfl, nofun, fun functions known =>
      .aggregate (known function rfl) distinct (hinner.imp_right fun quoted => ⟨_, quoted⟩)⟩
  | plain name => exact ⟨text, [], rfl, rfl, nofun, fun _ _ => .name ⟨_, h⟩⟩
  | aliased base name ih =>
    obtain ⟨before, hbefore, h⟩ := bind_eq_ok.mp h
    obtain ⟨quoted, hquoted, h⟩ := bind_eq_ok.mp h
    cases h
    obtain ⟨first, names, rfl, counted, each, term⟩ := ih hbefore
    refine ⟨first, names ++ [quoted], (Dialect.withAliases_concat ..).symm, ?_, ?_, term⟩
    · simp [aliases, counted]
    · exact List.forall_mem_append.mpr ⟨each, List.forall_mem_singleton.mpr ⟨_, hquoted⟩⟩

/-- The functions of terms that were read, in capitals. The dotted capital I can stand in one of
them only. -/
theorem capitals_function {function : List Char} (sound : term.Sound)
    (called : term.function? = some function) :
    ('İ' ∉ function → String.ofList (capitals function) ∈ Dialect.functions) ∧
      ('İ' ∈ function → String.ofList (capitals function) = "MİN") := by
  have spelled : ∃ word ∈ Dialect.functions, spells word.toList function = true := by
    induction term with
    | aggregate =>
      cases called
      exact sound
    | aliased base name ih => exact ih sound called
    | _ => cases called
  obtain ⟨word, listed, spelled⟩ := spelled
  have all : Dialect.functions.all (fun word => word.toList.all (·.toNat < 128)) = true := by
    decide
  have ascii {w : Char} (member : w ∈ word.toList) : w.toNat < 128 :=
    of_decide_eq_true (List.all_eq_true.mp (List.all_eq_true.mp all word listed) w member)
  refine ⟨fun plain => ?_, fun dotted => ?_⟩
  · rwa [capitals_of_spells (fun _ => ascii) spelled plain, String.ofList_toList]
  · have letter := mem_of_spells_dotted (fun _ => ascii) spelled dotted
    have only : ∀ word ∈ Dialect.functions, 'I' ∈ word.toList → word = "MIN" := by decide
    obtain rfl := only word listed letter
    rw [capitals_of_spells_dotted spelled dotted]

/-- The dotted capital I in the name of a function is kept. -/
theorem dotted_mem_of_render {function : List Char} (h : term.render d = .ok text)
    (called : term.function? = some function) (dotted : 'İ' ∈ function) : 'İ' ∈ text.toList := by
  induction term generalizing text with
  | aggregate function' distinct argument =>
    cases called
    obtain ⟨inner, -, rfl⟩ := render_aggregate_eq_ok h
    simp [String.toList_append, dotted_mem_capitals dotted]
  | aliased base name ih =>
    obtain ⟨before, hbefore, h⟩ := bind_eq_ok.mp h
    obtain ⟨quoted, -, h⟩ := bind_eq_ok.mp h
    cases h
    simp [String.toList_append, ih hbefore called]
  | _ => cases called

end ColumnTerm

namespace Dialect

variable {d : Dialect}

/-- What is given for a column is refused as no name, or becomes a term with as many aliases behind
it as were given, and then is well-formed exactly if there is one alias at most and no dotted
capital I in the name of the function. -/
theorem column_wellFormed_iff (known : d ∈ builtIn) (given : String) :
    (∃ shown, d.column given = .error (.invalidIdentifier shown)) ∨
      ∃ text, d.column given = .ok text ∧
        (d.IsExpression text ↔ (ColumnTerm.read given.toList).aliases ≤ 1 ∧
          ∀ function, (ColumnTerm.read given.toList).function? = some function → 'İ' ∉ function) ∧
        ∃ term names, text = withAliases term names ∧
          names.length = (ColumnTerm.read given.toList).aliases ∧
          (∀ name ∈ names, d.IsQuoted name) ∧ d.IsTerm ("MİN" :: functions) term := by
  have sound := ColumnTerm.sound_read given.toList
  cases made : d.column given with
  | error e =>
    obtain ⟨shown, rfl⟩ := ColumnTerm.exists_of_render_error made
    exact Or.inl ⟨shown, rfl⟩
  | ok text =>
    obtain ⟨term, names, rfl, counted, each, shape⟩ := ColumnTerm.exists_of_render made
    refine Or.inr ⟨_, rfl, ⟨fun wellFormed => ?_, fun ⟨single, plain⟩ => ?_⟩, term, names, rfl,
      counted, each, shape _ fun function called => ?_⟩
    · obtain ⟨blanks, dotted⟩ := wellFormed.letters known
      have most := count_withAliases term names
      exact ⟨by omega, fun function called inside =>
        dotted (ColumnTerm.dotted_mem_of_render made called inside)⟩
    · have plainTerm : d.IsTerm functions term := shape _ fun function called =>
        (ColumnTerm.capitals_function sound called).1 (plain function called)
      match names, counted with
      | [], _ => exact Or.inl plainTerm
      | [name], _ => exact Or.inr ⟨term, name, plainTerm, each name (by simp), rfl⟩
      | _ :: _ :: _, counted =>
        simp only [List.length_cons] at counted
        omega
    · obtain ⟨plain, dotted⟩ := ColumnTerm.capitals_function sound called
      by_cases inside : 'İ' ∈ function
      · rw [dotted inside]
        exact .head _
      · exact List.mem_cons_of_mem _ (plain inside)

/-- A function of different values under an alias. -/
theorem column_wellFormed_iff_count :
    pgsql ∈ builtIn ∧
      pgsql.column "count(distinct a.b) AS n" = .ok "COUNT(DISTINCT \"a\".\"b\") AS \"n\"" ∧
      pgsql.IsExpression "COUNT(DISTINCT \"a\".\"b\") AS \"n\"" := by
  have known : pgsql ∈ builtIn := by simp [builtIn]
  have made : pgsql.column "count(distinct a.b) AS n" =
      .ok "COUNT(DISTINCT \"a\".\"b\") AS \"n\"" := eq_ok_of_toOption (by decide +kernel)
  refine ⟨known, made, ?_⟩
  rcases column_wellFormed_iff known "count(distinct a.b) AS n" with
    ⟨shown, refused⟩ | ⟨text, accepted, wellFormed, -⟩
  · cases made.symm.trans refused
  · cases made.symm.trans accepted
    refine wellFormed.mpr ⟨by decide +kernel, fun function called => ?_⟩
    have written : (ColumnTerm.read "count(distinct a.b) AS n".toList).function? =
        some "count".toList := by decide +kernel
    rw [written] at called
    cases called
    decide

/-- Two aliases are taken, and so is a function that is called with a dotted capital I. -/
theorem column_takes_more :
    pgsql ∈ builtIn ∧
      (pgsql.column "a AS b AS c" = .ok "\"a\" AS \"b\" AS \"c\"" ∧
        ¬ pgsql.IsExpression "\"a\" AS \"b\" AS \"c\"") ∧
      pgsql.column "MİN(a)" = .ok "MİN(\"a\")" ∧ ¬ pgsql.IsExpression "MİN(\"a\")" := by
  have known : pgsql ∈ builtIn := by simp [builtIn]
  refine ⟨known, ⟨eq_ok_of_toOption (by decide +kernel), fun wellFormed => ?_⟩,
    eq_ok_of_toOption (by decide +kernel), fun wellFormed => ?_⟩
  · exact absurd (wellFormed.letters known).1 (by decide)
  · exact absurd (wellFormed.letters known).2 (by decide)

end Dialect

end Sqlwright
