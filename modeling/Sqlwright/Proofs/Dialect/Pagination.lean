import Sqlwright.Dialect.Pagination
import Sqlwright.Proofs.Text.Name
import Sqlwright.Proofs.Text.Words

/-!
The window of rows that a clause asks for, read off its words alone. However a database spells it, a
limit stands for the first rows and a page for the rows behind the earlier pages. A TOP clause goes
behind SELECT or SELECT DISTINCT; which of the two it is, is seen in the text.
-/

namespace Sqlwright

open Number Text

namespace Text

theorem words_blank (text : String) : words (" " ++ text) = words text :=
  words_gap (by simp [IsGap, isBlank]) text

theorem words_cons {word : String} (h : IsWord word) (text : String) :
    words (word ++ " " ++ text) = word :: words text := by
  rw [String.append_assoc, words_append h (by simp [isBlank]), words_blank]

theorem words_join {parts : List String} (h : ∀ part ∈ parts, IsWord part) :
    words (join " " parts) = parts := by
  induction parts using join.induct with
  | case1 => rfl
  | case2 part => exact words_word (h part (by simp))
  | case3 part next rest ih =>
    rw [join, words_cons (h part (by simp)), ih fun other member => h other (by simp [member])]

def count? (text : String) : Option Int :=
  if !text.isEmpty && text.toList.all Char.isDigit then some (Nat.ofDigitChars 10 text.toList 0)
  else none

theorem toList_intText {n : Int} (h : 0 ≤ n) : (intText n).toList = Nat.toDigits 10 n.natAbs := by
  rw [intText, if_neg (by omega), String.toList_ofList]
  rfl

theorem isWord_intText {n : Int} (h : 0 ≤ n) : IsWord (intText n) := by
  rw [IsWord, toList_intText h]
  exact ⟨Nat.toDigits_ne_nil, fun c member =>
    not_isBlank_of_isDigit (isDigit_of_mem_decimalDigits member)⟩

theorem count?_intText {n : Int} (h : 0 ≤ n) : count? (intText n) = some n := by
  have digits : (intText n).toList.all Char.isDigit = true := by
    rw [toList_intText h, List.all_eq_true]
    exact fun c => isDigit_of_mem_decimalDigits
  have present : (intText n).isEmpty = false := by
    rw [Bool.eq_false_iff]
    intro empty
    have := (isWord_intText h).1
    simp [String.isEmpty_iff.mp empty] at this
  rw [count?, digits, present, if_pos (by rfl), toList_intText h, Nat.ofDigitChars_ten_toDigits]
  exact congrArg some (Int.natAbs_of_nonneg h)

end Text

/-- Rows from a place on up to another one, which is left out. -/
structure Window where
  start : Int
  stop : Int
  deriving DecidableEq, Repr

namespace Window

/-- The window that a clause asks for. Rows that are named from one to another count from one and
include the last. -/
def read? (clause : String) : Option Window :=
  match words clause with
  | ["LIMIT", most] | ["TOP", most] | ["FETCH", "FIRST", most, "ROWS", "ONLY"] => do
    return ⟨0, ← count? most⟩
  | ["LIMIT", most, "OFFSET", skipped]
  | ["OFFSET", skipped, "ROWS", "FETCH", "NEXT", most, "ROWS", "ONLY"] => do
    let skipped ← count? skipped
    return ⟨skipped, skipped + (← count? most)⟩
  | ["ROWS", first, "TO", last] => do
    return ⟨(← count? first) - 1, ← count? last⟩
  | _ => none

/-- The rows within a limit, of which there is a page or not. -/
def within (limit : Int) : (page : Option Int) → Window
  | none => ⟨0, limit⟩
  | some page => ⟨(page - 1) * limit, page * limit⟩

def Holds (w : Window) (row : Int) : Prop := w.start ≤ row ∧ row < w.stop

section Reading

variable {limit offset : Int}

theorem read?_limit (h : 0 ≤ limit) : read? (" LIMIT " ++ intText limit) = some ⟨0, limit⟩ := by
  have split : " LIMIT " ++ intText limit = " " ++ join " " ["LIMIT", intText limit] :=
    String.toList_inj.mp (by simp [join])
  have spelled : ∀ part ∈ ["LIMIT", intText limit], IsWord part := by
    simp only [List.forall_mem_cons]
    exact ⟨isWord_of_all rfl, isWord_intText h, by simp⟩
  rw [read?, split, words_blank, words_join spelled]
  simp [count?_intText h]

theorem read?_limitOffset (h : 0 ≤ limit) (ho : 0 ≤ offset) :
    read? (" LIMIT " ++ intText limit ++ " OFFSET " ++ intText offset) =
      some ⟨offset, offset + limit⟩ := by
  have split : " LIMIT " ++ intText limit ++ " OFFSET " ++ intText offset =
      " " ++ join " " ["LIMIT", intText limit, "OFFSET", intText offset] :=
    String.toList_inj.mp (by simp [join])
  have spelled : ∀ part ∈ ["LIMIT", intText limit, "OFFSET", intText offset], IsWord part := by
    simp only [List.forall_mem_cons]
    exact ⟨isWord_of_all rfl, isWord_intText h, isWord_of_all rfl, isWord_intText ho, by simp⟩
  rw [read?, split, words_blank, words_join spelled]
  simp [count?_intText h, count?_intText ho]

theorem read?_top (h : 0 ≤ limit) : read? ("TOP " ++ intText limit ++ " ") = some ⟨0, limit⟩ := by
  have word : IsWord "TOP" := isWord_of_all rfl
  have number := words_cons (isWord_intText h) ""
  have split : "TOP " ++ intText limit ++ " " = "TOP" ++ " " ++ (intText limit ++ " " ++ "") :=
    String.toList_inj.mp (by simp)
  have nothing : words "" = [] := rfl
  rw [read?, split, words_cons word, number, nothing]
  simp [count?_intText h]

theorem read?_fetchFirst (h : 0 ≤ limit) :
    read? (" FETCH FIRST " ++ intText limit ++ " ROWS ONLY") = some ⟨0, limit⟩ := by
  have split : " FETCH FIRST " ++ intText limit ++ " ROWS ONLY" =
      " " ++ join " " ["FETCH", "FIRST", intText limit, "ROWS", "ONLY"] :=
    String.toList_inj.mp (by simp [join])
  have spelled : ∀ part ∈ ["FETCH", "FIRST", intText limit, "ROWS", "ONLY"], IsWord part := by
    simp only [List.forall_mem_cons]
    exact ⟨isWord_of_all rfl, isWord_of_all rfl, isWord_intText h, isWord_of_all rfl,
      isWord_of_all rfl, by simp⟩
  rw [read?, split, words_blank, words_join spelled]
  simp [count?_intText h]

theorem read?_offsetFetch (h : 0 ≤ limit) (ho : 0 ≤ offset) :
    read? (Pagination.offsetFetch offset limit) = some ⟨offset, offset + limit⟩ := by
  have split : Pagination.offsetFetch offset limit =
      " " ++ join " "
        ["OFFSET", intText offset, "ROWS", "FETCH", "NEXT", intText limit, "ROWS", "ONLY"] :=
    String.toList_inj.mp (by simp [join, Pagination.offsetFetch])
  have spelled : ∀ part ∈
      ["OFFSET", intText offset, "ROWS", "FETCH", "NEXT", intText limit, "ROWS", "ONLY"],
      IsWord part := by
    simp only [List.forall_mem_cons]
    exact ⟨isWord_of_all rfl, isWord_intText ho, isWord_of_all rfl, isWord_of_all rfl,
      isWord_of_all rfl, isWord_intText h, isWord_of_all rfl, isWord_of_all rfl, by simp⟩
  rw [read?, split, words_blank, words_join spelled]
  simp [count?_intText h, count?_intText ho]

/-- Rows that are named from one to another: the first one counts from one, and the last is
included. -/
theorem read?_rows {first last : Int} (hfirst : 0 ≤ first) (hlast : 0 ≤ last) :
    read? (" ROWS " ++ intText first ++ " TO " ++ intText last) = some ⟨first - 1, last⟩ := by
  have split : " ROWS " ++ intText first ++ " TO " ++ intText last =
      " " ++ join " " ["ROWS", intText first, "TO", intText last] :=
    String.toList_inj.mp (by simp [join])
  have spelled : ∀ part ∈ ["ROWS", intText first, "TO", intText last], IsWord part := by
    simp only [List.forall_mem_cons]
    exact ⟨isWord_of_all rfl, isWord_intText hfirst, isWord_of_all rfl, isWord_intText hlast,
      by simp⟩
  rw [read?, split, words_blank, words_join spelled]
  simp [count?_intText hfirst, count?_intText hlast]

end Reading

variable {limit : Int}

/-- A row is in the window of one page at most. -/
theorem page_unique (h : 0 ≤ limit) {page other row : Int}
    (here : (within limit (some page)).Holds row) (there : (within limit (some other)).Holds row) :
    page = other := by
  have apart : ∀ {p p' : Int}, (within limit (some p)).Holds row →
      (within limit (some p')).Holds row → ¬ p < p' := by
    intro p p' hp hp' before
    have := Int.mul_le_mul_of_nonneg_right (show p ≤ p' - 1 by omega) h
    have := hp.2
    have := hp'.1
    simp only [within] at *
    omega
  have := apart here there
  have := apart there here
  omega

/-- The pages from the first on cover the rows from the first on. -/
theorem pages_cover (h : 0 ≤ limit) (n : Nat) (row : Int) :
    (∃ page : Int, 1 ≤ page ∧ page ≤ n ∧ (within limit (some page)).Holds row) ↔
      0 ≤ row ∧ row < n * limit := by
  induction n with
  | zero =>
    constructor
    · rintro ⟨page, first, last, -⟩
      omega
    · intro h
      omega
  | succ n ih =>
    have filled : 0 ≤ n * limit := Int.mul_nonneg (by omega) h
    have size : ((n : Int) + 1) * limit = n * limit + limit := by
      rw [Int.add_mul]
      omega
    have added : (within limit (some (n + 1))).Holds row ↔
        n * limit ≤ row ∧ row < n * limit + limit := by
      rw [within, Int.add_sub_cancel, size]
      rfl
    rw [Int.natCast_add, Int.natCast_one, size]
    constructor
    · rintro ⟨page, first, last, here⟩
      by_cases old : page ≤ n
      · have := ih.mp ⟨page, first, old, here⟩
        omega
      · obtain rfl : page = n + 1 := by omega
        have := added.mp here
        omega
    · rintro ⟨low, high⟩
      by_cases old : row < n * limit
      · obtain ⟨page, first, last, here⟩ := ih.mpr ⟨low, old⟩
        exact ⟨page, first, by omega, here⟩
      · exact ⟨n + 1, by omega, by omega, added.mpr (by omega)⟩

end Window

namespace Pagination

theorem behind?_append (head : String) (rest : List Char) :
    behind? head (head.toList ++ rest) = some rest := by
  simp [behind?]

theorem behind?_eq_none {head : String} {text : List Char} (h : ¬ head.toList <+: text) :
    behind? head text = none := by
  rw [behind?, if_neg (by simpa using h)]

def selectHead (distinct : Bool) : String := if distinct then "SELECT DISTINCT " else "SELECT "

/-- A TOP clause goes right behind the head, provided that the head of a plain SELECT is not
followed by what would be read as a part of the other one. -/
theorem insertTop_selectHead {distinct : Bool} {rest : String} (limit : Int)
    (h : distinct = false → ¬ "DISTINCT ".toList <+: rest.toList) :
    insertTop (selectHead distinct ++ rest) limit =
      .ok (selectHead distinct ++ ("TOP " ++ intText limit ++ " ") ++ rest) := by
  cases distinct with
  | true =>
    have found := behind?_append "SELECT DISTINCT " rest.toList
    simp only [insertTop, selectHeads, selectHead, if_true, List.findSome?_cons,
      String.toList_append, found, Option.map_some, String.ofList_toList]
    simp only [String.append_assoc]
  | false =>
    have longer : ¬ "SELECT DISTINCT ".toList <+: ("SELECT ".toList ++ rest.toList) := by
      have split : "SELECT DISTINCT ".toList = "SELECT ".toList ++ "DISTINCT ".toList := rfl
      rw [split, List.prefix_append_right_inj]
      exact h rfl
    have found := behind?_append "SELECT " rest.toList
    simp only [insertTop, selectHeads, selectHead, List.findSome?_cons, Bool.false_eq_true,
      if_false, String.toList_append, behind?_eq_none longer, found, Option.map_some,
      Option.map_none, String.ofList_toList]
    simp only [String.append_assoc]

/-- The styles that refuse a page of rows in no order. -/
def NeedsOrder (style : PaginationStyle) : Prop := style = .top ∨ style = .offsetFetch

theorem offset_nonneg {limit page : Int} (hlimit : 0 ≤ limit) (hpage : 1 ≤ page) :
    0 ≤ offset limit page := Int.mul_nonneg (by omega) hlimit

/-- The window of a page starts behind the earlier pages and is as long as the limit. -/
theorem within_some (limit page : Int) :
    Window.within limit (some page) = ⟨offset limit page, offset limit page + limit⟩ := by
  have stop : page * limit = (page - 1) * limit + limit := by rw [Int.sub_mul]; omega
  rw [Window.within, stop, offset]

/-- The refusal of a page in no order names the database. -/
theorem apply_unordered {d : Dialect} (whole : String) (limit : Int) {page : Int}
    (style : NeedsOrder d.pagination) :
    apply d whole (some limit) (some (offset limit page)) false =
      .error (.unorderedPage d.name) := by
  rcases style with top | fetch
  · simp [apply, top]
  · simp [apply, fetch]

/-- The clauses that databases spell a window of rows with. -/
inductive Spelling
  | limit (most : Int)
  | limitOffset (most skipped : Int)
  | top (most : Int)
  | fetchFirst (most : Int)
  | offsetFetch (skipped most : Int)
  | rows (first last : Int)

namespace Spelling

/-- A TOP clause has its blank behind it and the others have theirs in front, because of where they
stand. -/
def sql : Spelling → String
  | .limit most => " LIMIT " ++ intText most
  | .limitOffset most skipped => " LIMIT " ++ intText most ++ " OFFSET " ++ intText skipped
  | .top most => "TOP " ++ intText most ++ " "
  | .fetchFirst most => " FETCH FIRST " ++ intText most ++ " ROWS ONLY"
  | .offsetFetch skipped most =>
    " OFFSET " ++ intText skipped ++ " ROWS FETCH NEXT " ++ intText most ++ " ROWS ONLY"
  | .rows first last => " ROWS " ++ intText first ++ " TO " ++ intText last

/-- The rows that a clause asks for. Rows that are named from one to another count from one. -/
def window : Spelling → Window
  | .limit most | .top most | .fetchFirst most => ⟨0, most⟩
  | .limitOffset most skipped | .offsetFetch skipped most => ⟨skipped, skipped + most⟩
  | .rows first last => ⟨first - 1, last⟩

def numbers : Spelling → List Int
  | .limit most | .top most | .fetchFirst most => [most]
  | .limitOffset most skipped | .offsetFetch skipped most => [most, skipped]
  | .rows first last => [first, last]

/-- Which style has a clause, and whether for pages or for limits alone. -/
def Suits (style : PaginationStyle) (paged : Bool) : Spelling → Prop
  | .limit _ => style = .limitOffset ∧ paged = false
  | .limitOffset _ _ => style = .limitOffset ∧ paged = true
  | .top _ => style = .top ∧ paged = false
  | .fetchFirst _ => style = .offsetFetch ∧ paged = false
  | .offsetFetch _ _ => NeedsOrder style ∧ paged = true
  | .rows _ _ => style = .rowsRange

/-- Where a clause goes: a TOP clause right behind the head of the SELECT, every other one at the
end. -/
def Places (distinct : Bool) (whole cut : String) : Spelling → Prop
  | .top most => ∃ rest, whole = selectHead distinct ++ rest ∧
    cut = selectHead distinct ++ (top most).sql ++ rest
  | clause => cut = whole ++ clause.sql

/-- The words of a clause tell its window, whichever style it is of. -/
theorem read?_sql {clause : Spelling} (h : ∀ n ∈ clause.numbers, 0 ≤ n) :
    Window.read? clause.sql = some clause.window := by
  cases clause with
  | limit most => exact Window.read?_limit (h most (by simp [numbers]))
  | limitOffset most skipped =>
    exact Window.read?_limitOffset (h most (by simp [numbers])) (h skipped (by simp [numbers]))
  | top most => exact Window.read?_top (h most (by simp [numbers]))
  | fetchFirst most => exact Window.read?_fetchFirst (h most (by simp [numbers]))
  | offsetFetch skipped most =>
    exact Window.read?_offsetFetch (h most (by simp [numbers])) (h skipped (by simp [numbers]))
  | rows first last =>
    exact Window.read?_rows (h first (by simp [numbers])) (h last (by simp [numbers]))

end Spelling

/-- How a paginated statement comes from the whole one. Without a limit nothing is added. Otherwise
one clause is, in the spelling of the style and in its place, and its words ask for the rows within
the limit. -/
def Cuts (style : PaginationStyle) (distinct : Bool) (limit page : Option Int)
    (whole cut : String) : Prop :=
  match limit with
  | none => cut = whole
  | some limit => ∃ clause : Spelling, clause.Suits style page.isSome ∧
    clause.window = Window.within limit page ∧
    Window.read? clause.sql = some (Window.within limit page) ∧ clause.Places distinct whole cut

theorem exists_cuts {style : PaginationStyle} {distinct : Bool} {limit : Int} {page : Option Int}
    {whole cut : String} {result : Except Error String} (clause : Spelling)
    (suits : clause.Suits style page.isSome) (window : clause.window = Window.within limit page)
    (natural : ∀ n ∈ clause.numbers, 0 ≤ n) (places : clause.Places distinct whole cut)
    (made : result = .ok cut) :
    ∃ cut, result = .ok cut ∧ Cuts style distinct (some limit) page whole cut :=
  ⟨cut, made, clause, suits, window, window ▸ clause.read?_sql natural, places⟩

/-- Every style cuts out the same window. -/
theorem apply_cuts {d : Dialect}
    (known : d.pagination ∈ [.limitOffset, .top, .offsetFetch, .rowsRange]) (distinct : Bool)
    (rest : String) {limit page : Option Int} {ordered : Bool}
    (hlimit : ∀ n, limit = some n → 0 ≤ n) (hpage : ∀ n, page = some n → 1 ≤ n)
    (head : d.pagination = .top → distinct = false → ¬ "DISTINCT ".toList <+: rest.toList)
    (order : NeedsOrder d.pagination → page.isSome → ordered = true) :
    ∃ cut, apply d (selectHead distinct ++ rest) limit
        (limit.bind fun limit => page.map (offset limit)) ordered = .ok cut ∧
      Cuts d.pagination distinct limit page (selectHead distinct ++ rest) cut := by
  cases limit with
  | none => exact ⟨_, rfl, rfl⟩
  | some limit =>
    have nonneg := hlimit limit rfl
    simp only [List.mem_cons, List.not_mem_nil, or_false] at known
    cases page with
    | none =>
      have natural : ∀ n ∈ [limit], 0 ≤ n := List.forall_mem_singleton.mpr nonneg
      rcases known with style | style | style | style
      · refine exists_cuts (.limit limit) ⟨style, rfl⟩ rfl natural rfl ?_
        simp [apply, style, Spelling.sql, String.append_assoc]
      · refine exists_cuts (.top limit) ⟨style, rfl⟩ rfl natural ⟨rest, rfl, rfl⟩ ?_
        have placed := insertTop_selectHead limit (head style)
        simpa only [apply, style, Option.bind_some, Option.map_none, Spelling.sql] using placed
      · refine exists_cuts (.fetchFirst limit) ⟨style, rfl⟩ rfl natural rfl ?_
        simp [apply, style, Spelling.sql, String.append_assoc]
      · have window : (Spelling.rows 1 (1 + limit - 1)).window = Window.within limit none := by
          rw [Spelling.window, Window.within]
          congr 1
          omega
        refine exists_cuts (.rows 1 (1 + limit - 1)) style window ?_ rfl ?_
        · simp only [Spelling.numbers, List.forall_mem_cons]
          exact ⟨by omega, by omega, by simp⟩
        · simp [apply, style, Spelling.sql, String.append_assoc]
    | some page =>
      -- A page stands at the end even where a limit alone is a TOP clause.
      have skipped := offset_nonneg nonneg (hpage page rfl)
      have same := within_some limit page
      have natural : ∀ n ∈ [limit, offset limit page], 0 ≤ n := by simp [nonneg, skipped]
      rcases known with style | style | style | style
      · refine exists_cuts (.limitOffset limit (offset limit page)) ⟨style, rfl⟩ same.symm natural
          rfl ?_
        simp [apply, style, Spelling.sql, String.append_assoc]
      · refine exists_cuts (.offsetFetch (offset limit page) limit) ⟨Or.inl style, rfl⟩ same.symm
          natural rfl ?_
        have ordered := order (Or.inl style) rfl
        simp [apply, style, ordered, Spelling.sql, offsetFetch]
      · refine exists_cuts (.offsetFetch (offset limit page) limit) ⟨Or.inr style, rfl⟩ same.symm
          natural rfl ?_
        have ordered := order (Or.inr style) rfl
        simp [apply, style, ordered, Spelling.sql, offsetFetch]
      · let first := offset limit page + 1
        have window : (Spelling.rows first (first + limit - 1)).window =
            Window.within limit (some page) := by
          rw [same, Spelling.window]
          congr 1 <;> omega
        refine exists_cuts (.rows first (first + limit - 1)) style window ?_ rfl ?_
        · simp only [Spelling.numbers, List.forall_mem_cons, first]
          exact ⟨by omega, by omega, by simp⟩
        · simp [apply, style, Spelling.sql, String.append_assoc, first]

/-- Behind a short word stands a blank, where the keyword has none. -/
theorem le_length_of_prefix {word more : List Char}
    (h : "DISTINCT ".toList <+: word ++ ' ' :: more) : 8 ≤ word.length := by
  apply Nat.le_of_not_lt
  intro short
  have letters : ∀ i < 8, ("DISTINCT ".toList)[i]? ≠ some ' ' := by decide
  have inside : word.length < "DISTINCT ".toList.length := by
    have : "DISTINCT ".toList.length = 9 := rfl
    omega
  have blank := List.prefix_iff_getElem?.mp h word.length inside
  rw [List.getElem?_append_right (by omega), Nat.sub_self] at blank
  exact letters word.length (by omega) (by rw [List.getElem?_eq_getElem inside, ← blank]; rfl)

/-- A SELECT begins with one of the two heads, and the longer one does not reach into the name of
the table. -/
theorem exists_selectHead (columns back : String) :
    ∃ distinct rest, "SELECT " ++ columns ++ " FROM " = selectHead distinct ++ rest ∧
      (distinct = false → ¬ "DISTINCT ".toList <+: (rest ++ back).toList) := by
  by_cases longer : "DISTINCT ".toList <+: (columns ++ " FROM " ++ back).toList
  · have enough : 8 ≤ columns.toList.length := by
      have split : "DISTINCT ".toList <+:
          columns.toList ++ ' ' :: ("FROM ".toList ++ back.toList) := by
        simpa [String.toList_append] using longer
      exact le_length_of_prefix split
    have inside : "DISTINCT ".toList <+: (columns ++ " FROM ").toList := by
      refine List.prefix_of_prefix_length_le longer ?_ ?_
      · rw [String.toList_append (s := columns ++ " FROM ")]
        exact List.prefix_append _ _
      · simp [String.toList_append]
        omega
    obtain ⟨rest, split⟩ := inside
    refine ⟨true, String.ofList rest, ?_, by simp⟩
    have whole : ("SELECT " ++ columns ++ " FROM ").toList =
        "SELECT ".toList ++ (columns ++ " FROM ").toList := by
      simp [String.toList_append]
    have head : (selectHead true).toList = "SELECT ".toList ++ "DISTINCT ".toList := rfl
    apply String.toList_inj.mp
    simp only [whole, ← split, String.toList_append, head, String.toList_ofList, List.append_assoc]
  · refine ⟨false, columns ++ " FROM ", ?_, fun _ => longer⟩
    simp only [selectHead, String.append_assoc]
    rfl

end Pagination

end Sqlwright
