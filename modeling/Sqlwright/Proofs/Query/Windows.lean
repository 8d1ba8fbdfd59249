import Sqlwright.Dialect.BuiltIn
import Sqlwright.Proofs.Dialect.Pagination
import Sqlwright.Proofs.Query.Reach

/-!
The databases known from the start cut out the same rows. A page never stands without a limit, and
what a SELECT with a limit says beside the whole SELECT is one clause for the window of that page.
Main statement: `Session.select_window`.
-/

namespace Sqlwright

open Text

namespace Dialect

variable {d : Dialect}

theorem pagination_of_mem_builtIn (h : d ∈ builtIn) :
    d.pagination ∈ [.limitOffset, .top, .offsetFetch, .rowsRange] := by
  simp only [builtIn, List.mem_cons, List.not_mem_nil, or_false] at h
  rcases h with rfl | rfl | rfl | rfl | rfl | rfl <;> decide

theorem opening_of_mem_builtIn (h : d ∈ builtIn) :
    ∃ mark, d.quotes.opening.toList.head? = some mark ∧ mark ≠ 'D' := by
  simp only [builtIn, List.mem_cons, List.not_mem_nil, or_false] at h
  rcases h with rfl | rfl | rfl | rfl | rfl | rfl <;> exact ⟨_, rfl, by decide⟩

end Dialect

namespace Query

variable {d : Dialect} {q : Query} {table : String}

theorem offset_eq (q : Query) :
    q.offset = q.limit.bind fun limit => q.page.map (Pagination.offset limit) := by
  unfold offset
  cases q.page <;> cases q.limit <;> rfl

def selectRest (q : Query) (table : String) : String :=
  join ", " q.columns ++ " FROM " ++ table ++ q.joinsSql ++ q.whereSql ++ q.groupingSql ++
    q.orderSql

/-- The whole text of a SELECT begins with the head for its distinct flag. -/
theorem selectSql_eq (q : Query) (table : String) :
    q.selectSql (join ", " q.columns) table ++ q.orderSql =
      Pagination.selectHead q.distinct ++ q.selectRest table := by
  have head : Pagination.selectHead q.distinct =
      "SELECT " ++ (if q.distinct then "DISTINCT " else "") := by
    cases q.distinct <;> rfl
  simp only [selectSql, selectRest, head, String.append_assoc]

/-- A SELECT as its whole text cut by its limit and page. -/
theorem compileSelect_eq (htable : q.requireTable = .ok table) :
    q.compileSelect d =
      (Pagination.apply d (Pagination.selectHead q.distinct ++ q.selectRest table) q.limit
        (q.limit.bind fun limit => q.page.map (Pagination.offset limit)) q.isOrdered).map
        fun sql => ⟨sql, q.params⟩ := by
  simp only [compileSelect, htable, bind, Except.bind]
  rw [selectSql_eq, offset_eq]
  cases Pagination.apply d (Pagination.selectHead q.distinct ++ q.selectRest table) q.limit
    (q.limit.bind fun limit => q.page.map (Pagination.offset limit)) q.isOrdered <;> rfl

/-- Where quotation marks begin with something else, no list of columns begins with DISTINCT. -/
theorem WellFormed.selectRest_plain (wf : q.WellFormed d) {mark : Char}
    (opening : d.quotes.opening.toList.head? = some mark) (other : mark ≠ 'D') :
    ¬ "DISTINCT ".toList <+: (q.selectRest table).toList := by
  obtain ⟨text, texts, columns⟩ := List.exists_cons_of_ne_nil wf.present
  -- The list begins with its first column, and that with a quotation mark, a star or an aggregate.
  obtain ⟨c, hc, apart⟩ := (wf.columns text (by simp [columns])).head_ne opening other
  have first : (q.selectRest table).toList.head? = some c := by
    cases texts with
    | nil => simp [selectRest, columns, join, hc]
    | cons next more => simp [selectRest, columns, join, hc]
  rintro ⟨rest, split⟩
  rw [← split] at first
  have letter : some 'D' = some c := first
  cases letter
  exact apart rfl

/-- A page of rows in no order is refused, and the refusal names the database. -/
theorem compileSelect_unordered (htable : q.requireTable = .ok table)
    (style : Pagination.NeedsOrder d.pagination) {limit page : Int} (hlimit : q.limit = some limit)
    (hpage : q.page = some page) (orders : q.orders = []) :
    q.compileSelect d = .error (.unorderedPage d.name) := by
  have unordered : q.isOrdered = false := by simp [isOrdered, orders]
  rw [compileSelect_eq htable, hlimit, hpage, unordered]
  simp only [Option.bind_some, Option.map_some]
  rw [Pagination.apply_unordered _ _ style]
  rfl

/-- A SELECT that is not refused is the whole one with a clause for its window. -/
theorem WellFormed.compileSelect_cuts (wf : q.WellFormed d) (known : d ∈ Dialect.builtIn)
    (htable : q.requireTable = .ok table)
    (order : ¬ (Pagination.NeedsOrder d.pagination ∧ q.page ≠ none ∧ q.orders = [])) :
    ∃ whole cut, Query.compileSelect d { q with limit := none, page := none } = .ok whole ∧
      q.compileSelect d = .ok cut ∧ cut.params = whole.params ∧
      Pagination.Cuts d.pagination q.distinct q.limit q.page whole.sql cut.sql := by
  obtain ⟨mark, opening, other⟩ := Dialect.opening_of_mem_builtIn known
  have ordered : Pagination.NeedsOrder d.pagination → q.page.isSome → q.isOrdered = true := by
    intro style paged
    rw [isOrdered, Bool.not_eq_true', List.isEmpty_eq_false_iff]
    exact fun none => order ⟨style, Option.isSome_iff_ne_none.mp paged, none⟩
  obtain ⟨sql, made, cuts⟩ := Pagination.apply_cuts (Dialect.pagination_of_mem_builtIn known)
    q.distinct (q.selectRest table) wf.limit (fun n found => (wf.page n found).1)
    (fun _ _ => wf.selectRest_plain opening other) ordered
  refine ⟨⟨Pagination.selectHead q.distinct ++ q.selectRest table, q.params⟩, ⟨sql, q.params⟩, ?_,
    ?_, rfl, cuts⟩
  · exact compileSelect_eq (q := { q with limit := none, page := none }) htable
  · rw [compileSelect_eq htable, made]
    rfl

end Query

namespace Session

/-- In every session a page comes with a limit. For each of the databases known from the start, a
SELECT is refused for want of an order exactly if the database needs one for pages and a page is set
without it. Otherwise the SELECT is the whole one with one clause, spelled and placed as its style
has it, for the window within the limit. The windows of the pages from the first to any other cover
the rows from the first on without overlap. -/
theorem select_window {s : Session} (reached : s.Reachable) :
    (∀ limit, s.query.limit = some limit → 0 ≤ limit) ∧
    (∀ page, s.query.page = some page → 1 ≤ page ∧ s.query.limit ≠ none) ∧
    (s.builder.dialect ∈ Dialect.builtIn → s.query.table ≠ none →
      ((∃ e, s.query.compileSelect s.builder.dialect = .error e ∧
          e.kind = .paginationRequiresOrder) ↔
        Pagination.NeedsOrder s.builder.dialect.pagination ∧ s.query.page ≠ none ∧
          s.query.orders = []) ∧
      (¬ (Pagination.NeedsOrder s.builder.dialect.pagination ∧ s.query.page ≠ none ∧
          s.query.orders = []) →
        ∃ whole cut,
          Query.compileSelect s.builder.dialect { s.query with limit := none, page := none } =
            .ok whole ∧
          s.query.compileSelect s.builder.dialect = .ok cut ∧ cut.params = whole.params ∧
          Pagination.Cuts s.builder.dialect.pagination s.query.distinct s.query.limit s.query.page
            whole.sql cut.sql)) ∧
    (∀ limit, 0 ≤ limit → ∀ (n : Nat) (row : Int),
      ((∃ page : Int, 1 ≤ page ∧ page ≤ n ∧ (Window.within limit (some page)).Holds row) ↔
        0 ≤ row ∧ row < n * limit) ∧
      ∀ page other, (Window.within limit (some page)).Holds row →
        (Window.within limit (some other)).Holds row → page = other) := by
  have wf := reached.wellFormed
  refine ⟨wf.limit, ?_, ?_, ?_⟩
  · intro page found
    obtain ⟨first, limited⟩ := wf.page page found
    exact ⟨first, Option.isSome_iff_ne_none.mp limited⟩
  · intro known present
    obtain ⟨table, found⟩ := Option.ne_none_iff_exists'.mp present
    have htable := wf.requireTable found
    refine ⟨⟨?_, ?_⟩, wf.compileSelect_cuts known htable⟩
    · rintro ⟨e, refused, -⟩
      by_contra order
      obtain ⟨whole, cut, -, made, -⟩ := wf.compileSelect_cuts known htable order
      rw [made] at refused
      cases refused
    · rintro ⟨style, paged, orders⟩
      obtain ⟨page, hpage⟩ := Option.ne_none_iff_exists'.mp paged
      obtain ⟨limit, hlimit⟩ := Option.isSome_iff_exists.mp (wf.page page hpage).2
      exact ⟨_, Query.compileSelect_unordered htable style hlimit hpage orders, rfl⟩
  · intro limit nonneg n row
    exact ⟨Window.pages_cover nonneg n row,
      fun page other here there => Window.page_unique nonneg here there⟩

def thirdPage : Session :=
  Session.play { builder := { dialect := Dialect.sqlServer }, log := {} }
    [.clause (.table "users"), .clause (.order "id" (.text "ASC")), .clause (.limit (.int 10)),
      .clause (.page (.int 3))]

theorem select_window_thirdPage :
    ∃ whole cut,
      Query.compileSelect Dialect.sqlServer { thirdPage.query with limit := none, page := none } =
        .ok whole ∧
      thirdPage.query.compileSelect Dialect.sqlServer = .ok cut ∧
      Pagination.Cuts .top false (some 10) (some 3) whole.sql cut.sql := by
  have reached : thirdPage.Reachable := ⟨_, _, rfl, rfl⟩
  have known : thirdPage.builder.dialect ∈ Dialect.builtIn := by
    change Dialect.sqlServer ∈ Dialect.builtIn
    exact .tail _ (.tail _ (.tail _ (.head _)))
  have named : thirdPage.query.table ≠ none := by decide +kernel
  have ordered : thirdPage.query.orders.isEmpty = false := by decide +kernel
  have plain : thirdPage.query.distinct = false := by decide +kernel
  have limited : thirdPage.query.limit = some 10 := by decide +kernel
  have paged : thirdPage.query.page = some 3 := by decide +kernel
  have windows := ((select_window reached).2.2.1 known named).2
  obtain ⟨whole, cut, hwhole, hcut, -, cuts⟩ :=
    windows fun h => absurd (List.isEmpty_iff.mpr h.2.2) (by simp [ordered])
  rw [plain, limited, paged] at cuts
  exact ⟨whole, cut, hwhole, hcut, cuts⟩

end Session

end Sqlwright
