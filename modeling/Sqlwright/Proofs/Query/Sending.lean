import Sqlwright.Proofs.Query.Compile

/-!
What a session sends. Work for the connection sends what the builder compiles for the query, or for
the query with other rows or another column, and what the caller wrote itself. So a property of
sessions that sending such statements and starting afresh keep is kept by all work
(`Session.Keeps.perform`), and by every run if it does not look at the query (`Session.Keeps.play`).
-/

namespace Sqlwright

/-- What work makes of a query before it compiles it: nothing, a cut to other rows, or a selection of
one column. -/
inductive Query.Variant (d : Dialect) (q : Query) : Query → Prop
  | same : Variant d q q
  | rows {limit : Int} {page : Option Int} (bounded : 0 ≤ limit)
    (paged : ∀ n, page = some n → 1 ≤ n) : Variant d q { q with limit := some limit, page := page }
  | column {name text : String} (quoted : d.column name = .ok text) :
    Variant d q { q with columns := [text] }

/-- The statements that a builder compiles in work on a query. -/
def Builder.Compiles (b : Builder) (q : Query) (statement : Statement) : Prop :=
  ∃ variant r statements, q.Variant b.dialect variant ∧ (r.operator = "+" ∨ r.operator = "-") ∧
    b.compile variant r = .ok statements ∧ statement ∈ statements

namespace Builder

variable {b : Builder} {q variant : Query} {statement : Statement}

theorem compiles_of_map {compiled : Except Error Statement}
    (made : q.Variant b.dialect variant) (r : Request)
    (signed : r.operator = "+" ∨ r.operator = "-")
    (same : b.compile variant r = compiled.map ([·])) (h : compiled = .ok statement) :
    b.Compiles q statement := by
  rw [h] at same
  exact ⟨variant, r, _, made, signed, same, List.mem_singleton.mpr rfl⟩

theorem compiles_select (made : q.Variant b.dialect variant)
    (h : variant.compileSelect b.dialect = .ok statement) : b.Compiles q statement :=
  compiles_of_map made .select (Or.inl rfl) rfl h

end Builder

namespace Session

variable {P : Statement → Prop} {I : Session → Prop} {s : Session}

theorem builder_send (s : Session) (operation : String) (statement : Statement) :
    (s.send operation statement).2.builder = s.builder := by
  unfold send
  split
  · rfl
  · split <;> rfl

/-- Sending adds the statement to those that were sent, or nothing without a connection. -/
theorem sent_send (s : Session) (operation : String) (statement : Statement) :
    (s.send operation statement).2.sent = s.sent ∨
      (s.send operation statement).2.sent = s.sent ++ [statement] := by
  unfold send
  split
  · exact Or.inl rfl
  · split
    · exact Or.inr rfl
    · exact Or.inr rfl

/-- A property of sessions that sending statements of one kind keeps, and starting afresh and handing
pages over as well. -/
structure Keeps (P : Statement → Prop) (I : Session → Prop) : Prop where
  send : ∀ {s : Session} (operation : String) {statement : Statement}, P statement → I s →
    I (s.send operation statement).2
  reset : ∀ {s : Session}, I s → I s.reset
  deliver : ∀ {s : Session} (pages : List (List Value)), I s → I { s with delivered := pages }

namespace Keeps

variable (keeps : Keeps P I)

include keeps

theorem sendThen {α : Type} (h : I s) (operation : String) {compiled : Except Error Statement}
    {next : Session → Cursor → Except Error α × Session}
    (sends : ∀ statement, compiled = .ok statement → P statement)
    (goes : ∀ after c, after.builder = s.builder → I after → I (next after c).2) :
    I (s.sendThen operation compiled next).2 := by
  cases compiled with
  | error e => exact h
  | ok statement =>
    have sent := keeps.send operation (sends statement rfl) h
    have same := s.builder_send operation statement
    cases answered : s.send operation statement with
    | mk outcome after =>
      rw [answered] at sent same
      cases outcome with
      | error e => simpa only [Session.sendThen, answered] using sent
      | ok c => simpa only [Session.sendThen, answered] using goes after c same sent

theorem sendAll (h : I s) (operation : String) (last : Option Cursor) {statements : List Statement}
    (sends : ∀ statement ∈ statements, P statement) :
    I (s.sendAll operation last statements).2 := by
  induction statements generalizing s last with
  | nil => exact h
  | cons statement rest ih =>
    obtain ⟨here, later⟩ := List.forall_mem_cons.mp sends
    have sent := keeps.send operation here h
    unfold Session.sendAll
    cases answered : s.send operation statement with
    | mk outcome after =>
      rw [answered] at sent
      cases outcome with
      | error e => exact sent
      | ok c => exact ih sent (some c) later

theorem change (h : I s) (operation : String) {compiled : Except Error Statement}
    (sends : ∀ statement, compiled = .ok statement → P statement) :
    I (s.change operation compiled).2 :=
  keeps.sendThen h operation sends fun _ _ _ after => keeps.reset after

section Compiled

variable (compiled : ∀ statement, s.builder.Compiles s.query statement → P statement)

include compiled

theorem first (h : I s) : I s.first.2 := by
  unfold Session.first
  dsimp only
  split
  · exact h
  · refine keeps.sendThen h _ (fun statement made => compiled statement ?_)
      fun _ _ _ after => keeps.reset after
    exact Builder.compiles_select (.rows (by decide) (by simp)) made

omit compiled in
/-- Every page of a chunked read is selected from the same query. The induction is on the steps. -/
theorem readPages (h : I s) {size : Int} (sized : 1 ≤ size) {base : Query}
    (compiled : ∀ statement, s.builder.Compiles base statement → P statement) (steps : Nat)
    {page : Nat} (begun : 1 ≤ page) (verdicts : List Value) :
    I (Session.readPages size base steps page verdicts s).2 := by
  induction steps generalizing s page verdicts with
  | zero => exact h
  | succ steps ih =>
    unfold Session.readPages
    refine keeps.sendThen h _ (fun statement made => compiled statement ?_) ?_
    · have paged : ∀ n, some (page : Int) = some n → 1 ≤ n := by
        rintro n ⟨⟩
        omega
      exact Builder.compiles_select (.rows (by omega) paged) made
    · intro after c same kept
      dsimp only
      split
      · exact kept
      · have handed := keeps.deliver (after.delivered ++ [c.rowMaps]) kept
        split
        · exact handed
        · refine ih handed ?_ (by omega) verdicts.tail
          rwa [show ({ after with delivered := after.delivered ++ [c.rowMaps] } :
            Session).builder = s.builder from same]

theorem chunk (h : I s) (size : Value) (verdicts : List Value) : I (s.chunk size verdicts).2 := by
  unfold Session.chunk
  split
  · rename_i n
    split
    · exact h
    · have sized : 1 ≤ n := by omega
      have read := keeps.readPages h sized compiled ((s.replies.getD []).length + 1)
        (Nat.le_refl 1) verdicts
      split
      · rename_i after done
        rw [done] at read
        exact keeps.reset read
      · exact read
  · exact h

/-- Whatever work sends is compiled from the query, unless it was given as a statement. -/
theorem work (h : I s) {j : Job}
    (given : ∀ sql params, j = .execute sql params → P ⟨sql, params⟩) : I (s.work j).2 := by
  cases j with
  | get =>
    exact keeps.sendThen h _ (fun _ made => compiled _ (Builder.compiles_select .same made))
      fun _ _ _ after => keeps.reset after
  | first =>
    have read := keeps.first compiled h
    rw [Session.work]
    split <;> rename_i found <;> rw [found] at read <;> exact read
  | firstOrFail =>
    have read := keeps.first compiled h
    rw [Session.work]
    split <;> rename_i found <;> rw [found] at read <;> exact read
  | count column =>
    exact keeps.sendThen h _
      (fun _ made => compiled _ (Builder.compiles_of_map .same (.count column) (Or.inl rfl) rfl made))
      fun _ _ _ after => keeps.reset after
  | pluck column =>
    refine keeps.sendThen h _ (fun statement made => compiled statement ?_) ?_
    · obtain ⟨text, quoted, made⟩ := bind_eq_ok.mp made
      exact Builder.compiles_select (.column quoted) made
    · intro after c _ kept
      split
      · exact keeps.reset kept
      · exact kept
  | «exists» =>
    exact keeps.sendThen h _
      (fun _ made => compiled _ (Builder.compiles_of_map .same .exists (Or.inl rfl) rfl made))
      fun _ _ _ after => keeps.reset after
  | insert records =>
    rw [Session.work]
    cases made : s.builder.compile s.query (.insert records) with
    | error e => exact h
    | ok statements =>
      have sends : ∀ statement ∈ statements, P statement := fun statement member =>
        compiled statement ⟨s.query, .insert records, statements, .same, Or.inl rfl, made, member⟩
      have sent := keeps.sendAll h "insert" none sends
      dsimp only
      split
      · rename_i after failed
        rw [failed] at sent
        exact sent
      · rename_i last after done
        rw [done] at sent
        exact keeps.reset sent
  | update values =>
    exact keeps.change h _ fun _ made =>
      compiled _ (Builder.compiles_of_map .same (.update values) (Or.inl rfl) rfl made)
  | delete =>
    exact keeps.change h _ fun _ made =>
      compiled _ (Builder.compiles_of_map .same .delete (Or.inl rfl) rfl made)
  | restore =>
    exact keeps.change h _ fun _ made =>
      compiled _ (Builder.compiles_of_map .same .restore (Or.inl rfl) rfl made)
  | increment column amount extra =>
    exact keeps.change h _ fun _ made =>
      compiled _ (Builder.compiles_of_map .same (.step column amount extra "+") (Or.inl rfl) rfl made)
  | decrement column amount extra =>
    exact keeps.change h _ fun _ made =>
      compiled _ (Builder.compiles_of_map .same (.step column amount extra "-") (Or.inr rfl) rfl made)
  | chunk size verdicts =>
    have read := keeps.chunk compiled h size verdicts
    rw [Session.work]
    split <;> rename_i found <;> rw [found] at read <;> exact read
  | execute sql params =>
    refine keeps.sendThen h _ ?_ fun _ _ _ after => after
    rintro statement ⟨⟩
    exact given sql params rfl

/-- One piece of work. -/
theorem perform (h : I s) {j : Job}
    (given : ∀ sql params, j = .execute sql params → P ⟨sql, params⟩) : I (s.perform j).2 := by
  unfold Session.perform
  split
  · exact h
  · exact keeps.work compiled h given

end Compiled

section Any

variable (any : ∀ statement, P statement)
  (query : ∀ {s : Session} (q : Query), I s → I { s with query := q })

include any query

/-- Where every statement may be sent and the query does not matter, every call keeps the
property. -/
theorem act (h : I s) (call : Call) : I (s.act call) := by
  cases call with
  | clause | group | request => exact query _ h
  | job j => exact keeps.perform (fun statement _ => any statement) h fun _ _ _ => any _
  | tolerated call => exact act h call

theorem play (h : I s) (calls : List Call) : I (s.play calls) := by
  induction calls generalizing s with
  | nil => exact h
  | cons call rest ih => exact ih (keeps.act any query h call)

end Any

end Keeps

end Session

end Sqlwright
