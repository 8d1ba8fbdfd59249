import Sqlwright.Proofs.Query.Letters
import Sqlwright.Proofs.Query.Sending

/-!
What work for the connection does to a query: nothing, or it starts it afresh. So a property that no
call can break and that a fresh query has is kept by a session as well, whatever the connection
answers (`Session.play_invariant`).
-/

namespace Sqlwright

/-- The table of a well-formed query can be used. -/
theorem Query.WellFormed.requireTable {d : Dialect} {q : Query} (wf : q.WellFormed d)
    {table : String} (h : q.table = some table) : q.requireTable = .ok table :=
  requireTable_eq_ok.mpr ⟨h, (wf.table table h).ne_empty⟩

/-- Work makes a well-formed query of a well-formed one. -/
theorem Query.WellFormed.variant {d : Dialect} {q variant : Query} (wf : q.WellFormed d)
    (made : q.Variant d variant) : variant.WellFormed d := by
  cases made with
  | same => exact wf
  | rows bounded paged =>
    exact
      { wf with
        limit := by
          rintro n ⟨⟩
          exact bounded
        page := fun n found => ⟨paged n found, rfl⟩ }
  | column quoted =>
    exact
      { wf with
        present := by simp
        columns := List.forall_mem_singleton.mpr ⟨_, quoted⟩ }

namespace Session

/-- One session after another: the same builder, and the query as it was or a fresh one. -/
structure Follows (s after : Session) : Prop where
  builder : after.builder = s.builder
  query : after.query = s.query ∨ after.query = {}

theorem Follows.refl (s : Session) : s.Follows s := ⟨rfl, Or.inl rfl⟩

/-- A session follows another through the ones in between. -/
theorem Follows.trans {s t u : Session} (first : s.Follows t) (second : t.Follows u) :
    s.Follows u := by
  refine ⟨second.builder.trans first.builder, ?_⟩
  rcases second.query with same | fresh
  · rw [same]
    exact first.query
  · exact Or.inr fresh

/-- Whatever is sent, starting afresh is all that happens to the query. -/
theorem keeps_follows (s : Session) : Keeps (fun _ => True) s.Follows where
  send := by
    intro mid operation statement _ follows
    refine follows.trans ⟨mid.builder_send operation statement, ?_⟩
    unfold send
    split
    · exact Or.inl rfl
    · split <;> exact Or.inl rfl
  reset := fun follows => follows.trans ⟨rfl, Or.inr rfl⟩
  deliver := fun _ follows => follows.trans ⟨rfl, Or.inl rfl⟩

/-- Whatever work is done, the query stays or is started afresh. -/
theorem follows_perform (s : Session) (j : Job) : s.Follows (s.perform j).2 :=
  s.keeps_follows.perform (fun _ _ => trivial) (.refl s) fun _ _ _ => trivial

theorem builder_act (s : Session) (call : Call) : (s.act call).builder = s.builder := by
  cases call with
  | clause | group | request => rfl
  | job j => exact (s.follows_perform j).builder
  | tolerated call => exact s.builder_act call

theorem builder_play (s : Session) (calls : List Call) : (s.play calls).builder = s.builder := by
  induction calls generalizing s with
  | nil => rfl
  | cons call rest ih => exact (ih (s.act call)).trans (s.builder_act call)

variable {I : Query → Prop}

/-- What calls keep and a fresh query has, holds after work as well. -/
theorem act_invariant {s : Session} (inv : s.builder.Invariant I) (fresh : I {})
    (h : I s.query) (call : Call) : I (s.act call).query := by
  cases call with
  | clause c => exact inv.call h (.clause c)
  | group body connector => exact inv.call h (.group body connector)
  | request r => exact inv.call h (.request r)
  | job j =>
    rcases (s.follows_perform j).query with same | reset
    · exact same.symm ▸ h
    · exact reset.symm ▸ fresh
  | tolerated call => exact act_invariant inv fresh h call

/-- What no call can break holds after every run of a session. -/
theorem play_invariant {s : Session} (inv : s.builder.Invariant I) (fresh : I {})
    (h : I s.query) (calls : List Call) : I (s.play calls).query := by
  induction calls generalizing s with
  | nil => exact h
  | cons call rest ih =>
    have same := s.builder_act call
    exact ih (same.symm ▸ inv) (act_invariant inv fresh h call)

/-- A session that began with a fresh query. -/
def Reachable (s : Session) : Prop :=
  ∃ start calls, start.query = {} ∧ s = Session.play start calls

/-- Every query of such a session is well formed. -/
theorem Reachable.wellFormed {s : Session} (reached : s.Reachable) :
    s.query.WellFormed s.builder.dialect := by
  obtain ⟨start, calls, fresh, rfl⟩ := reached
  rw [builder_play]
  have empty : Query.WellFormed start.builder.dialect {} := Query.wellFormed_start (by simp)
  exact play_invariant start.builder.wellFormed_invariant empty (fresh ▸ empty) calls

end Session

end Sqlwright
