import Sqlwright.Dialect.BuiltIn
import Sqlwright.Proofs.Query.Alignment
import Sqlwright.Proofs.Query.Reach

/-!
What a refused step leaves of a query. Most steps check all that they were given before they write,
and a group is built on a query of its own, so that a refusal leaves the query as it was. Naming a
table starts afresh first. A step over several entries goes up to the first that is refused, and
leaves what the entries before it would have left by themselves. Main statement:
`Session.refused_known`.
-/

namespace Sqlwright

variable {b : Builder} {q after : Query} {e : Error}

/-- A step in building a query, or a group of such steps. -/
def Call.IsFluent : Call → Prop
  | .clause _ | .group .. => True
  | .request _ | .job _ | .tolerated _ => False

namespace Clause

/-- What a step that is refused with an error leaves. -/
def Leaves (b : Builder) (q : Query) (e : Error) : Clause → Query → Prop
  | .table _, after => after = {}
  | .compareAll entries connector, after =>
    Connector.ofValue connector = .error e ∧ after = q ∨
      ∃ before entry rest, entries = before ++ entry :: rest ∧
        (Clause.compareAll before connector).apply b q = (.ok (), after) ∧
        (Clause.compareAll [entry] connector).apply b after = (.error e, after)
  | .groupBy columns, after =>
    ∃ before column rest, columns = before ++ column :: rest ∧
      (Clause.groupBy before).apply b q = (.ok (), after) ∧
      (Clause.groupBy [column]).apply b after = (.error e, after)
  | _, after => after = q

theorem eq_of_attempt {result : Except Error Query} (h : attempt q result = (.error e, after)) :
    after = q := by
  cases result with
  | ok next => cases h
  | error reason =>
    cases h
    rfl

/-- A refusal on the way through several entries comes from one of them, and those before it have
been added. -/
theorem split_of_addEach {α : Type} {add : Query → α → Except Error Query} {items : List α}
    (h : addEach add q items = (.error e, after)) :
    ∃ before a rest, items = before ++ a :: rest ∧ addEach add q before = (.ok (), after) ∧
      addEach add after [a] = (.error e, after) := by
  induction items generalizing q with
  | nil => cases h
  | cons a rest ih =>
    cases added : add q a with
    | error reason =>
      simp only [addEach, added] at h
      cases h
      exact ⟨[], a, rest, rfl, rfl, by simp only [addEach, added]⟩
    | ok next =>
      simp only [addEach, added] at h
      obtain ⟨before, last, behind, rfl, accepted, refused⟩ := ih h
      refine ⟨a :: before, last, behind, rfl, ?_, refused⟩
      simp only [addEach, added, accepted]

/-- A refused step leaves what it did before the refusal, and that is little. -/
theorem leaves_of_refused {c : Clause} (h : c.apply b q = (.error e, after)) :
    c.Leaves b q e after := by
  cases c with
  | table name => exact eq_of_attempt h
  | compareAll entries connector =>
    cases read : Connector.ofValue connector with
    | error reason =>
      simp only [apply, read] at h
      cases h
      exact Or.inl ⟨read, rfl⟩
    | ok known =>
      simp only [apply, read] at h
      obtain ⟨before, entry, rest, split, accepted, refused⟩ := split_of_addEach h
      refine Or.inr ⟨before, entry, rest, split, ?_, ?_⟩
      · simpa only [apply, read] using accepted
      · simpa only [apply, read] using refused
  | groupBy columns => exact split_of_addEach h
  | reset | distinct | softDelete => cases h
  | select | join | compare | compareNot | membership | nullness | between | trashed | having
  | order | limit | page => exact eq_of_attempt h

end Clause

def Call.Leaves (b : Builder) (q : Query) (e : Error) : Call → Query → Prop
  | .clause c, after => c.Leaves b q e after
  | _, after => after = q

theorem Builder.leaves_of_refused {call : Call} (h : b.apply q call = (.error e, after)) :
    call.Leaves b q e after := by
  cases call with
  | clause c => exact Clause.leaves_of_refused h
  | group body connector =>
    unfold Builder.apply at h
    split at h
    · cases h
      rfl
    · split at h
      · cases h
        rfl
      · split at h <;> cases h
  | request r => exact (congrArg Prod.snd h).symm
  | job j => exact (congrArg Prod.snd h).symm
  | tolerated call => cases h

/-- The texts of a query and the values for them are in step: the values of the WHERE clause fall
into one block for each text, and each text has a mark for each value of its block; each condition
on groups has a mark for its value. -/
structure Query.InStep (d : Dialect) (q : Query) : Prop where
  wheres : ∃ blocks, List.Forall₂ d.Marked q.whereTexts blocks ∧ q.whereParams = blocks.flatten
  havings : List.Forall₂ (fun text value => d.Marked text [value]) (q.havings.map Having.sql)
    q.havingParams

/-- In a well-formed query texts and values are in step, condition by condition. -/
theorem Query.WellFormed.inStep {d : Dialect} (wf : q.WellFormed d) : q.InStep d where
  wheres := ⟨_, wf.marked_whereTexts, Condition.levelParams_eq_flatten q.conditions⟩
  havings := wf.marked_havings

/-- Where names hold no marks, there are as many marks as values. -/
theorem Query.InStep.marks_eq {d : Dialect} (h : q.InStep d) (free : d.Markless) :
    (q.whereTexts.map marks).sum = q.whereParams.length ∧
      ((q.havings.map Having.sql).map marks).sum = q.havingParams.length := by
  obtain ⟨blocks, each, whole⟩ := h.wheres
  constructor
  · rw [sum_marks List.length (each.imp fun _ _ => free.marked), whole, List.length_flatten]
  · rw [sum_marks (fun _ => 1) (h.havings.imp fun _ _ => free.marked)]
    simp

namespace Session

theorem Reachable.act {s : Session} (reached : s.Reachable) (call : Call) :
    (s.act call).Reachable := by
  obtain ⟨start, calls, fresh, rfl⟩ := reached
  exact ⟨start, calls ++ [call], fresh, by simp [play]⟩

/-- Whatever has been called before, a step or a group that is refused leaves all but the query of a
session alone. Of the query it leaves what it was; naming a table leaves a fresh query; a mapping of
conditions and a list of columns to group by leave what the same step over the entries before the
one that is refused leaves. Texts and values are in step then as well. -/
theorem refused_known {s : Session} (reached : s.Reachable) {call : Call} (fluent : call.IsFluent)
    (refused : (s.builder.apply s.query call).1 = .error e) :
    ∃ after, s.act call = { s with query := after } ∧ call.Leaves s.builder s.query e after ∧
      after.InStep s.builder.dialect ∧
      (s.builder.dialect.Markless →
        (after.whereTexts.map marks).sum = after.whereParams.length ∧
          ((after.havings.map Having.sql).map marks).sum = after.havingParams.length) := by
  have acted : s.act call = { s with query := (s.builder.apply s.query call).2 } := by
    cases call with
    | clause | group => rfl
    | request | job | tolerated => exact fluent.elim
  have inStep : (s.act call).query.InStep s.builder.dialect := by
    have wf := (reached.act call).wellFormed.inStep
    rwa [builder_act] at wf
  rw [acted] at inStep
  exact ⟨_, acted, Builder.leaves_of_refused (Prod.ext refused rfl), inStep, inStep.marks_eq⟩

def activeUsers : Session :=
  play { builder := { dialect := Dialect.mysql }, log := {} }
    [.clause (.table "users"), .clause (.compare "active" (.equalTo (.bool true)) (.text "AND"))]

def halfNamed : Call :=
  .clause (.compareAll
    [(.text "age", .int 7), (.text "last name", .int 8), (.text "id", .int 9)] (.text "or"))

def halfGrouped : Call :=
  .group
    [.clause (.compare "age" (.equalTo (.int 7)) (.text "AND")),
      .clause (.compare "age" (.by (.text "~") (.int 8)) (.text "AND"))] (.text "AND")

theorem refused_known_activeUsers :
    (∃ after, activeUsers.act halfNamed = { activeUsers with query := after } ∧
      after.whereTexts = ["`active` = ?", "OR `age` = ?"] ∧ after.whereParams.length = 2) ∧
    activeUsers.act halfGrouped = activeUsers := by
  have reached : activeUsers.Reachable := ⟨_, _, rfl, rfl⟩
  obtain ⟨e, refused⟩ := exists_error_of_isOk
    (x := (activeUsers.builder.apply activeUsers.query halfNamed).1) (by decide +kernel)
  obtain ⟨e', refused'⟩ := exists_error_of_isOk
    (x := (activeUsers.builder.apply activeUsers.query halfGrouped).1) (by decide +kernel)
  have named : halfNamed.IsFluent := trivial
  have grouped : halfGrouped.IsFluent := trivial
  obtain ⟨after, acted, -, -, counted⟩ := refused_known reached named refused
  obtain ⟨same, acted', rfl, -⟩ := refused_known reached grouped refused'
  have texts : after.whereTexts = ["`active` = ?", "OR `age` = ?"] := by
    have here : after = (activeUsers.act halfNamed).query := by rw [acted]
    rw [here]
    decide +kernel
  refine ⟨⟨after, acted, texts, ?_⟩, acted'⟩
  rw [← (counted ⟨by decide, by decide⟩).1, texts]
  rfl

end Session

end Sqlwright
