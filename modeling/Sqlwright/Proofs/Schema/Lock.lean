import Sqlwright.Dialect.BuiltIn
import Sqlwright.Proofs.Schema.Change

/-!
The lock of a table definition. Statements lock a definition exactly if they come out, and what is
refused leaves it as it was. Every call on a locked definition, on its columns and on its foreign
keys, and every further request for statements is refused for the lock alone, before an argument is
looked at. Main statement: `Blueprint.lock_final`.
-/

namespace Sqlwright

variable {d : Dialect} {b : Blueprint}

namespace Ddl

theorem prepare_of_locked (h : b.locked = true) (columnsRequired : Bool) :
    prepare b columnsRequired = .error (.blueprintLocked b.table) := by
  unfold prepare
  rw [if_pos h]

theorem create_of_locked (h : b.locked = true) :
    create d b = .error (.blueprintLocked b.table) := by
  unfold create
  rw [prepare_of_locked h]
  rfl

theorem add_of_locked (h : b.locked = true) : add d b = .error (.blueprintLocked b.table) := by
  unfold add
  rw [prepare_of_locked h]
  rfl

end Ddl

def BlueprintStep.IsRequest : BlueprintStep → Prop
  | .call _ => False
  | .create _ | .add _ => True

namespace Blueprint

section Locked

variable (locked : b.locked = true)

include locked

theorem newName_of_locked (given : Value) :
    b.newName given = .error (.blueprintLocked b.table) := by
  unfold newName
  rw [requireOpen_of_locked locked]
  rfl

theorem addDeclared_of_locked (given : Value) (calls : List ColumnCall) :
    b.addDeclared given calls = (.error (.blueprintLocked b.table), b) := by
  unfold addDeclared
  rw [newName_of_locked locked]

theorem declare_of_locked (name : String) (call : ColumnCall) :
    b.declare name call = (.error (.blueprintLocked b.table), b) := by
  unfold declare receiver
  rw [requireOpen_of_locked locked]
  rfl

theorem readOption_of_locked (given : Value) :
    b.readOption given = .error (.blueprintLocked b.table) := by
  unfold readOption
  rw [requireOpen_of_locked locked]
  rfl

/-- What looks at the lock first is refused. -/
theorem attempt_of_locked (next : Unit → Except Error Blueprint) :
    b.attempt (b.requireOpen >>= next) = (.error (.blueprintLocked b.table), b) := by
  rw [requireOpen_of_locked locked]
  rfl

/-- In a locked definition every call is refused for the lock, before anything else is looked at. -/
theorem apply_of_locked (call : BlueprintCall) :
    b.apply call = (.error (.blueprintLocked b.table), b) := by
  have option (given : Value) (set : String → Blueprint) :
      b.attempt ((b.readOption given).map set) = (.error (.blueprintLocked b.table), b) := by
    rw [readOption_of_locked locked]
    rfl
  cases call with
  | column name => exact addDeclared_of_locked locked name _
  | onColumn name call => exact declare_of_locked locked name call
  | onForeignKey place call => exact attempt_of_locked locked _
  | id name => exact addDeclared_of_locked locked name _
  | increments name => exact addDeclared_of_locked locked name _
  | uid name => exact addDeclared_of_locked locked name _
  | timestamps =>
    unfold apply
    rw [addDeclared_of_locked locked]
  | softDeletes name => exact addDeclared_of_locked locked _ _
  | primary columns => exact attempt_of_locked locked _
  | index columns unique name => exact attempt_of_locked locked _
  | foreign columns => exact attempt_of_locked locked _
  | engine value => exact option value _
  | charset value => exact option value _
  | collation value => exact option value _
  | lock => exact attempt_of_locked locked _

/-- A locked definition refuses every step and stays as it is. -/
theorem act_of_locked (step : BlueprintStep) :
    b.act step = (.error (.blueprintLocked b.table), b) := by
  cases step with
  | call call =>
    simp only [act]
    rw [apply_of_locked locked]
    rfl
  | create d =>
    change b.lockOn (Ddl.create d b) = _
    rw [Ddl.create_of_locked locked, lockOn_eq]
  | add d =>
    change b.lockOn (Ddl.add d b) = _
    rw [Ddl.add_of_locked locked, lockOn_eq]

/-- A locked definition stays as it is for good. -/
theorem run_of_locked (steps : List BlueprintStep) : b.run steps = b := by
  induction steps with
  | nil => rfl
  | cons step rest ih => rw [run_cons, act_of_locked locked step, ih]

end Locked

/-- A request either answers with statements and locks the definition, which was not locked before,
or it is refused and leaves the definition as it was. -/
theorem act_request {step : BlueprintStep} (request : step.IsRequest) :
    (∃ texts, (b.act step).1 = .ok texts) ∧ b.locked = false ∧
        (b.act step).2 = { b with locked := true } ∨
      (∃ e, (b.act step).1 = .error e) ∧ (b.act step).2 = b := by
  have outcome (statements : Except Error (List String)) :
      (∃ texts, (b.lockOn statements).1 = .ok texts) ∧ b.locked = false ∧
          (b.lockOn statements).2 = { b with locked := true } ∨
        (∃ e, (b.lockOn statements).1 = .error e) ∧ (b.lockOn statements).2 = b := by
    rw [lockOn_eq]
    split
    · rename_i texts
      cases locked : b.locked with
      | true => exact Or.inr ⟨⟨_, rfl⟩, rfl⟩
      | false => exact Or.inl ⟨⟨texts, rfl⟩, rfl, rfl⟩
    · rename_i e
      exact Or.inr ⟨⟨e, rfl⟩, rfl⟩
  cases step with
  | call call => exact request.elim
  | create d => exact outcome _
  | add d => exact outcome _

/-- Requests for statements lock a definition exactly if they are answered, and leave it as it was
if they are refused. A locked definition refuses every step, whatever its arguments are, for the
lock and is not changed; so after an answered request every run leaves it as its statements found
it, but for the lock. -/
theorem lock_final (b : Blueprint) :
    (∀ step : BlueprintStep, step.IsRequest →
      (∃ texts, (b.act step).1 = .ok texts) ∧ b.locked = false ∧
          (b.act step).2 = { b with locked := true } ∨
        (∃ e, (b.act step).1 = .error e) ∧ (b.act step).2 = b) ∧
    (b.locked = true → ∀ step, b.act step = (.error (.blueprintLocked b.table), b)) ∧
    ∀ step : BlueprintStep, step.IsRequest → (∃ texts, (b.act step).1 = .ok texts) →
      ∀ steps, (b.act step).2.run steps = { b with locked := true } := by
  refine ⟨fun step => act_request, act_of_locked, ?_⟩
  rintro step request ⟨texts, answered⟩ steps
  rcases act_request request with ⟨-, -, after⟩ | ⟨⟨e, refused⟩, -⟩
  · rw [after]
    exact run_of_locked rfl steps
  · rw [answered] at refused
    cases refused

def oneColumn : Blueprint := { table := "t", columns := [{ name := "id", type := some .int }] }

theorem lock_final_oneColumn :
    (∃ texts, (oneColumn.act (.create Dialect.mysql)).1 = .ok texts) ∧
      ∀ steps, (oneColumn.act (.create Dialect.mysql)).2.run steps =
        { oneColumn with locked := true } := by
  have answered : ∃ texts, (oneColumn.act (.create Dialect.mysql)).1 = .ok texts :=
    exists_of_isOk (by decide +kernel)
  obtain ⟨-, -, final⟩ := lock_final oneColumn
  exact ⟨answered, final (.create Dialect.mysql) trivial answered⟩

end Blueprint

end Sqlwright
