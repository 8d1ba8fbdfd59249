import Sqlwright.Proofs.Schema.History

/-!
What the columns of a definition have been told over any run of steps, refused ones included. A
declaration reaches its column unless it is turned away before: the definition is locked, there is
no such column, or another owns the primary key. What has reached a column and is then refused by
the column itself may still have left its type there. Written down with the columns that they
reached (`Blueprint.receivedIn`), the declarations say what each column of any reachable definition
is (`Blueprint.tracks_run`).
-/

namespace Sqlwright

variable {b next : Blueprint} {log : List (String × ColumnCall)}

/-- The columns that a call adds, each with the declarations that are then made on it. -/
def BlueprintCall.additions (deletedAtColumn : String) :
    BlueprintCall → List (Value × List ColumnCall)
  | .column name => [(name, [])]
  | .id name => [(name, [.typed .bigint .null, .unsigned, .auto])]
  | .increments name => [(name, [.typed .int .null, .unsigned, .auto])]
  | .uid name => [(name, [.typed .char (.int 36), .unique])]
  | .timestamps =>
    [(.text "created_at", [.typed .timestamp .null, .null]),
      (.text "updated_at", [.typed .timestamp .null, .null])]
  | .softDeletes name =>
    [(if name.isPresent then name else .text deletedAtColumn, [.typed .timestamp .null, .null])]
  | _ => []

namespace Blueprint

/-- A declaration that reaches its column. -/
def heard (b : Blueprint) (name : String) (call : ColumnCall) : List (String × ColumnCall) :=
  match b.receiver name call with
  | .ok _ => [(name, call)]
  | .error _ => []

/-- The declarations of a list that reach a column, up to the first that is refused. -/
def heardAll (b : Blueprint) (name : String) : List ColumnCall → List (String × ColumnCall)
  | [] => []
  | call :: rest =>
    b.heard name call ++
      match b.declare name call with
      | (.ok (), next) => next.heardAll name rest
      | _ => []

def heardNew (b : Blueprint) (given : Value) (calls : List ColumnCall) :
    List (String × ColumnCall) :=
  match b.newName given with
  | .ok name => (b.addColumn { name }).heardAll name calls
  | .error _ => []

/-- The declarations that reach new columns one after another, up to the first column of which one
is refused. -/
def heardEach (b : Blueprint) : List (Value × List ColumnCall) → List (String × ColumnCall)
  | [] => []
  | (given, calls) :: rest =>
    b.heardNew given calls ++
      match b.addDeclared given calls with
      | (.ok (), next) => next.heardEach rest
      | _ => []

/-- The declarations that reach columns in a step. -/
def received (b : Blueprint) : BlueprintStep → List (String × ColumnCall)
  | .call (.onColumn name call) => b.heard name call
  | .call call => b.heardEach (call.additions b.deletedAtColumn)
  | .create _ | .add _ => []

def receivedIn (b : Blueprint) : List BlueprintStep → List (String × ColumnCall)
  | [] => []
  | step :: rest => b.received step ++ (b.act step).2.receivedIn rest

def addEach (b : Blueprint) : List (Value × List ColumnCall) → Except Error Unit × Blueprint
  | [] => (.ok (), b)
  | (given, calls) :: rest =>
    match b.addDeclared given calls with
    | (.ok (), next) => next.addEach rest
    | refused => refused

theorem addEach_singleton (b : Blueprint) (given : Value) (calls : List ColumnCall) :
    b.addEach [(given, calls)] = b.addDeclared given calls := by
  unfold addEach
  split
  · rename_i added
    exact added.symm
  · rfl

namespace Tracks

variable (h : b.Tracks log)

include h

/-- A declaration is heard as far as it gets before it is refused. -/
theorem declare_heard (name : String) (call : ColumnCall) :
    (b.declare name call).2.Tracks (log ++ b.heard name call) := by
  unfold Blueprint.declare heard
  cases received : b.receiver name call with
  | ok c =>
    obtain ⟨-, found, free⟩ := receiver_eq_ok received
    exact h.declared found free
  | error e => simpa using h

theorem declareAll_heard (name : String) (calls : List ColumnCall) :
    (b.declareAll name calls).2.Tracks (log ++ b.heardAll name calls) := by
  induction calls generalizing b log with
  | nil => simpa [Blueprint.declareAll, heardAll] using h
  | cons call rest ih =>
    have first := h.declare_heard name call
    unfold Blueprint.declareAll heardAll
    generalize b.declare name call = outcome at first ⊢
    match outcome with
    | (.ok (), next) =>
      rw [← List.append_assoc]
      exact ih first
    | (.error e, next) =>
      rw [List.append_nil]
      exact first

theorem addDeclared_heard (given : Value) (calls : List ColumnCall) :
    (b.addDeclared given calls).2.Tracks (log ++ b.heardNew given calls) := by
  unfold Blueprint.addDeclared heardNew
  cases new : b.newName given with
  | ok name =>
    obtain ⟨-, valid, absent⟩ := newName_eq_ok new
    exact (h.addColumn valid absent).declareAll_heard name calls
  | error e => simpa using h

theorem addEach_heard (additions : List (Value × List ColumnCall)) :
    (b.addEach additions).2.Tracks (log ++ b.heardEach additions) := by
  induction additions generalizing b log with
  | nil => simpa [Blueprint.addEach, heardEach] using h
  | cons addition rest ih =>
    obtain ⟨given, calls⟩ := addition
    have first := h.addDeclared_heard given calls
    unfold Blueprint.addEach heardEach
    generalize b.addDeclared given calls = outcome at first ⊢
    match outcome with
    | (.ok (), next) =>
      rw [← List.append_assoc]
      exact ih first
    | (.error e, next) =>
      rw [List.append_nil]
      exact first

/-- A call that changes the definition only as a whole leaves the columns as they were. -/
theorem attempt_heard {call : BlueprintCall} {result : Except Error Blueprint}
    (applied : b.apply call = b.attempt result)
    (silent : call.declarations b.deletedAtColumn = []) : (b.apply call).2.Tracks log := by
  cases result with
  | error e =>
    rw [applied]
    exact h
  | ok next =>
    have step := h.apply (applied : b.apply call = (.ok (), next))
    rw [silent, List.append_nil] at step
    rw [applied]
    exact step

theorem apply_heard (call : BlueprintCall) :
    (b.apply call).2.Tracks (log ++ b.received (.call call)) := by
  have kept {result : Except Error Blueprint} (applied : b.apply call = b.attempt result)
      (silent : call.declarations b.deletedAtColumn = [])
      (unheard : b.received (.call call) = []) :
      (b.apply call).2.Tracks (log ++ b.received (.call call)) := by
    rw [unheard, List.append_nil]
    exact h.attempt_heard applied silent
  have added (heard : b.received (.call call) = b.heardEach (call.additions b.deletedAtColumn))
      (applied : b.apply call = b.addEach (call.additions b.deletedAtColumn)) :
      (b.apply call).2.Tracks (log ++ b.received (.call call)) := by
    rw [applied, heard]
    exact h.addEach_heard _
  cases call with
  | onColumn name call => exact h.declare_heard name call
  | column name => exact added rfl (b.addEach_singleton _ _).symm
  | id name => exact added rfl (b.addEach_singleton _ _).symm
  | increments name => exact added rfl (b.addEach_singleton _ _).symm
  | uid name => exact added rfl (b.addEach_singleton _ _).symm
  | softDeletes name => exact added rfl (b.addEach_singleton _ _).symm
  | timestamps =>
    refine added rfl ?_
    unfold Blueprint.apply BlueprintCall.additions Blueprint.addEach
    generalize b.addDeclared (.text "created_at") _ = outcome
    match outcome with
    | (.ok (), next) => exact (next.addEach_singleton _ _).symm
    | (.error e, next) => rfl
  | onForeignKey place call => exact kept rfl rfl rfl
  | primary columns => exact kept rfl rfl rfl
  | index columns unique name => exact kept rfl rfl rfl
  | foreign columns => exact kept rfl rfl rfl
  | engine value => exact kept rfl rfl rfl
  | charset value => exact kept rfl rfl rfl
  | collation value => exact kept rfl rfl rfl
  | lock => exact kept rfl rfl rfl

/-- Compiling tells the columns nothing. -/
theorem lockOn_heard (statements : Except Error (List String)) :
    (b.lockOn statements).2.Tracks log := by
  rw [lockOn_eq]
  split
  · split
    · exact h
    · exact h.of_columns rfl (h.wf.change .lock)
  · exact h

theorem act_heard (step : BlueprintStep) : (b.act step).2.Tracks (log ++ b.received step) := by
  cases step with
  | call call => exact h.apply_heard call
  | create d | add d =>
    rw [received, List.append_nil]
    exact h.lockOn_heard _

/-- After any steps the columns are what they have heard makes of them. -/
theorem run_heard (steps : List BlueprintStep) :
    (b.run steps).Tracks (log ++ b.receivedIn steps) := by
  induction steps generalizing b log with
  | nil => simpa [receivedIn, run] using h
  | cons step rest ih =>
    rw [run_cons, receivedIn, ← List.append_assoc]
    exact ih (h.act_heard step)

end Tracks

/-- Whatever steps are taken, each column is what it has been told. -/
theorem tracks_run {table : Value} {deletedAtColumn : String}
    (h : Blueprint.start table deletedAtColumn = .ok b) (steps : List BlueprintStep) :
    (b.run steps).Tracks (b.receivedIn steps) := (tracks_start h).run_heard steps

end Blueprint

end Sqlwright
