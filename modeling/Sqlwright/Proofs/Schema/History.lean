import Mathlib.Data.List.Induction
import Sqlwright.Proofs.Schema.Keys

/-!
A column is what has been declared on it. The declarations of a run of calls are written down with
the columns that they are for (`BlueprintCall.declarations`); each column of the definition that the
run leads to is a new column after its own declarations, one after another
(`Blueprint.Tracks.applyAll`). What a column admits and which default it has can then be read from
the declarations: a flag is up if one of them raised it, and of those that overrule each other the
last one counts (`Column.remembers_grown`).
-/

namespace Sqlwright

variable {b next : Blueprint} {c : Column}

/-- Whether the column is to admit NULL, of a declaration that says so. -/
def ColumnCall.nullness? : ColumnCall → Option Bool
  | .null | .default .null => some true
  | .notNull => some false
  | _ => none

/-- The default that the column is to have, of a declaration that says so. -/
def ColumnCall.default? : ColumnCall → Option (Option Value)
  | .default .null => some none
  | .default value => some (some value)
  | .useCurrent => some (some (.raw "CURRENT_TIMESTAMP"))
  | _ => none

/-- What the last of the declarations says that say something. -/
def lastOf {α : Type} (read : ColumnCall → Option α) (calls : List ColumnCall) : Option α :=
  calls.reverse.findSome? read

/-- One more declaration is the last one of its kind, or changes nothing for that kind. -/
theorem lastOf_concat {α : Type} (read : ColumnCall → Option α) (calls : List ColumnCall)
    (call : ColumnCall) : lastOf read (calls ++ [call]) = (read call).or (lastOf read calls) := by
  rw [lastOf, List.reverse_append, List.reverse_singleton, List.singleton_append,
    List.findSome?_cons]
  cases read call <;> rfl

namespace Column

def told (c : Column) (calls : List ColumnCall) : Column :=
  calls.foldl (fun c call => (c.apply call).2) c

theorem told_cons (c : Column) (call : ColumnCall) (rest : List ColumnCall) :
    c.told (call :: rest) = (c.apply call).2.told rest := rfl

theorem told_append (c : Column) (calls more : List ColumnCall) :
    c.told (calls ++ more) = (c.told calls).told more :=
  List.foldl_append

def grown (name : String) (calls : List ColumnCall) : Column :=
  calls.foldl (fun c call => (c.apply call).2) { name }

theorem grown_concat (name : String) (calls : List ColumnCall) (call : ColumnCall) :
    grown name (calls ++ [call]) = ((grown name calls).apply call).2 := by
  simp [grown]

/-- What one declaration does to the flags of a column. -/
structure Flagged (c : Column) (call : ColumnCall) (after : Column) : Prop where
  auto : after.auto = true ↔ c.auto = true ∨ call = .auto
  primary : after.primary = true ↔ c.primary = true ∨ call = .auto ∨ call = .primary
  unique : after.unique = true ↔ c.unique = true ∨ call = .unique
  declaredNull : after.declaredNull = call.nullness?.getD c.declaredNull
  default? : after.default? = call.default?.getD c.default?

/-- A declaration that says nothing of the flags. -/
theorem flagged_self {call : ColumnCall} (null : call.nullness? = none)
    (default : call.default? = none) (auto : call ≠ .auto) (primary : call ≠ .primary)
    (unique : call ≠ .unique) : c.Flagged call c := by
  constructor <;> simp [null, default, auto, primary, unique]

theorem flagged_sized {call : ColumnCall} {type : Option ColumnType} (given : Value)
    (h : c.Flagged call c) : c.Flagged call ({ c with type }.sized given).2 := by
  rcases Column.sized_cases { c with type } given with same | ⟨size, -, sized⟩
  · rw [same]
    exact { h with }
  · rw [sized]
    exact { h with }

theorem flagged_valued {call : ColumnCall} {type : Option ColumnType} (given : List Value)
    (h : c.Flagged call c) : c.Flagged call ({ c with type }.valued given).2 := by
  rcases Column.valued_cases { c with type } given with same | ⟨values, valued⟩
  · rw [same]
    exact { h with }
  · rw [valued]
    exact { h with }

/-- A flag is set by its own declaration and by no other one. -/
theorem flagged_apply (c : Column) (call : ColumnCall) : c.Flagged call (c.apply call).2 := by
  cases call with
  | typed type length => exact flagged_sized length (flagged_self rfl rfl nofun nofun nofun)
  | typedAs word length =>
    have plain : c.Flagged (.typedAs word length) c := flagged_self rfl rfl nofun nofun nofun
    unfold apply
    dsimp only
    split
    · exact flagged_sized length plain
    · exact plain
  | decimal precision scale =>
    have plain : c.Flagged (.decimal precision scale) c := flagged_self rfl rfl nofun nofun nofun
    unfold apply
    dsimp only
    split
    · exact { plain with }
    · exact { plain with }
    · exact flagged_sized _ plain
    · exact flagged_sized _ plain
  | enum values => exact flagged_valued values (flagged_self rfl rfl nofun nofun nofun)
  | set values => exact flagged_valued values (flagged_self rfl rfl nofun nofun nofun)
  | length given =>
    have plain : c.Flagged (.length given) c := flagged_self rfl rfl nofun nofun nofun
    unfold apply
    dsimp only
    split
    · exact { plain with }
    · exact plain
  | unsigned =>
    have plain : c.Flagged .unsigned c := flagged_self rfl rfl nofun nofun nofun
    exact { plain with }
  | index =>
    have plain : c.Flagged .index c := flagged_self rfl rfl nofun nofun nofun
    exact { plain with }
  | comment text =>
    have plain : c.Flagged (.comment text) c := flagged_self rfl rfl nofun nofun nofun
    exact { plain with }
  | check expression =>
    have plain : c.Flagged (.check expression) c := flagged_self rfl rfl nofun nofun nofun
    unfold apply
    dsimp only
    split
    · exact plain
    · exact { plain with }
  | default value =>
    cases value <;> constructor <;> simp [apply, ColumnCall.nullness?, ColumnCall.default?]
  | null | notNull | useCurrent | auto | primary | unique =>
    constructor <;> simp [apply, ColumnCall.nullness?, ColumnCall.default?]

/-- The flags of a column are what has been declared on it. -/
structure Remembers (c : Column) (calls : List ColumnCall) : Prop where
  auto : c.auto = true ↔ .auto ∈ calls
  primary : c.primary = true ↔ .auto ∈ calls ∨ .primary ∈ calls
  unique : c.unique = true ↔ .unique ∈ calls
  declaredNull : c.declaredNull = (lastOf ColumnCall.nullness? calls).getD false
  default? : c.default? = (lastOf ColumnCall.default? calls).getD none

theorem Remembers.flagged {call : ColumnCall} {after : Column} {calls : List ColumnCall}
    (h : c.Remembers calls) (step : c.Flagged call after) :
    after.Remembers (calls ++ [call]) where
  auto := by
    rw [step.auto, h.auto]
    simp [eq_comm]
  primary := by
    rw [step.primary, h.primary]
    simp only [List.mem_append, List.mem_singleton, eq_comm (b := call)]
    tauto
  unique := by
    rw [step.unique, h.unique]
    simp [eq_comm]
  declaredNull := by
    rw [step.declaredNull, lastOf_concat, h.declaredNull]
    cases call.nullness? <;> rfl
  default? := by
    rw [step.default?, lastOf_concat, h.default?]
    cases call.default? <;> rfl

/-- A column remembers what it was told since it was added. -/
theorem remembers_grown (name : String) (calls : List ColumnCall) :
    (grown name calls).Remembers calls := by
  induction calls using List.reverseRecOn with
  | nil => constructor <;> simp [grown, lastOf]
  | append_singleton calls call ih =>
    rw [grown_concat]
    exact ih.flagged (flagged_apply _ call)

/-- A column is a key if it was told to count by itself or to be one. -/
theorem Remembers.isKey {calls : List ColumnCall} (h : c.Remembers calls) :
    c.isKey = true ↔ .auto ∈ calls ∨ .primary ∈ calls := by
  rw [Column.isKey, Bool.or_eq_true, h.auto, h.primary]
  tauto

end Column

def declaredOn (name : Value) (calls : List ColumnCall) : List (String × ColumnCall) :=
  match name with
  | .text name => calls.map (name, ·)
  | _ => []

/-- The declarations that a call makes, each with the column that it is for. -/
def BlueprintCall.declarations (deletedAtColumn : String) :
    BlueprintCall → List (String × ColumnCall)
  | .onColumn name call => [(name, call)]
  | .id name => declaredOn name [.typed .bigint .null, .unsigned, .auto]
  | .increments name => declaredOn name [.typed .int .null, .unsigned, .auto]
  | .uid name => declaredOn name [.typed .char (.int 36), .unique]
  | .timestamps =>
    declaredOn (.text "created_at") [.typed .timestamp .null, .null] ++
      declaredOn (.text "updated_at") [.typed .timestamp .null, .null]
  | .softDeletes name =>
    declaredOn (if name.isPresent then name else .text deletedAtColumn)
      [.typed .timestamp .null, .null]
  | _ => []

/-- The declarations for the column of a name, in their order. -/
def history (name : String) (log : List (String × ColumnCall)) : List ColumnCall :=
  log.filterMap fun entry => if entry.1 = name then some entry.2 else none

theorem history_append (name : String) (log more : List (String × ColumnCall)) :
    history name (log ++ more) = history name log ++ history name more :=
  List.filterMap_append

theorem history_eq_nil {name : String} {log : List (String × ColumnCall)}
    (h : ∀ entry ∈ log, entry.1 ≠ name) : history name log = [] :=
  List.filterMap_eq_nil_iff.mpr fun entry member => if_neg (h entry member)

namespace Blueprint

def applyAll (b : Blueprint) : List BlueprintCall → Except Error Blueprint
  | [] => .ok b
  | call :: rest =>
    match b.apply call with
    | (.ok (), next) => next.applyAll rest
    | (.error e, _) => .error e

/-- The columns of a definition are new columns after the declarations that were written down. -/
structure Tracks (b : Blueprint) (log : List (String × ColumnCall)) : Prop where
  wf : b.WellFormed
  columns : ∀ c ∈ b.columns, c = .grown c.name (history c.name log)
  known : ∀ entry ∈ log, ∃ c ∈ b.columns, c.name = entry.1

/-- What can name a new column is a text, and that text is its name. -/
theorem newName_eq_text {given : Value} {name : String} (h : b.newName given = .ok name) :
    given = .text name := by
  obtain ⟨-, -, h⟩ := bind_eq_ok.mp h
  cases given with
  | text given =>
    dsimp only at h
    split at h
    · cases h
    · unfold readName at h
      split at h
      · cases h
        rfl
      · cases h
  | _ => cases h

namespace Tracks

variable {log : List (String × ColumnCall)}

/-- Nothing has been declared on a column that was not there. -/
theorem addColumn (h : b.Tracks log) {name : String} (valid : Identifier.isName name.toList = true)
    (absent : b.places.find? name = none) : (b.addColumn { name }).Tracks log where
  wf := h.wf.change (.column valid absent)
  columns := by
    intro c member
    rcases List.mem_append.mp member with old | new
    · exact h.columns c old
    · obtain rfl := List.mem_singleton.mp new
      have silent : history name log = [] := by
        refine history_eq_nil fun entry inside same => ?_
        obtain ⟨c, there, named⟩ := h.known entry inside
        have found := h.wf.column?_iff.mpr ⟨there, named.trans same⟩
        obtain ⟨place, stands, -⟩ := column?_eq_some.mp found
        rw [absent] at stands
        cases stands
      rw [silent]
      rfl
  known := by
    intro entry inside
    obtain ⟨c, there, same⟩ := h.known entry inside
    exact ⟨c, List.mem_append_left _ there, same⟩

theorem declared (h : b.Tracks log) {name : String} {call : ColumnCall}
    (found : b.column? name = some c) (free : call.claims = true → b.claim c.name = .ok ()) :
    (b.declared name c call).Tracks (log ++ [(name, call)]) := by
  obtain ⟨known, named⟩ := h.wf.column?_iff.mp found
  have follows := (c.follows_apply call).name
  have wf := h.wf.change (.declaration found free)
  have stays : (c.apply call).2 ∈ (b.declared name c call).columns := by
    obtain ⟨place, stands, here⟩ := column?_eq_some.mp found
    rw [declared_eq stands]
    exact List.mem_set (List.getElem?_eq_some_iff.mp here).1 _
  refine ⟨wf, fun other member => ?_, fun entry inside => ?_⟩
  · rw [history_append]
    by_cases same : other.name = name
    · obtain rfl := wf.eq_of_name member stays ((same.trans named.symm).trans follows.symm)
      have one : history name [(name, call)] = [call] := by simp [history]
      rw [follows, named, one, Column.grown_concat, ← named, ← h.columns c known]
    · have old : other ∈ b.columns := by
        refine (mem_declared found member).resolve_left ?_
        rintro rfl
        exact same (follows.trans named)
      have none : history other.name [(name, call)] = [] :=
        history_eq_nil fun entry inside => by
          obtain rfl := List.mem_singleton.mp inside
          exact Ne.symm same
      rw [none, List.append_nil]
      exact h.columns other old
  · have stands : ∃ c ∈ b.columns, c.name = entry.1 := by
      rcases List.mem_append.mp inside with old | new
      · exact h.known entry old
      · obtain rfl := List.mem_singleton.mp new
        exact ⟨c, known, named⟩
    have names := names_declared found call
    obtain ⟨other, there, same⟩ := stands
    have kept : entry.1 ∈ (b.declared name c call).columns.map (·.name) := by
      rw [names, ← same]
      exact List.mem_map_of_mem there
    exact List.mem_map.mp kept

/-- An accepted declaration goes into the history of its column. -/
theorem declare (h : b.Tracks log) {name : String} {call : ColumnCall}
    (accepted : b.declare name call = (.ok (), next)) : next.Tracks (log ++ [(name, call)]) := by
  unfold Blueprint.declare at accepted
  split at accepted
  · rename_i c received
    obtain ⟨-, found, free⟩ := receiver_eq_ok received
    obtain rfl : b.declared name c call = next := congrArg Prod.snd accepted
    exact h.declared found free
  · cases accepted

theorem declareAll (h : b.Tracks log) {name : String} {calls : List ColumnCall}
    (accepted : b.declareAll name calls = (.ok (), next)) :
    next.Tracks (log ++ calls.map (name, ·)) := by
  induction calls generalizing b log with
  | nil =>
    cases accepted
    simpa using h
  | cons call rest ih =>
    unfold Blueprint.declareAll at accepted
    split at accepted
    · rename_i middle declared
      simpa using ih (h.declare declared) accepted
    · rename_i refused
      exact absurd accepted (refused next)

theorem addDeclared (h : b.Tracks log) {given : Value} {calls : List ColumnCall}
    (accepted : b.addDeclared given calls = (.ok (), next)) :
    next.Tracks (log ++ declaredOn given calls) := by
  unfold Blueprint.addDeclared at accepted
  split at accepted
  · rename_i name new
    obtain ⟨-, valid, absent⟩ := newName_eq_ok new
    obtain rfl := newName_eq_text new
    exact (h.addColumn valid absent).declareAll accepted
  · cases accepted

/-- What leaves the columns alone leaves their history alone. -/
theorem of_columns (h : b.Tracks log) (same : next.columns = b.columns) (wf : next.WellFormed) :
    next.Tracks log where
  wf := wf
  columns := same ▸ h.columns
  known := same ▸ h.known

/-- A call that changes the definition only as a whole and declares nothing. -/
theorem attempt (h : b.Tracks log) {result : Except Error Blueprint}
    (accepted : b.attempt result = (.ok (), next))
    (same : ∀ next, result = .ok next → next.columns = b.columns)
    (wf : (b.attempt result).2.WellFormed) : next.Tracks (log ++ []) := by
  rw [accepted] at wf
  rw [List.append_nil]
  cases result with
  | ok made =>
    cases accepted
    exact h.of_columns (same _ rfl) wf
  | error e => cases accepted

theorem apply (h : b.Tracks log) {call : BlueprintCall}
    (accepted : b.apply call = (.ok (), next)) :
    next.Tracks (log ++ call.declarations b.deletedAtColumn) := by
  have wf : (b.apply call).2.WellFormed := by
    have changes := b.changes_apply call
    generalize (b.apply call).2 = after at changes
    induction changes with
    | refl => exact h.wf
    | tail _ change ih => exact ih.change change
  have option {given : Value} {set : String → Blueprint}
      (columns : ∀ s, (set s).columns = b.columns)
      (next : Blueprint) (made : (b.readOption given).map set = .ok next) :
      next.columns = b.columns := by
    obtain ⟨word, -, rfl⟩ := map_eq_ok.mp made
    exact columns word
  cases call with
  | column name =>
    have added := h.addDeclared accepted
    unfold declaredOn at added
    cases name <;> exact added
  | onColumn name call => exact h.declare accepted
  | id name => exact h.addDeclared accepted
  | increments name => exact h.addDeclared accepted
  | uid name => exact h.addDeclared accepted
  | timestamps =>
    unfold Blueprint.apply at accepted
    dsimp only at accepted
    split at accepted
    · rename_i middle added
      have both := (h.addDeclared added).addDeclared accepted
      rw [List.append_assoc] at both
      exact both
    · rename_i refused
      exact absurd accepted (refused next)
  | softDeletes name => exact h.addDeclared accepted
  | onForeignKey place call =>
    refine h.attempt accepted (fun next made => ?_) wf
    obtain ⟨-, -, made⟩ := bind_eq_ok.mp made
    split at made
    · obtain ⟨changed, -, rfl⟩ := map_eq_ok.mp made
      rfl
    · cases made
      rfl
  | primary columns =>
    refine h.attempt accepted (fun next made => ?_) wf
    obtain ⟨-, -, made⟩ := bind_eq_ok.mp made
    obtain ⟨names, -, made⟩ := bind_eq_ok.mp made
    obtain ⟨-, -, made⟩ := bind_eq_ok.mp made
    cases made
    rfl
  | index columns unique name =>
    refine h.attempt accepted (fun next made => ?_) wf
    obtain ⟨-, -, made⟩ := bind_eq_ok.mp made
    obtain ⟨name', -, made⟩ := bind_eq_ok.mp made
    obtain ⟨names, -, made⟩ := bind_eq_ok.mp made
    cases made
    rfl
  | foreign columns =>
    refine h.attempt accepted (fun next made => ?_) wf
    obtain ⟨-, -, made⟩ := bind_eq_ok.mp made
    obtain ⟨names, -, made⟩ := bind_eq_ok.mp made
    cases made
    rfl
  | engine value => exact h.attempt accepted (option fun _ => rfl) wf
  | charset value => exact h.attempt accepted (option fun _ => rfl) wf
  | collation value => exact h.attempt accepted (option fun _ => rfl) wf
  | lock =>
    refine h.attempt accepted (fun next made => ?_) wf
    obtain ⟨-, -, made⟩ := bind_eq_ok.mp made
    cases made
    rfl

end Tracks

/-- The name for the column of deleted rows stays. -/
theorem Change.deletedAtColumn_eq (h : b.Change next) :
    next.deletedAtColumn = b.deletedAtColumn := by
  cases h with
  | @declaration name c call found free =>
    obtain ⟨place, stands, -⟩ := column?_eq_some.mp found
    rw [declared_eq stands]
  | _ => rfl

theorem deletedAtColumn_apply (b : Blueprint) (call : BlueprintCall) :
    (b.apply call).2.deletedAtColumn = b.deletedAtColumn := by
  have changes := b.changes_apply call
  generalize (b.apply call).2 = after at changes
  induction changes with
  | refl => rfl
  | tail _ change ih => rw [change.deletedAtColumn_eq, ih]

/-- Nothing has been declared on a new definition. -/
theorem tracks_start {table : Value} {deletedAtColumn : String}
    (h : Blueprint.start table deletedAtColumn = .ok b) : b.Tracks [] where
  wf := (Reachable.start h).wellFormed
  columns := by
    obtain ⟨name, -, rfl⟩ := map_eq_ok.mp h
    simp
  known := nofun

/-- The columns that a run of calls leads to are those that the run has declared. -/
theorem Tracks.applyAll {log : List (String × ColumnCall)} {calls : List BlueprintCall}
    (h : b.Tracks log) (accepted : b.applyAll calls = .ok next) :
    next.Tracks (log ++ calls.flatMap (·.declarations b.deletedAtColumn)) := by
  induction calls generalizing b log with
  | nil =>
    cases accepted
    simpa using h
  | cons call rest ih =>
    unfold Blueprint.applyAll at accepted
    split at accepted
    · rename_i middle applied
      have kept : middle.deletedAtColumn = b.deletedAtColumn := by
        rw [← deletedAtColumn_apply b call, applied]
      rw [List.flatMap_cons, ← List.append_assoc, ← kept]
      exact ih (kept ▸ h.apply applied) accepted
    · cases accepted

/-- Accepted calls lead where the same calls lead as steps. -/
theorem run_of_applyAll {calls : List BlueprintCall} (accepted : b.applyAll calls = .ok next) :
    b.run (calls.map .call) = next := by
  induction calls generalizing b with
  | nil =>
    cases accepted
    rfl
  | cons call rest ih =>
    unfold Blueprint.applyAll at accepted
    split at accepted
    · rename_i middle applied
      have same : (b.act (.call call)).2 = middle := congrArg Prod.snd applied
      rw [List.map_cons, run_cons, same]
      exact ih accepted
    · cases accepted

end Blueprint

end Sqlwright
