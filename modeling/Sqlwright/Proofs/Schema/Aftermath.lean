import Sqlwright.Proofs.Schema.Claims
import Sqlwright.Proofs.Schema.History

/-!
What a refused call leaves of a table definition. Most calls check all that they were given before
they write. A few write earlier: a declaration of a type sets the type before it looks at a length
or at values, a column that is to count by itself is there before it claims the primary key, and of
the two columns for the times of a row the first is there before the second is refused. Nothing else
is ever left behind (`Blueprint.Leaves`), and all that was there before stays (`Blueprint.Spares`).
Main statement: `Blueprint.Reachable.refused_spares`.
-/

namespace Sqlwright

open Text

variable {b after : Blueprint} {c : Column} {e : Error}

namespace Column

/-- That a declaration of a type is refused for the length or the values it came with, and which
type that is. -/
inductive Rejects (c : Column) (e : Error) : ColumnCall → ColumnType → Prop
  | length {type : ColumnType} {given : Value} (present : given ≠ .null)
    (refused : readSize c.name given = .error e) : Rejects c e (.typed type given) type
  | lengthAs {word given : Value} {type : ColumnType} (known : readType word = .ok type)
    (present : given ≠ .null) (refused : readSize c.name given = .error e) :
    Rejects c e (.typedAs word given) type
  | precision {given : Value} (present : given ≠ .null)
    (refused : readSize c.name given = .error e) : Rejects c e (.decimal given .null) .decimal
  | scale {precision given : Value} (present : precision ≠ .null) (scaled : given ≠ .null)
    (refused : readSize c.name (.text (precision.plain ++ "," ++ given.plain)) = .error e) :
    Rejects c e (.decimal precision given) .decimal
  | scaleAlone {given : Value} (scaled : given ≠ .null) (same : e = .scaleWithoutPrecision c.name) :
    Rejects c e (.decimal .null given) .decimal
  | enum {values : List Value} (refused : readValues c.name values = .error e) :
    Rejects c e (.enum values) .enum
  | set {values : List Value} (refused : readValues c.name values = .error e) :
    Rejects c e (.set values) .set

theorem sized_eq_error {after : Column} {given : Value} (h : c.sized given = (.error e, after)) :
    given ≠ .null ∧ readSize c.name given = .error e ∧ after = c := by
  unfold sized at h
  split at h
  · cases h
  · rename_i present
    split at h
    · cases h
    · rename_i refused
      cases h
      exact ⟨present, refused, rfl⟩

theorem valued_eq_error {after : Column} {given : List Value}
    (h : c.valued given = (.error e, after)) :
    readValues c.name given = .error e ∧ after = c := by
  unfold valued at h
  split at h
  · cases h
  · rename_i refused
    cases h
    exact ⟨refused, rfl⟩

/-- A declaration that is refused leaves the column as it was, but for the type if it is a
declaration of one. -/
theorem apply_eq_error {call : ColumnCall} {after : Column} (h : c.apply call = (.error e, after)) :
    after = c ∨ ∃ type, c.Rejects e call type ∧ after = { c with type := some type } := by
  cases call with
  | typed type given =>
    obtain ⟨present, refused, rfl⟩ := sized_eq_error h
    exact Or.inr ⟨type, .length present refused, rfl⟩
  | typedAs word given =>
    unfold apply at h
    dsimp only at h
    split at h
    · rename_i type known
      obtain ⟨present, refused, rfl⟩ := sized_eq_error h
      exact Or.inr ⟨type, .lengthAs known present refused, rfl⟩
    · cases h
      exact Or.inl rfl
  | decimal precision scale =>
    refine Or.inr ⟨.decimal, ?_⟩
    unfold apply at h
    dsimp only at h
    split at h
    · cases h
    · rename_i scaled
      cases h
      exact ⟨.scaleAlone scaled rfl, rfl⟩
    · obtain ⟨present, refused, rfl⟩ := sized_eq_error h
      exact ⟨.precision present refused, rfl⟩
    · rename_i present scaled _
      obtain ⟨-, refused, rfl⟩ := sized_eq_error h
      exact ⟨.scale present scaled refused, rfl⟩
  | enum values =>
    obtain ⟨refused, rfl⟩ := valued_eq_error h
    exact Or.inr ⟨.enum, .enum refused, rfl⟩
  | set values =>
    obtain ⟨refused, rfl⟩ := valued_eq_error h
    exact Or.inr ⟨.set, .set refused, rfl⟩
  | length given =>
    unfold apply at h
    dsimp only at h
    split at h
    · cases h
    · cases h
      exact Or.inl rfl
  | check expression =>
    unfold apply at h
    dsimp only at h
    split at h
    · cases h
      exact Or.inl rfl
    · cases h
  | default value => cases value <;> cases h
  | auto | primary | unsigned | null | notNull | useCurrent | unique | index | comment => cases h

end Column

/-- A declaration that no column refuses and that claims nothing. -/
structure ColumnCall.Quiet (call : ColumnCall) : Prop where
  free : call.claims = false
  accepted : ∀ c : Column, (c.apply call).1 = .ok ()

theorem quiet_pair {first second : ColumnCall} (hfirst : first.Quiet) (hsecond : second.Quiet) :
    ∀ call ∈ [first, second], call.Quiet :=
  List.forall_mem_cons.mpr ⟨hfirst, List.forall_mem_singleton.mpr hsecond⟩

/-- A column for a time can always be declared as one. -/
theorem quiet_stamps : ∀ call ∈ [ColumnCall.typed .timestamp .null, .null], call.Quiet :=
  quiet_pair ⟨rfl, fun _ => rfl⟩ ⟨rfl, fun _ => rfl⟩

/-- The name of the column that a call is made on, if it is made on one. -/
def BlueprintCall.receiver? : BlueprintCall → Option String
  | .onColumn name _ => some name
  | _ => none

namespace Blueprint

/-- Declarations on a column that was just added, none of which is refused, are as if they had been
made before. -/
theorem declareAll_quiet (unlocked : b.locked = false) {calls : List ColumnCall}
    (quiet : ∀ call ∈ calls, call.Quiet) (c : Column) (rest : List ColumnCall) :
    (b.addColumn c).declareAll c.name (calls ++ rest) =
      (b.addColumn (c.told calls)).declareAll c.name rest := by
  induction calls generalizing c with
  | nil => rfl
  | cons call calls ih =>
    obtain ⟨here, later⟩ := List.forall_mem_cons.mp quiet
    have name := (c.follows_apply call).name
    rw [List.cons_append, declareAll, declare_addColumn unlocked c call here.free,
      here.accepted c, Column.told_cons, ← name]
    exact ih later _

theorem addDeclared_quiet {given : Value} {name : String} (new : b.newName given = .ok name)
    {calls : List ColumnCall} (quiet : ∀ call ∈ calls, call.Quiet) (rest : List ColumnCall) :
    b.addDeclared given (calls ++ rest) =
      (b.addColumn (Column.told { name } calls)).declareAll name rest := by
  rw [addDeclared, new]
  exact declareAll_quiet (newName_eq_ok new).1 quiet { name } rest

/-- A new column with declarations that none refuses is refused only for its name. -/
theorem addDeclared_eq_error {given : Value} {calls : List ColumnCall}
    (quiet : ∀ call ∈ calls, call.Quiet) (h : b.addDeclared given calls = (.error e, after)) :
    b.newName given = .error e ∧ after = b := by
  cases new : b.newName given with
  | ok name =>
    have added := addDeclared_quiet new quiet []
    rw [List.append_nil, h] at added
    cases added
  | error reason =>
    rw [addDeclared, new] at h
    cases h
    exact ⟨rfl, rfl⟩

/-- What the refusal of a column that is to count by itself leaves: nothing new if there can be no
column of that name, and the column without its claim if another owner holds the key. -/
def LeavesCounting (b : Blueprint) (e : Error) (type : ColumnType) (given : Value)
    (after : Blueprint) : Prop :=
  b.newName given = .error e ∧ after = b ∨
    ∃ name owner, b.newName given = .ok name ∧ b.owner = some owner ∧ owner ≠ name ∧
      e = .duplicatePrimaryKey b.table owner name ∧
      after = b.addColumn { name, type := some type, unsigned := true }

/-- What a call that is refused with an error leaves. -/
def Leaves (b : Blueprint) (e : Error) : BlueprintCall → Blueprint → Prop
  | .onColumn name call, after =>
    after = b ∨ ∃ c type, b.column? name = some c ∧ c.Rejects e call type ∧
      after = b.setColumn name { c with type := some type }
  | .id given, after => b.LeavesCounting e .bigint given after
  | .increments given, after => b.LeavesCounting e .int given after
  | .timestamps, after =>
    b.newName (.text "created_at") = .error e ∧ after = b ∨
      b.newName (.text "created_at") = .ok "created_at" ∧ b.places.has "updated_at" = true ∧
        e = .columnAlreadyDefined "updated_at" b.table ∧
        after = b.addColumn { name := "created_at", type := some .timestamp, declaredNull := true }
  | _, after => after = b

/-- A column that is to count by itself is refused for its name or for its claim to the key. -/
theorem leavesCounting {type : ColumnType} {given : Value}
    (h : b.addDeclared given [.typed type .null, .unsigned, .auto] = (.error e, after)) :
    b.LeavesCounting e type given after := by
  cases new : b.newName given with
  | error reason =>
    rw [addDeclared, new] at h
    cases h
    exact Or.inl ⟨new, rfl⟩
  | ok name =>
    have quiet : ∀ call ∈ [ColumnCall.typed type .null, .unsigned], call.Quiet :=
      quiet_pair ⟨rfl, fun _ => rfl⟩ ⟨rfl, fun _ => rfl⟩
    have unlocked := (newName_eq_ok new).1
    have claimed : b.claim name = .error e := by
      have ending := addDeclared_counting unlocked given type
      rw [h, new] at ending
      exact ending.symm
    obtain ⟨owner, owned, other, rfl⟩ := claim_eq_error.mp claimed
    let c : Column := { name, type := some type, unsigned := true }
    have refused : (b.addColumn c).declare name .auto =
        (.error (.duplicatePrimaryKey b.table owner name), b.addColumn c) := by
      have received : (b.addColumn c).receiver name .auto = (b.claim name).map fun () => c :=
        receiver_addColumn unlocked c .auto
      rw [declare, received, claimed]
      rfl
    have added : b.addDeclared given [.typed type .null, .unsigned, .auto] =
        (b.addColumn c).declareAll name [.auto] := addDeclared_quiet new quiet [.auto]
    rw [h, declareAll, refused] at added
    exact Or.inr ⟨name, owner, new, owned, other, rfl, congrArg Prod.snd added⟩

/-- The second column for a time is refused only if there is a column of its name. -/
theorem leaves_timestamps (h : b.apply .timestamps = (.error e, after)) :
    b.Leaves e .timestamps after := by
  cases new : b.newName (.text "created_at") with
  | error reason =>
    rw [apply, addDeclared, new] at h
    cases h
    exact Or.inl ⟨new, rfl⟩
  | ok name =>
    obtain rfl : "created_at" = name := by simpa using newName_eq_text new
    have unlocked := (newName_eq_ok new).1
    let created : Column :=
      { name := "created_at", type := some .timestamp, declaredNull := true }
    have first : b.addDeclared (.text "created_at") [.typed .timestamp .null, .null] =
        (.ok (), b.addColumn created) := addDeclared_quiet new quiet_stamps []
    rw [apply, first] at h
    obtain ⟨refused, rfl⟩ := addDeclared_eq_error quiet_stamps h
    have there : (b.addColumn created).places.has "updated_at" = b.places.has "updated_at" := by
      rw [Keyed.has, addColumn, Keyed.find?_put]
      rfl
    have opened : (b.addColumn created).requireOpen = .ok () := requireOpen_eq_ok.mpr unlocked
    rw [newName, opened] at refused
    change (if (b.addColumn created).places.has "updated_at" = true then _ else _) = _ at refused
    rw [there] at refused
    split at refused
    · rename_i there
      cases refused
      exact Or.inr ⟨new, there, rfl, rfl⟩
    · cases refused

theorem eq_of_attempt {result : Except Error Blueprint} (h : b.attempt result = (.error e, after)) :
    after = b := by
  cases result with
  | ok next => cases h
  | error reason =>
    cases h
    rfl

theorem declared_of_free {name : String} {call : ColumnCall} (found : b.column? name = some c)
    (free : call.claims = false) :
    b.declared name c call = b.setColumn name (c.apply call).2 := by
  obtain ⟨place, stands, -⟩ := column?_eq_some.mp found
  rw [declared_eq stands, setColumn, stands, free]
  rfl

theorem leaves_declare {name : String} {call : ColumnCall}
    (h : b.declare name call = (.error e, after)) : b.Leaves e (.onColumn name call) after := by
  unfold declare at h
  split at h
  · rename_i c received
    obtain ⟨-, found, -⟩ := receiver_eq_ok received
    obtain rfl : b.declared name c call = after := congrArg Prod.snd h
    have ending : (c.apply call).1 = .error e := congrArg Prod.fst h
    have refused : c.apply call = (.error e, (c.apply call).2) := Prod.ext ending rfl
    have free : call.claims = false := by
      by_contra claims
      have accepted := c.apply_of_claims (eq_true_of_ne_false claims)
      rw [ending] at accepted
      cases accepted
    rw [declared_of_free found free]
    rcases Column.apply_eq_error refused with same | ⟨type, rejected, same⟩
    · rw [same]
      exact Or.inl (setColumn_self found)
    · rw [same]
      exact Or.inr ⟨c, type, found, rejected, rfl⟩
  · cases h
    exact Or.inl rfl

/-- A refused call leaves a column of another type at most, or one that was added before. -/
theorem leaves_of_refused {call : BlueprintCall} (h : b.apply call = (.error e, after)) :
    b.Leaves e call after := by
  cases call with
  | onColumn name call => exact leaves_declare h
  | id given => exact leavesCounting h
  | increments given => exact leavesCounting h
  | timestamps => exact leaves_timestamps h
  | column given => exact (addDeclared_eq_error (List.forall_mem_nil _) h).2
  | uid given =>
    have quiet : ∀ call ∈ [ColumnCall.typed .char (.int 36), .unique], call.Quiet :=
      quiet_pair ⟨rfl, fun _ => rfl⟩ ⟨rfl, fun _ => rfl⟩
    exact (addDeclared_eq_error quiet h).2
  | softDeletes given => exact (addDeclared_eq_error quiet_stamps h).2
  | onForeignKey | primary | index | foreign | engine | charset | collation | lock =>
    exact eq_of_attempt h

/-- Whatever was there before a call is there after it, in its place, but for the type of the column
that the call was made on, if it was made on one. There may be more columns behind the others. -/
structure Spares (b : Blueprint) (receiver : Option String) (after : Blueprint) : Prop where
  rest : after = { b with columns := after.columns, places := after.places }
  places : ∀ name place, b.places.find? name = some place → after.places.find? name = some place
  others : ∀ (place : Nat) c, b.columns[place]? = some c → receiver ≠ some c.name →
    after.columns[place]? = some c
  receiver : ∀ (place : Nat) c, b.columns[place]? = some c → receiver = some c.name →
    ∃ type, after.columns[place]? = some { c with type }

variable {receiver : Option String}

theorem spares_refl (b : Blueprint) (receiver : Option String) : b.Spares receiver b where
  rest := rfl
  places _ _ there := there
  others _ _ here _ := here
  receiver _ c here _ := ⟨c.type, here⟩

/-- A new column goes behind the others. -/
theorem spares_addColumn (absent : b.places.find? c.name = none) :
    b.Spares receiver (b.addColumn c) := by
  have kept {place : Nat} {c' : Column} (here : b.columns[place]? = some c') :
      (b.addColumn c).columns[place]? = some c' := by
    rw [addColumn, List.getElem?_append_left (List.getElem?_eq_some_iff.mp here).1, here]
  refine ⟨rfl, fun name place there => ?_, fun _ _ here _ => kept here,
    fun _ c' here _ => ⟨c'.type, kept here⟩⟩
  have other : c.name ≠ name := by
    rintro rfl
    rw [absent] at there
    cases there
  rw [addColumn, Keyed.find?_put, if_neg other, there]

/-- A new type for a column is one for the column of that name, as no other has it. -/
theorem WellFormed.spares_setColumn (wf : b.WellFormed) {name : String}
    (found : b.column? name = some c) (type : Option ColumnType) :
    b.Spares (some name) (b.setColumn name { c with type }) := by
  obtain ⟨place, stands, here⟩ := column?_eq_some.mp found
  have named : c.name = name := (wf.column?_iff.mp found).2
  have set : b.setColumn name { c with type } =
      { b with columns := b.columns.set place { c with type } } := by
    rw [setColumn, stands]
  rw [set]
  refine ⟨rfl, fun _ _ there => there, fun place' c' here' other => ?_,
    fun place' c' here' same => ?_⟩
  · have elsewhere : place ≠ place' := by
      rintro rfl
      rw [here] at here'
      cases here'
      exact other (congrArg some named.symm)
    dsimp only
    rw [List.getElem?_set_ne elsewhere, here']
  · cases same
    have stands' : b.places.find? c'.name = some place' := by
      rw [wf.places, List.getElem?_map, here']
      rfl
    obtain rfl : place = place' := Option.some.inj (stands.symm.trans stands')
    rw [here] at here'
    cases here'
    exact ⟨type, List.getElem?_set_self (List.getElem?_eq_some_iff.mp here).1⟩

/-- What a refused call leaves spares all that was there before. -/
theorem WellFormed.spares_of_leaves (wf : b.WellFormed) {call : BlueprintCall}
    (h : b.Leaves e call after) : b.Spares call.receiver? after := by
  have counting {type : ColumnType} {given : Value} (h : b.LeavesCounting e type given after) :
      b.Spares none after := by
    rcases h with ⟨-, rfl⟩ | ⟨name, owner, new, -, -, -, rfl⟩
    · exact spares_refl after none
    · exact spares_addColumn (newName_eq_ok new).2.2
  cases call with
  | onColumn name call =>
    rcases h with rfl | ⟨c, type, found, -, rfl⟩
    · exact spares_refl after _
    · exact wf.spares_setColumn found (some type)
  | id given => exact counting h
  | increments given => exact counting h
  | timestamps =>
    rcases h with ⟨-, rfl⟩ | ⟨new, -, -, rfl⟩
    · exact spares_refl after none
    · exact spares_addColumn (newName_eq_ok new).2.2
  | column | uid | softDeletes | onForeignKey | primary | index | foreign | engine | charset
  | collation | lock =>
    obtain rfl : after = b := h
    exact spares_refl after none

/-- A refused call leaves what was there before it, but for the type of the column that it was made
on, which is set if the call declares a type and is refused for the length or the values that came
with it. A column is left behind only where one was to count by itself while another owner holds the
key, without its claim, and where of the two columns for the times of a row there was the second,
as the first of them. -/
theorem Reachable.refused_spares (h : b.Reachable) {call : BlueprintCall}
    (refused : b.apply call = (.error e, after)) :
    b.Leaves e call after ∧ b.Spares call.receiver? after := by
  have leaves := leaves_of_refused refused
  exact ⟨leaves, h.wellFormed.spares_of_leaves leaves⟩

/-- A table with a key and with the second of the columns for the times of a row. -/
def bookings : Blueprint :=
  Blueprint.run { table := "bookings" }
    [.call (.id (.text "id")), .call (.column (.text "updated_at"))]

theorem Reachable.refused_spares_bookings :
    (bookings.apply (.increments (.text "place"))).2 =
        bookings.addColumn { name := "place", type := some .int, unsigned := true } ∧
      (bookings.apply .timestamps).2 =
        bookings.addColumn { name := "created_at", type := some .timestamp, declaredNull := true } ∧
      ∃ type, (bookings.apply (.onColumn "updated_at" (.typed .varchar (.int 0)))).2.columns[1]? =
        some { name := "updated_at", type } := by
  have reached : bookings.Reachable :=
    (Reachable.start (show Blueprint.start (.text "bookings") "deleted_at" = _ from rfl)).run _
  have second : (bookings.apply (.increments (.text "place"))).1 =
      .error (.duplicatePrimaryKey "bookings" "id" "place") := rfl
  have stamps : (bookings.apply .timestamps).1 =
      .error (.columnAlreadyDefined "updated_at" "bookings") := rfl
  have empty : (bookings.apply (.onColumn "updated_at" (.typed .varchar (.int 0)))).1 =
      .error (.lengthNotPositive "updated_at") := rfl
  obtain ⟨counting, -⟩ := Reachable.refused_spares reached (Prod.ext second rfl)
  obtain ⟨times, -⟩ := Reachable.refused_spares reached (Prod.ext stamps rfl)
  obtain ⟨-, spares⟩ := Reachable.refused_spares reached (Prod.ext empty rfl)
  refine ⟨?_, ?_, spares.receiver 1 { name := "updated_at" } rfl rfl⟩
  · rcases counting with ⟨unnamed, -⟩ | ⟨name, owner, new, -, -, -, after⟩
    · cases unnamed
    · cases newName_eq_text new
      exact after
  · rcases times with ⟨unnamed, -⟩ | ⟨-, -, -, after⟩
    · cases unnamed
    · exact after

end Blueprint

end Sqlwright
