import Sqlwright.Proofs.Schema.Keys

/-!
Claims on the primary key. A few calls claim the key for a column or for a list of columns
(`Blueprint.claimant?`); such a call is refused as a duplicate exactly if another owner holds the
key, and no other call is ever refused so. Main statement: `Blueprint.apply_duplicate_iff`.
-/

namespace Sqlwright

open Text

variable {b : Blueprint} {c : Column} {α β : Type}

def Error.isDuplicate : Error → Bool
  | .duplicatePrimaryKey .. => true
  | _ => false

/-- An outcome that is no conflict about the primary key. -/
def Settled (r : Except Error α) : Prop := ∀ e, r = .error e → e.isDuplicate = false

namespace Settled

theorem ok (a : α) : Settled (.ok a) := nofun

theorem error {e : Error} (h : e.isDuplicate = false) : Settled (.error e : Except Error α) := by
  rintro _ ⟨⟩
  exact h

theorem bind {x : Except Error α} {f : α → Except Error β} (hx : Settled x)
    (hf : ∀ a, Settled (f a)) : Settled (x >>= f) := by
  cases x with
  | error e => exact .error (hx e rfl)
  | ok a => exact hf a

theorem map {x : Except Error α} (hx : Settled x) (f : α → β) : Settled (x.map f) := by
  cases x with
  | error e => exact .error (hx e rfl)
  | ok a => exact .ok _

theorem mapM {f : α → Except Error β} (hf : ∀ a, Settled (f a)) (items : List α) :
    Settled (items.mapM f) := by
  intro e h
  obtain ⟨item, -, refused⟩ := exists_of_mapM_eq_error h
  exact hf item e refused

end Settled

theorem settled_readName (given : String) : Settled (readName given) := by
  unfold readName
  split
  · exact .ok _
  · exact .error rfl

theorem settled_readTable (given : Value) : Settled (readTable given) := by
  unfold readTable
  split
  · split
    · exact .ok _
    · exact .error rfl
  · exact .error rfl

theorem settled_readNames (given : List Value) : Settled (readNames given) := by
  unfold readNames
  dsimp only
  split
  · exact .error rfl
  · refine .mapM (fun value => ?_) given
    split
    · split
      · exact .ok _
      · exact .error rfl
    · exact .error rfl

theorem ForeignKey.settled_apply (k : ForeignKey) (call : ForeignKeyCall) :
    Settled (k.apply call) := by
  have action (given : Value) : Settled (ForeignKeyAction.ofValue given) := by
    unfold ForeignKeyAction.ofValue
    dsimp only
    split
    · exact .ok _
    · exact .error rfl
  cases call with
  | references columns => exact (settled_readNames columns).map _
  | on table => exact (settled_readTable table).map _
  | onDelete given | onUpdate given => exact (action given).bind fun _ => .ok _
  | cascade => exact .ok _
  | named name => exact (settled_readName name).map _

namespace Column

theorem settled_readSize (column : String) (given : Value) : Settled (readSize column given) := by
  unfold readSize
  split
  · split
    · exact .error rfl
    · exact .ok _
  · split
    · exact .ok _
    · exact .error rfl
  · exact .error rfl

theorem settled_readType (given : Value) : Settled (readType given) := by
  unfold readType
  split
  · split
    · exact .ok _
    · exact .error rfl
  · exact .error rfl

theorem settled_sized (c : Column) (given : Value) : Settled (c.sized given).1 := by
  unfold sized
  split
  · exact .ok _
  · split
    · exact .ok _
    · rename_i refused
      exact .error (settled_readSize c.name given _ refused)

theorem settled_textsOf (column : String) (given : List Value) :
    Settled (textsOf column given) := by
  induction given with
  | nil => exact .ok _
  | cons v rest ih =>
    cases v with
    | text s => exact ih.bind fun _ => .ok _
    | _ => exact .error rfl

theorem settled_valued (c : Column) (given : List Value) : Settled (c.valued given).1 := by
  have read : Settled (readValues c.name given) := by
    unfold readValues
    split
    · exact .error rfl
    · exact (settled_textsOf c.name _).map _
  unfold valued
  split
  · exact .ok _
  · rename_i refused
    exact .error (read _ refused)

/-- A column never refuses anything because of the primary key. -/
theorem settled_apply (c : Column) (call : ColumnCall) : Settled (c.apply call).1 := by
  cases call with
  | typed type length => exact settled_sized _ length
  | typedAs word length =>
    unfold apply
    dsimp only
    split
    · exact settled_sized _ length
    · rename_i refused
      exact .error (settled_readType word _ refused)
  | decimal precision scale =>
    unfold apply
    dsimp only
    split
    · exact .ok _
    · exact .error rfl
    · exact settled_sized _ _
    · exact settled_sized _ _
  | enum values => exact settled_valued _ values
  | set values => exact settled_valued _ values
  | length given =>
    unfold apply
    dsimp only
    split
    · exact .ok _
    · rename_i refused
      exact .error (settled_readSize c.name given _ refused)
  | default value => cases value <;> exact .ok _
  | check expression =>
    unfold apply
    dsimp only
    split
    · exact .error rfl
    · exact .ok _
  | auto | primary | unsigned | null | notNull | useCurrent | unique | index | comment =>
    exact .ok _

end Column

namespace Blueprint

theorem settled_requireOpen (b : Blueprint) : Settled b.requireOpen := by
  unfold requireOpen
  split
  · exact .error rfl
  · exact .ok _

theorem settled_getColumn (b : Blueprint) (given : Value) : Settled (b.getColumn given) := by
  unfold getColumn
  split
  · split
    · exact .ok _
    · exact .error rfl
  · exact .error rfl

theorem settled_newName (b : Blueprint) (given : Value) : Settled (b.newName given) := by
  refine b.settled_requireOpen.bind fun _ => ?_
  split
  · split
    · exact .error rfl
    · exact settled_readName _
  · exact .error rfl

theorem settled_readOption (b : Blueprint) (given : Value) : Settled (b.readOption given) := by
  refine b.settled_requireOpen.bind fun _ => ?_
  split
  · split
    · exact .ok _
    · exact .error rfl
  · exact .error rfl

theorem settled_attempt {r : Except Error Blueprint} (h : Settled r) :
    Settled (b.attempt r).1 := by
  cases r with
  | ok next => exact .ok _
  | error e => exact .error (h e rfl)

/-- A claim is refused exactly if another owner holds the key. -/
theorem claim_eq_error {claimant : String} {e : Error} :
    b.claim claimant = .error e ↔
      ∃ owner, b.owner = some owner ∧ owner ≠ claimant ∧
        e = .duplicatePrimaryKey b.table owner claimant := by
  unfold claim
  cases b.owner with
  | none => simp
  | some owner =>
    dsimp only
    split
    · rename_i same
      simp [same]
    · rename_i other
      simp [other, eq_comm (a := e)]

/-- For whom a call claims the primary key, if it does. What is asked for has to be there, and what
is given has to be a name. -/
def claimant? (b : Blueprint) : BlueprintCall → Option (Except Error String)
  | .onColumn name call =>
    if call.claims then some ((b.getColumn (.text name)).map (·.name)) else none
  | .primary given => some ((readNames given).map listOwner)
  | .id given | .increments given => some (b.newName given)
  | _ => none

theorem settled_declare {name : String} {call : ColumnCall} (free : call.claims = false) :
    Settled (b.declare name call).1 := by
  have received : Settled (b.receiver name call) := by
    refine b.settled_requireOpen.bind fun _ => (b.settled_getColumn _).bind fun c => ?_
    rw [free]
    exact .ok _
  unfold declare
  split
  · exact Column.settled_apply _ call
  · rename_i refused
    exact .error (received _ refused)

theorem settled_declareAll {name : String} {calls : List ColumnCall}
    (free : ∀ call ∈ calls, call.claims = false) : Settled (b.declareAll name calls).1 := by
  induction calls generalizing b with
  | nil => exact .ok _
  | cons call rest ih =>
    obtain ⟨here, later⟩ := List.forall_mem_cons.mp free
    have first : Settled (b.declare name call).1 := settled_declare here
    unfold declareAll
    split
    · exact ih later
    · exact first

theorem settled_addDeclared {given : Value} {calls : List ColumnCall}
    (free : ∀ call ∈ calls, call.claims = false) : Settled (b.addDeclared given calls).1 := by
  unfold addDeclared
  split
  · exact settled_declareAll free
  · rename_i refused
    exact .error (b.settled_newName given _ refused)

/-- A call that claims nothing is never refused because of the primary key. -/
theorem settled_apply {call : BlueprintCall} (unclaimed : b.claimant? call = none) :
    Settled (b.apply call).1 := by
  have stamps : ∀ call ∈ [ColumnCall.typed .timestamp .null, .null],
      call.claims = false := by decide
  cases call with
  | column name => exact settled_addDeclared (by simp)
  | onColumn name call =>
    refine settled_declare ?_
    unfold claimant? at unclaimed
    dsimp only at unclaimed
    split at unclaimed
    · cases unclaimed
    · rename_i free
      simpa using free
  | onForeignKey place call =>
    refine settled_attempt (b.settled_requireOpen.bind fun _ => ?_)
    split
    · exact (ForeignKey.settled_apply _ call).map _
    · exact .ok _
  | id name => cases unclaimed
  | increments name => cases unclaimed
  | uid name => exact settled_addDeclared (by decide)
  | timestamps =>
    have first : Settled (b.addDeclared (.text "created_at") _).1 := settled_addDeclared stamps
    unfold apply
    dsimp only
    split
    · exact settled_addDeclared stamps
    · exact first
  | softDeletes name => exact settled_addDeclared stamps
  | primary columns => cases unclaimed
  | index columns unique name =>
    refine settled_attempt (b.settled_requireOpen.bind fun _ => .bind ?_ fun _ =>
      (settled_readNames columns).bind fun _ => .ok _)
    cases name with
    | none => exact .ok _
    | some given => exact (settled_readName given).map _
  | foreign columns =>
    exact settled_attempt (b.settled_requireOpen.bind fun _ =>
      (settled_readNames columns).bind fun _ => .ok _)
  | engine value | charset value | collation value =>
    exact settled_attempt ((b.settled_readOption value).map _)
  | lock => exact settled_attempt (b.settled_requireOpen.bind fun _ => .ok _)

theorem settled_claimant {call : BlueprintCall} {claimant : Except Error String}
    (h : b.claimant? call = some claimant) : Settled claimant := by
  cases call with
  | onColumn name call =>
    unfold claimant? at h
    dsimp only at h
    split at h
    · cases h
      exact (b.settled_getColumn _).map _
    · cases h
  | primary given =>
    cases h
    exact (settled_readNames given).map _
  | id given | increments given =>
    cases h
    exact b.settled_newName given
  | _ => cases h

/-- A claim ends as the look at the owner of the key ends. -/
theorem declare_of_claims {name : String} {call : ColumnCall} {free : Except Error Unit}
    (claims : call.claims = true) (received : b.receiver name call = free.map fun () => c) :
    (b.declare name call).1 = free := by
  unfold declare
  rw [received]
  cases free with
  | error e => rfl
  | ok _ => exact c.apply_of_claims claims

section Unlocked

variable (unlocked : b.locked = false)

include unlocked

/-- A declaration that claims nothing is received by every column that there is. -/
theorem receiver_of_found {name : String} (found : b.column? name = some c) (call : ColumnCall) :
    b.receiver name call = (if call.claims then b.claim c.name else .ok ()).map fun () => c := by
  unfold receiver
  rw [requireOpen_eq_ok.mpr unlocked, getColumn_text_eq_ok.mpr found]
  rfl

/-- A column that was just added is found under its name. -/
theorem receiver_addColumn (c : Column) (call : ColumnCall) :
    (b.addColumn c).receiver c.name call =
      (if call.claims then b.claim c.name else .ok ()).map fun () => c := by
  have place : (b.addColumn c).places.find? c.name = some b.columns.length := by
    rw [addColumn, Keyed.find?_put, if_pos rfl]
  have found : (b.addColumn c).column? c.name = some c :=
    column?_eq_some.mpr ⟨_, place, by simp [addColumn]⟩
  exact receiver_of_found (b := b.addColumn c) unlocked found call

/-- A declaration on a column that was just added is as if it had been made before. -/
theorem declare_addColumn (c : Column) (call : ColumnCall) (free : call.claims = false) :
    (b.addColumn c).declare c.name call = ((c.apply call).1, b.addColumn (c.apply call).2) := by
  have name := (c.follows_apply call).name
  have place : (b.addColumn c).places.find? c.name = some b.columns.length := by
    rw [addColumn, Keyed.find?_put, if_pos rfl]
  have set : (b.addColumn c).setColumn c.name (c.apply call).2 = b.addColumn (c.apply call).2 := by
    unfold setColumn
    rw [place]
    simp [addColumn, name]
  unfold declare
  rw [receiver_addColumn unlocked, free]
  simp only [Bool.false_eq_true, if_false, Except.map, set]
  rfl

/-- A column that counts by itself claims the key once it is there. -/
theorem addDeclared_counting (given : Value) (type : ColumnType) :
    (b.addDeclared given [.typed type .null, .unsigned, .auto]).1 =
      b.newName given >>= b.claim := by
  unfold addDeclared
  cases new : b.newName given with
  | error e => rfl
  | ok name =>
    have typed : (b.addColumn { name }).declare name (.typed type .null) =
        (.ok (), b.addColumn { name, type := some type }) :=
      declare_addColumn unlocked { name } _ rfl
    have unsigned : (b.addColumn { name, type := some type }).declare name .unsigned =
        (.ok (), b.addColumn { name, type := some type, unsigned := true }) :=
      declare_addColumn unlocked { name, type := some type } _ rfl
    have claimed : ((b.addColumn { name, type := some type, unsigned := true }).declare name
        .auto).1 = b.claim name :=
      declare_of_claims rfl (receiver_addColumn unlocked _ .auto)
    simp only [declareAll, typed, unsigned]
    split
    · rename_i last
      rw [last] at claimed
      exact claimed
    · exact claimed

/-- A call that claims the key fails as its claimant or the claim does. -/
theorem apply_of_claimant {call : BlueprintCall} {claimant : Except Error String}
    (h : b.claimant? call = some claimant) : (b.apply call).1 = claimant >>= b.claim := by
  have opened : b.requireOpen = .ok () := requireOpen_eq_ok.mpr unlocked
  cases call with
  | onColumn name call =>
    unfold claimant? at h
    dsimp only at h
    split at h
    · rename_i claims
      cases h
      change (b.declare name call).1 = _
      cases found : b.getColumn (.text name) with
      | error e =>
        unfold declare receiver
        rw [opened, found]
        rfl
      | ok c =>
        refine declare_of_claims (c := c) claims ?_
        rw [receiver_of_found unlocked (getColumn_text_eq_ok.mp found), if_pos claims]
        rfl
    · cases h
  | primary given =>
    cases h
    change (b.attempt (b.setPrimary given)).1 = _
    unfold setPrimary
    rw [opened]
    cases readNames given with
    | error e => rfl
    | ok names =>
      change (b.attempt (b.claim (listOwner names) >>= _)).1 = b.claim (listOwner names)
      cases b.claim (listOwner names) <;> rfl
  | id given | increments given =>
    cases h
    exact addDeclared_counting unlocked given _
  | _ => cases h

/-- On a definition that is not locked, a call is refused for a second primary key exactly if it
claims the key while another owner holds it. -/
theorem apply_duplicate_iff (call : BlueprintCall) (table owner claimant : String) :
    (b.apply call).1 = .error (.duplicatePrimaryKey table owner claimant) ↔
      b.claimant? call = some (.ok claimant) ∧ b.owner = some owner ∧ owner ≠ claimant ∧
        table = b.table := by
  cases claims : b.claimant? call with
  | none =>
    have settled := settled_apply claims
    refine ⟨fun refused => ?_, by simp⟩
    have free := settled _ refused
    cases free
  | some asked =>
    rw [apply_of_claimant unlocked claims]
    cases asked with
    | error e =>
      have settled := settled_claimant claims e rfl
      constructor
      · intro refused
        cases refused
        cases settled
      · rintro ⟨same, -⟩
        cases same
    | ok name =>
      change b.claim name = _ ↔ _
      rw [claim_eq_error]
      constructor
      · rintro ⟨holder, owned, other, same⟩
        cases same
        exact ⟨rfl, owned, other, rfl⟩
      · rintro ⟨same, owned, other, rfl⟩
        cases same
        exact ⟨owner, owned, other, rfl⟩

end Unlocked

end Blueprint

end Sqlwright
