import Sqlwright.Proofs.Schema.Claims
import Sqlwright.Proofs.Schema.History

/-!
The order of the declarations on a column. Only declarations about the same thing overrule each
other: those about the type, the size and the values, those about NULL and the default, checks, and
comments. Flags are raised and never lowered. So a column falls into facets, one for each concern,
each of which only the declarations of that concern change (`Column.facet_told`), and the order
matters only within a concern, among flags not at all. Main statement: `Blueprint.reordered_same`.
-/

namespace Sqlwright

variable {b next : Blueprint} {c : Column}

/-- What a declaration on a column is about. -/
inductive Concern
  | type | nullness | check | comment | flag
  deriving DecidableEq

def ColumnCall.concern : ColumnCall → Concern
  | .typed .. | .typedAs .. | .decimal .. | .enum _ | .set _ | .length _ => .type
  | .null | .notNull | .default _ | .useCurrent => .nullness
  | .check _ => .check
  | .comment _ => .comment
  | .unsigned | .auto | .primary | .unique | .index => .flag

namespace Column

/-- The part of a column that belongs to one concern, as a column of the same name. -/
def facet (c : Column) : Concern → Column
  | .type => { name := c.name, type := c.type, size := c.size, values := c.values }
  | .nullness => { name := c.name, declaredNull := c.declaredNull, default? := c.default? }
  | .check => { name := c.name, check := c.check }
  | .comment => { name := c.name, comment := c.comment }
  | .flag =>
    { name := c.name, unsigned := c.unsigned, auto := c.auto, primary := c.primary,
      unique := c.unique, indexed := c.indexed }

@[simp]
theorem name_facet (c : Column) (k : Concern) : (c.facet k).name = c.name := by
  cases k <;> rfl

/-- A column is its facets. -/
theorem eq_of_facet {c' : Column} (h : ∀ k, c.facet k = c'.facet k) : c = c' := by
  have type := h .type
  have nullness := h .nullness
  have check := h .check
  have comment := h .comment
  have flag := h .flag
  cases c
  cases c'
  simp only [facet, Column.mk.injEq] at type nullness check comment flag
  simp only [type, nullness, check, comment, flag]

/-- What a declaration about the type comes down to on any column: a type with a size or with values,
a type whose scale is refused, a size alone, or nothing. -/
inductive Typing (call : ColumnCall) : Prop
  | sized (type : ColumnType) (given : Value)
    (eq : ∀ c : Column, c.apply call = { c with type := some type }.sized given)
  | valued (type : ColumnType) (given : List Value)
    (eq : ∀ c : Column, c.apply call = { c with type := some type }.valued given)
  | scaleAlone (eq : ∀ c : Column, c.apply call =
      (.error (.scaleWithoutPrecision c.name), { c with type := some .decimal }))
  | length (given : Value) (eq : call = .length given)
  | unknown (e : Error) (eq : ∀ c : Column, c.apply call = (.error e, c))

/-- Every declaration about the type is one of these. -/
theorem typing {call : ColumnCall} (h : call.concern = .type) : Typing call := by
  cases call with
  | typed type length => exact .sized type length fun _ => rfl
  | typedAs word length =>
    cases read : readType word with
    | ok type => exact .sized type length fun c => by rw [apply, read]
    | error e => exact .unknown e fun c => by rw [apply, read]
  | decimal precision scale =>
    by_cases whole : scale = .null
    · subst whole
      exact .sized .decimal precision fun c => by cases precision <;> rfl
    · by_cases bare : precision = .null
      · subst bare
        exact .scaleAlone fun c => by cases scale <;> first | rfl | exact absurd rfl whole
      · refine .sized .decimal (.text (precision.plain ++ "," ++ scale.plain)) fun c => ?_
        unfold apply
        dsimp only
        split
        · exact absurd rfl bare
        · exact absurd rfl bare
        · exact absurd rfl whole
        · rfl
  | enum values => exact .valued .enum values fun _ => rfl
  | set values => exact .valued .set values fun _ => rfl
  | length given => exact .length given rfl
  | _ => cases h

section Answers

variable {c' : Column} (same : c'.name = c.name)

include same

theorem sized_of_name (type : Option ColumnType) (given : Value) :
    ({ c' with type }.sized given).1 = ({ c with type }.sized given).1 := by
  unfold sized
  dsimp only
  rw [same]
  split
  · rfl
  · split <;> rfl

theorem valued_of_name (type : Option ColumnType) (given : List Value) :
    ({ c' with type }.valued given).1 = ({ c with type }.valued given).1 := by
  unfold valued
  dsimp only
  rw [same]
  split <;> rfl

/-- Whether a declaration is refused depends on nothing of the column but its name. -/
theorem Typing.of_name {call : ColumnCall} (h : Typing call) :
    (c'.apply call).1 = (c.apply call).1 := by
  cases h with
  | sized type given eq =>
    rw [eq, eq]
    exact sized_of_name same _ given
  | valued type given eq =>
    rw [eq, eq]
    exact valued_of_name same _ given
  | scaleAlone eq => rw [eq, eq, same]
  | length given eq =>
    subst eq
    unfold apply
    dsimp only
    rw [same]
    split <;> rfl
  | unknown e eq => rw [eq, eq]

/-- Whether a declaration is accepted, and how it is refused, is a matter of the name alone. -/
theorem apply_of_name (call : ColumnCall) : (c'.apply call).1 = (c.apply call).1 := by
  cases call with
  | typed | typedAs | decimal | enum | set | length => exact (typing rfl).of_name same
  | check expression =>
    unfold apply
    dsimp only
    rw [same]
    split <;> rfl
  | default value => cases value <;> rfl
  | auto | primary | unsigned | null | notNull | useCurrent | unique | index | comment => rfl

end Answers

section OwnFacet

theorem facet_sized (c : Column) (given : Value) :
    (c.sized given).2.facet .type = ((c.facet .type).sized given).2 := by
  unfold sized
  rw [name_facet]
  split
  · rfl
  · split <;> rfl

theorem facet_valued (c : Column) (given : List Value) :
    (c.valued given).2.facet .type = ((c.facet .type).valued given).2 := by
  unfold valued
  rw [name_facet]
  split <;> rfl

theorem Typing.facet_self {call : ColumnCall} (h : Typing call) (c : Column) :
    (c.apply call).2.facet .type = ((c.facet .type).apply call).2 := by
  cases h with
  | sized type given eq =>
    rw [eq, eq]
    exact facet_sized { c with type := some type } given
  | valued type given eq =>
    rw [eq, eq]
    exact facet_valued { c with type := some type } given
  | scaleAlone eq =>
    rw [eq, eq]
    rfl
  | length given eq =>
    subst eq
    unfold apply
    dsimp only
    rw [name_facet]
    split <;> rfl
  | unknown e eq => rw [eq, eq]

/-- What a declaration does to its own facet, it does by that facet. -/
theorem facet_apply_self (c : Column) (call : ColumnCall) :
    (c.apply call).2.facet call.concern = ((c.facet call.concern).apply call).2 := by
  cases call with
  | typed | typedAs | decimal | enum | set | length => exact (typing rfl).facet_self c
  | check expression =>
    unfold apply
    dsimp only
    split <;> rfl
  | default value => cases value <;> rfl
  | auto | primary | unsigned | null | notNull | useCurrent | unique | index | comment => rfl

end OwnFacet

section OtherFacets

variable {k : Concern}

/-- A declaration about the type leaves everything else as it is. -/
theorem Typing.facet_of_ne {call : ColumnCall} (h : Typing call) (other : .type ≠ k) :
    (c.apply call).2.facet k = c.facet k := by
  -- The type, the size and the values stand in no facet but their own.
  have kept (type : Option ColumnType) (size : Option Size) (values : List String) :
      { c with type, size, values }.facet k = c.facet k := by
    cases k <;> first | rfl | exact absurd rfl other
  cases h with
  | sized type given eq =>
    rw [eq]
    rcases sized_cases { c with type := some type } given with same | ⟨size, -, sized⟩
    · rw [same]
      exact kept (some type) c.size c.values
    · rw [sized]
      exact kept (some type) (some size) c.values
  | valued type given eq =>
    rw [eq]
    rcases valued_cases { c with type := some type } given with same | ⟨values, valued⟩
    · rw [same]
      exact kept (some type) c.size c.values
    · rw [valued]
      exact kept (some type) c.size values
  | scaleAlone eq =>
    rw [eq]
    exact kept (some .decimal) c.size c.values
  | length given eq =>
    subst eq
    unfold apply
    dsimp only
    split
    · exact kept c.type _ c.values
    · rfl
  | unknown e eq => rw [eq]

/-- A declaration leaves the facets of other concerns alone. -/
theorem facet_apply_of_ne {call : ColumnCall} (other : call.concern ≠ k) :
    (c.apply call).2.facet k = c.facet k := by
  cases call with
  | typed | typedAs | decimal | enum | set | length => exact (typing rfl).facet_of_ne other
  | check expression =>
    unfold apply
    dsimp only
    split
    · rfl
    · cases k <;> first | rfl | exact absurd rfl other
  | default value => cases value <;> cases k <;> first | rfl | exact absurd rfl other
  | auto | primary | unsigned | null | notNull | useCurrent | unique | index | comment =>
    cases k <;> first | rfl | exact absurd rfl other

end OtherFacets

/-- Each facet of a column after declarations is that facet after those of its concern. -/
theorem facet_told (c : Column) (calls : List ColumnCall) (k : Concern) :
    (c.told calls).facet k = (c.facet k).told (calls.filter (·.concern = k)) := by
  induction calls generalizing c with
  | nil => rfl
  | cons call rest ih =>
    rw [told_cons, ih]
    by_cases own : call.concern = k
    · subst own
      rw [List.filter_cons_of_pos (by simp), told_cons, facet_apply_self]
    · rw [List.filter_cons_of_neg (by simpa using own), facet_apply_of_ne own]

/-- Flags can be raised in any order. -/
theorem apply_flags (c : Column) {one other : ColumnCall} (hone : one.concern = .flag)
    (hother : other.concern = .flag) :
    ((c.apply one).2.apply other).2 = ((c.apply other).2.apply one).2 := by
  cases one with
  | auto | primary | unsigned | unique | index =>
    cases other with
    | auto | primary | unsigned | unique | index => rfl
    | _ => cases hother
  | _ => cases hone

/-- A flag that is up stays up. -/
theorem apply_flag_twice (c : Column) {flag : ColumnCall} (h : flag.concern = .flag) :
    ((c.apply flag).2.apply flag).2 = (c.apply flag).2 := by
  cases flag with
  | auto | primary | unsigned | unique | index => rfl
  | _ => cases h

end Column

/-- The same declarations in another order, which is the same among those of one concern, flags
apart. -/
structure Reordered (calls other : List ColumnCall) : Prop where
  perm : calls.Perm other
  order : ∀ k, k ≠ .flag → calls.filter (·.concern = k) = other.filter (·.concern = k)

namespace Reordered

variable {calls other : List ColumnCall}

/-- A column after declarations is the same whichever of the orders they come in. -/
theorem told (h : Reordered calls other) (c : Column) : c.told calls = c.told other := by
  refine Column.eq_of_facet fun k => ?_
  rw [Column.facet_told, Column.facet_told]
  by_cases flags : k = .flag
  · subst flags
    have flag : ∀ call ∈ calls.filter (·.concern = .flag), call.concern = .flag :=
      fun call member => by simpa using (List.mem_filter.mp member).2
    refine (h.perm.filter _).foldl_eq' (fun one hone other hother c => ?_) _
    exact c.apply_flags (flag one hone) (flag other hother)
  · rw [h.order k flags]

section Flags

variable {flag : ColumnCall} (raised : flag.concern = .flag) (before : List ColumnCall)

include raised

theorem filter_flag {k : Concern} (other : k ≠ .flag) (rest : List ColumnCall) :
    (flag :: rest).filter (·.concern = k) = rest.filter (·.concern = k) :=
  List.filter_cons_of_neg (by simpa [raised] using other.symm)

/-- A flag may be declared before or after any other declaration. -/
theorem flag_swap (call : ColumnCall) (after : List ColumnCall) :
    Reordered (before ++ flag :: call :: after) (before ++ call :: flag :: after) where
  perm := (List.Perm.swap call flag after).append_left before
  order := by
    intro k other
    rw [List.filter_append, List.filter_append, filter_flag raised other, List.filter_cons,
      List.filter_cons, filter_flag raised other]

/-- A flag that is declared again later may be declared twice at once. -/
theorem flag_front (between after : List ColumnCall) :
    Reordered (before ++ flag :: between ++ flag :: after)
      (before ++ flag :: flag :: (between ++ after)) where
  perm := by
    rw [List.append_assoc, List.cons_append]
    exact (List.perm_middle.cons flag).append_left before
  order := by
    intro k other
    simp only [List.filter_append, filter_flag raised other, List.append_assoc]

end Flags

end Reordered

namespace Blueprint

/-- The definition after declarations on the column that is found under a name, all of which are
accepted. -/
def declaredAll (b : Blueprint) (name : String) (c : Column) (calls : List ColumnCall) :
    Blueprint :=
  { b.setColumn name (c.told calls) with
    owner := if calls.any (·.claims) then some c.name else b.owner }

section Declared

variable {name : String} (found : b.column? name = some c) (call : ColumnCall)

include found

/-- A column that something was declared on is found under its name. -/
theorem column?_declared : (b.declared name c call).column? name = some (c.apply call).2 := by
  obtain ⟨place, stands, here⟩ := column?_eq_some.mp found
  rw [declared_eq stands]
  exact column?_eq_some.mpr
    ⟨place, stands, List.getElem?_set_self (List.getElem?_eq_some_iff.mp here).1⟩

/-- A column that has claimed the key may claim it again. -/
theorem claim_declared :
    (b.declared name c call).claim c.name = if call.claims then .ok () else b.claim c.name := by
  obtain ⟨place, stands, -⟩ := column?_eq_some.mp found
  rw [declared_eq stands]
  cases call.claims with
  | true => exact claim_eq_ok.mpr fun owner owned => (Option.some.inj owned).symm
  | false => rfl

theorem locked_declared : (b.declared name c call).locked = b.locked := by
  obtain ⟨place, stands, -⟩ := column?_eq_some.mp found
  rw [declared_eq stands]

theorem declaredAll_declared (rest : List ColumnCall) :
    (b.declared name c call).declaredAll name (c.apply call).2 rest =
      b.declaredAll name c (call :: rest) := by
  obtain ⟨place, stands, -⟩ := column?_eq_some.mp found
  rw [declared_eq stands, declaredAll, declaredAll, setColumn, setColumn, stands,
    Column.told_cons, (c.follows_apply call).name, List.any_cons]
  dsimp only
  rw [List.set_set]
  cases call.claims <;> cases rest.any (·.claims) <;> rfl

end Declared

section Accepted

variable {name : String}

/-- A declaration is accepted if there is a column of the name, which accepts it, and if no other
owner holds the key where it is claimed. -/
theorem declare_eq_ok {call : ColumnCall} :
    b.declare name call = (.ok (), next) ↔
      ∃ c, b.locked = false ∧ b.column? name = some c ∧ (c.apply call).1 = .ok () ∧
        (call.claims = true → b.claim c.name = .ok ()) ∧ b.declared name c call = next := by
  constructor
  · intro h
    unfold declare at h
    split at h
    · rename_i c received
      obtain ⟨unlocked, found, free⟩ := receiver_eq_ok received
      exact ⟨c, unlocked, found, congrArg Prod.fst h, free, congrArg Prod.snd h⟩
    · cases h
  · rintro ⟨c, unlocked, found, accepted, free, rfl⟩
    have received : b.receiver name call = .ok c := by
      rw [receiver_of_found unlocked found]
      split
      · rename_i claims
        rw [free claims]
        rfl
      · rfl
    rw [declare, received]
    exact Prod.ext accepted rfl

theorem declareAll_cons_eq_ok {call : ColumnCall} {rest : List ColumnCall} :
    b.declareAll name (call :: rest) = (.ok (), next) ↔
      ∃ middle, b.declare name call = (.ok (), middle) ∧
        middle.declareAll name rest = (.ok (), next) := by
  rw [declareAll]
  constructor
  · intro h
    split at h
    · rename_i middle declared
      exact ⟨middle, declared, h⟩
    · rename_i refused
      exact absurd h (refused next)
  · rintro ⟨middle, declared, h⟩
    rw [declared]
    exact h

/-- Declarations are accepted one after another if each would be by itself and the key is free where
one of them claims it. -/
theorem declareAll_eq_ok {calls : List ColumnCall} (unlocked : b.locked = false)
    (found : b.column? name = some c) :
    b.declareAll name calls = (.ok (), next) ↔
      (∀ call ∈ calls, (c.apply call).1 = .ok ()) ∧
        (calls.any (·.claims) = true → b.claim c.name = .ok ()) ∧
          b.declaredAll name c calls = next := by
  induction calls generalizing b c with
  | nil =>
    have same : b.declaredAll name c [] = b := by
      have set : b.setColumn name (c.told []) = b := setColumn_self found
      rw [declaredAll, set]
      rfl
    rw [same]
    simp [declareAll]
  | cons call rest ih =>
    -- The rest meets the column as the first declaration left it, which answers as before: by name.
    have opened : (b.declared name c call).locked = false :=
      (locked_declared found call).trans unlocked
    have named := (c.follows_apply call).name
    have each (other : ColumnCall) : ((c.apply call).2.apply other).1 = (c.apply other).1 :=
      Column.apply_of_name named other
    have tail : (b.declared name c call).declareAll name rest = (.ok (), next) ↔
        (∀ other ∈ rest, (c.apply other).1 = .ok ()) ∧
          (rest.any (·.claims) = true →
            (if call.claims then .ok () else b.claim c.name) = .ok ()) ∧
          b.declaredAll name c (call :: rest) = next := by
      rw [ih opened (column?_declared found call), named, claim_declared found,
        declaredAll_declared found]
      simp only [each]
    constructor
    · intro h
      obtain ⟨_, declared, h⟩ := declareAll_cons_eq_ok.mp h
      obtain ⟨c', -, found', accepted, free, rfl⟩ := declare_eq_ok.mp declared
      obtain rfl : c' = c := Option.some.inj (found'.symm.trans found)
      obtain ⟨later, claims, made⟩ := tail.mp h
      refine ⟨List.forall_mem_cons.mpr ⟨accepted, later⟩, fun any => ?_, made⟩
      cases claimed : call.claims with
      | true => exact free claimed
      | false =>
        rw [List.any_cons, claimed] at any
        rw [claimed] at claims
        exact claims any
    · rintro ⟨accepted, claims, made⟩
      obtain ⟨here, later⟩ := List.forall_mem_cons.mp accepted
      have free (claimed : call.claims = true) : b.claim c.name = .ok () :=
        claims (by rw [List.any_cons, claimed, Bool.true_or])
      have declared : b.declare name call = (.ok (), b.declared name c call) :=
        declare_eq_ok.mpr ⟨c, unlocked, found, here, free, rfl⟩
      refine declareAll_cons_eq_ok.mpr ⟨_, declared, tail.mpr ⟨later, fun any => ?_, made⟩⟩
      split
      · rfl
      · exact claims (by rw [List.any_cons, any, Bool.or_true])

/-- Where the same declarations are made, however often, and what becomes of a column is the same,
what becomes of the definition is the same. -/
theorem declareAll_of_told {calls other : List ColumnCall}
    (members : ∀ call, call ∈ calls ↔ call ∈ other)
    (told : ∀ c : Column, c.told calls = c.told other)
    (accepted : b.declareAll name calls = (.ok (), next)) :
    b.declareAll name other = (.ok (), next) := by
  cases calls with
  | nil =>
    obtain rfl : other = [] := List.eq_nil_iff_forall_not_mem.mpr fun call member =>
      List.not_mem_nil ((members call).mpr member)
    exact accepted
  | cons call rest =>
    obtain ⟨_, declared, -⟩ := declareAll_cons_eq_ok.mp accepted
    obtain ⟨c, unlocked, found, -⟩ := declare_eq_ok.mp declared
    have claims : other.any (·.claims) = (call :: rest).any (·.claims) := by
      rw [Bool.eq_iff_iff, List.any_eq_true, List.any_eq_true]
      exact exists_congr fun other => and_congr_left fun _ => (members other).symm
    have same : b.declaredAll name c other = b.declaredAll name c (call :: rest) := by
      rw [declaredAll, declaredAll, told c, claims]
    obtain ⟨each, free, made⟩ := (declareAll_eq_ok unlocked found).mp accepted
    refine (declareAll_eq_ok unlocked found).mpr ⟨fun call member => ?_, fun any => ?_, ?_⟩
    · exact each call ((members call).mpr member)
    · exact free (claims.symm.trans any)
    · exact same.trans made

end Accepted

/-- Two runs of declarations on the column of a name come to the same: if one is accepted, so is the
other, and they lead to the same definition, which has the same statements or is refused in the same
way on every database. -/
structure SameOn (b : Blueprint) (name : String) (calls other : List ColumnCall) : Prop where
  accepted : ∀ next, b.declareAll name calls = (.ok (), next) ↔
    b.declareAll name other = (.ok (), next)
  create : (b.declareAll name calls).1 = .ok () → ∀ d,
    (b.declareAll name other).2.compileCreate d = (b.declareAll name calls).2.compileCreate d
  add : (b.declareAll name calls).1 = .ok () → ∀ d,
    (b.declareAll name other).2.compileAdd d = (b.declareAll name calls).2.compileAdd d

namespace SameOn

variable {name : String} {calls other : List ColumnCall}

theorem of_told (members : ∀ call, call ∈ calls ↔ call ∈ other)
    (told : ∀ c : Column, c.told calls = c.told other) : b.SameOn name calls other := by
  have accepted (next : Blueprint) : b.declareAll name calls = (.ok (), next) ↔
      b.declareAll name other = (.ok (), next) :=
    ⟨declareAll_of_told members told,
      declareAll_of_told (fun call => (members call).symm) fun c => (told c).symm⟩
  have same (ok : (b.declareAll name calls).1 = .ok ()) :
      b.declareAll name other = b.declareAll name calls := by
    have reached : b.declareAll name calls = (.ok (), (b.declareAll name calls).2) :=
      Prod.ext ok rfl
    rw [(accepted _).mp reached, ← reached]
  exact ⟨accepted, fun ok d => by rw [same ok], fun ok d => by rw [same ok]⟩

/-- Declarations in another order say the same if each concern is told in its own order. -/
theorem of_reordered (h : Reordered calls other) : b.SameOn name calls other :=
  of_told (fun _ => h.perm.mem_iff) h.told

/-- A flag that is declared again counts once. -/
theorem flag_twice {flag : ColumnCall} (raised : flag.concern = .flag)
    (before between after : List ColumnCall) :
    b.SameOn name (before ++ flag :: between ++ flag :: after)
      (before ++ flag :: (between ++ after)) := by
  refine of_told (fun call => ?_) fun c => ?_
  · simp only [List.mem_append, List.mem_cons]
    tauto
  · rw [(Reordered.flag_front raised before between after).told, Column.told_append,
      Column.told_append, Column.told_cons, Column.told_cons, Column.told_cons,
      Column.apply_flag_twice _ raised]

end SameOn

/-- The declarations on a column come to the same in every order that keeps the order among those of
each concern, flags apart. A flag may change places with any other declaration, and may be declared
again at any time. -/
theorem reordered_same (b : Blueprint) (name : String) :
    (∀ calls other, Reordered calls other → b.SameOn name calls other) ∧
      ∀ flag : ColumnCall, flag.concern = .flag → ∀ before after,
        (∀ call, b.SameOn name (before ++ flag :: call :: after)
            (before ++ call :: flag :: after)) ∧
          ∀ between, b.SameOn name (before ++ flag :: between ++ flag :: after)
            (before ++ flag :: (between ++ after)) := by
  refine ⟨fun calls other => .of_reordered, fun flag raised before after => ⟨fun call => ?_, ?_⟩⟩
  · exact .of_reordered (.flag_swap raised before call after)
  · exact fun between => .flag_twice raised before between after

def rankings : Blueprint := addColumn { table := "rankings" } { name := "rank" }

def rankCalls : List ColumnCall :=
  [.typed .int .null, .unsigned, .auto, .default (.int 7), .check "rank > 0",
    .comment (some "from 1")]

theorem reordered_same_rank :
    (rankings.declareAll "rank" rankCalls.reverse).1 = .ok () ∧
      ∀ d, (rankings.declareAll "rank" rankCalls.reverse).2.compileCreate d =
        (rankings.declareAll "rank" rankCalls).2.compileCreate d := by
  have accepted : (rankings.declareAll "rank" rankCalls).1 = .ok () := rfl
  have reversed : Reordered rankCalls rankCalls.reverse := by
    refine ⟨(List.reverse_perm _).symm, fun k k_ne => ?_⟩
    cases k with
    | flag => exact absurd rfl k_ne
    | type | nullness | check | comment => rfl
  have same := (reordered_same rankings "rank").1 rankCalls rankCalls.reverse reversed
  have other := (same.accepted _).mp (Prod.ext accepted rfl)
  exact ⟨congrArg Prod.fst other, same.create accepted⟩

end Blueprint

end Sqlwright
