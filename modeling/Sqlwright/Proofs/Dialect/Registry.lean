import Mathlib.Data.List.Induction
import Mathlib.Data.List.Nodup
import Mathlib.Data.List.Pairwise
import Mathlib.Data.List.Perm.Basic
import Sqlwright.Dialect.Registry
import Sqlwright.Proofs.Outcome
import Sqlwright.Proofs.Text.LetterCase

/-!
Which dialect a name leads to, told from the registrations that were accepted, in their order. A
name leads to the dialect that was last registered under the name of the dialect that last claimed
it (`Registry.Reflects.get_eq_ok`). Where nothing is replaced, names lead to the dialects that have
them, for ever (`Registry.resolution_run`). Replacing may leave names behind, or take the name of
another dialect away from it (`Registry.coherent_run_iff`).
-/

namespace Sqlwright

open Text

structure Registration where
  dialect : Dialect
  replace : Bool := false

/-- The names of a dialect in lower case. -/
def Dialect.keys (d : Dialect) : List String := d.names.map lower

variable {r next : Registry} {d other : Dialect} {known : List Dialect} {key name : String}

theorem Dialect.mem_keys_of_mem (h : name ∈ d.names) : lower name ∈ d.keys := List.mem_map_of_mem h

theorem Dialect.lower_name_mem_keys (d : Dialect) : lower d.name ∈ d.keys :=
  mem_keys_of_mem List.mem_cons_self

namespace Registry

/-- The registry after a call. A refused one leaves it as it was. -/
def attempt (r : Registry) (call : Registration) : Registry :=
  match r.register call.dialect call.replace with
  | .ok next => next
  | .error _ => r

def run (r : Registry) (calls : List Registration) : Registry := calls.foldl attempt r

/-- The dialects of the calls that are accepted. -/
def accepted (r : Registry) : List Registration → List Dialect
  | [] => []
  | call :: rest =>
    match r.register call.dialect call.replace with
    | .ok next => call.dialect :: next.accepted rest
    | .error _ => r.accepted rest

/-- The dialect that was last registered with a key among its names. -/
def holder? (known : List Dialect) (key : String) : Option Dialect :=
  known.reverse.find? fun d => key ∈ d.keys

/-- The dialect that was last registered under a name of its own. -/
def named? (known : List Dialect) (name : String) : Option Dialect :=
  known.reverse.find? fun d => d.name = name

/-- The dialect that was registered last takes all of its names over. -/
theorem holder?_concat (known : List Dialect) (d : Dialect) (key : String) :
    holder? (known ++ [d]) key = if key ∈ d.keys then some d else holder? known key := by
  rw [holder?, List.reverse_concat, List.find?_cons, holder?]
  split <;> simp_all

/-- Under one name of its own there is the dialect that was registered last. -/
theorem named?_concat (known : List Dialect) (d : Dialect) (name : String) :
    named? (known ++ [d]) name = if d.name = name then some d else named? known name := by
  rw [named?, List.reverse_concat, List.find?_cons, named?]
  split <;> simp_all

theorem holder?_eq_some (h : holder? known key = some d) : d ∈ known ∧ key ∈ d.keys :=
  ⟨List.mem_reverse.mp (List.mem_of_find?_eq_some h), by simpa using List.find?_some h⟩

theorem named?_eq_some (h : named? known name = some d) : d ∈ known ∧ d.name = name :=
  ⟨List.mem_reverse.mp (List.mem_of_find?_eq_some h), by simpa using List.find?_some h⟩

theorem holder?_eq_none_iff : holder? known key = none ↔ ∀ d ∈ known, key ∉ d.keys := by
  simp [holder?, List.find?_eq_none]

theorem exists_named (h : d ∈ known) : ∃ other, named? known d.name = some other := by
  rw [← Option.isSome_iff_exists, named?, List.find?_isSome]
  exact ⟨d, List.mem_reverse.mpr h, by simp⟩

/-- The maps of a registry hold what was last registered. -/
structure Reflects (r : Registry) (known : List Dialect) : Prop where
  dialects : ∀ name, r.dialects.find? name = named? known name
  owners : ∀ key, r.owners.find? key = (holder? known key).map (·.name)
  distinct : r.dialects.keys.Nodup

theorem owners_add (r : Registry) (d : Dialect) (key : String) :
    (r.add d).owners.find? key = if key ∈ d.keys then some d.name else r.owners.find? key := by
  have each (names : List String) (owners : Keyed String) :
      (names.foldl (fun owners name => owners.put (lower name) d.name) owners).find? key =
        if key ∈ names.map lower then some d.name else owners.find? key := by
    induction names generalizing owners with
    | nil => simp
    | cons name rest ih =>
      rw [List.foldl_cons, ih, Keyed.find?_put]
      by_cases later : key ∈ rest.map lower
      · simp [later]
      · by_cases here : lower name = key
        · simp [here]
        · simp [later, here, Ne.symm here]
  exact each d.names r.owners

theorem dialects_add (r : Registry) (d : Dialect) (name : String) :
    (r.add d).dialects.find? name = if d.name = name then some d else r.dialects.find? name :=
  Keyed.find?_put d.name name d r.dialects

theorem reflects_empty : ({} : Registry).Reflects [] := ⟨fun _ => rfl, fun _ => rfl, .nil⟩

theorem register_eq_ok {replace : Bool} (h : r.register d replace = .ok next) : next = r.add d := by
  unfold register at h
  split at h
  · cases h
    rfl
  · split at h
    · cases h
    · split at h
      · cases h
      · cases h
        rfl

theorem run_append (r : Registry) (calls more : List Registration) :
    r.run (calls ++ more) = (r.run calls).run more := List.foldl_append

namespace Reflects

variable (h : r.Reflects known)

include h

theorem add (d : Dialect) : (r.add d).Reflects (known ++ [d]) where
  dialects := by
    intro name
    rw [dialects_add, named?_concat, h.dialects]
  owners := by
    intro key
    rw [owners_add, holder?_concat, h.owners]
    split <;> rfl
  distinct := Keyed.nodup_keys_put h.distinct d.name d

/-- After any registrations the registry reflects those that were accepted. -/
theorem run (calls : List Registration) :
    (r.run calls).Reflects (known ++ r.accepted calls) := by
  induction calls generalizing r known with
  | nil => simpa [accepted, Registry.run] using h
  | cons call rest ih =>
    rw [Registry.run, List.foldl_cons, attempt, accepted]
    split
    · rename_i next registered
      have step := h.add call.dialect
      rw [← register_eq_ok registered] at step
      simpa [Registry.run] using ih step
    · exact ih h

/-- A name leads to the dialect that was last registered under the name of its holder. -/
theorem get_eq_ok {s : String} : r.get s = .ok d ↔
    ∃ last, holder? known (lower s) = some last ∧ named? known last.name = some d := by
  have found : r.find? s = (holder? known (lower s)).bind fun last => named? known last.name := by
    unfold find?
    rw [h.owners]
    cases holder? known (lower s) with
    | none => rfl
    | some last => exact h.dialects last.name
  unfold get
  rw [found, ← Option.bind_eq_some_iff]
  cases (holder? known (lower s)).bind fun last => named? known last.name <;> simp

theorem contains_iff {s : String} :
    r.contains (.text s) = true ↔ ∃ d ∈ known, lower s ∈ d.keys := by
  rw [contains, Keyed.has, h.owners, Option.isSome_map, Option.isSome_iff_exists]
  constructor
  · rintro ⟨d, held⟩
    exact ⟨d, holder?_eq_some held⟩
  · rintro ⟨d, member, has⟩
    rw [← Option.isSome_iff_exists, Option.isSome_iff_ne_none]
    exact fun none => holder?_eq_none_iff.mp none d member has

/-- What is known can be got, whatever has been replaced. -/
theorem contains_iff_get (v : Value) : r.contains v = true ↔ ∃ d, r.getValue v = .ok d := by
  cases v with
  | text s =>
    rw [h.contains_iff]
    constructor
    · rintro ⟨d, member, has⟩
      cases held : holder? known (lower s) with
      | none => exact absurd has (holder?_eq_none_iff.mp held d member)
      | some last =>
        obtain ⟨current, found⟩ := exists_named (holder?_eq_some held).1
        exact ⟨current, h.get_eq_ok.mpr ⟨last, held, found⟩⟩
    · rintro ⟨d, got⟩
      obtain ⟨last, held, -⟩ := h.get_eq_ok.mp got
      exact ⟨last, holder?_eq_some held⟩
  | _ => simp [contains, getValue]

theorem mem_keys_iff : name ∈ r.dialects.keys ↔ ∃ d ∈ known, d.name = name := by
  rw [← Keyed.has_iff_mem_keys, Keyed.has, h.dialects, Option.isSome_iff_exists]
  constructor
  · rintro ⟨d, found⟩
    exact ⟨d, named?_eq_some found⟩
  · rintro ⟨d, member, rfl⟩
    exact exists_named member

/-- A name stands in the way exactly if the last dialect with it is another one. -/
theorem conflict?_eq_none_iff : r.conflict? d.name d.names = none ↔
    ∀ name ∈ d.names, ∀ last, holder? known (lower name) = some last → last.name = d.name := by
  rw [conflict?, List.findSome?_eq_none_iff]
  refine forall₂_congr fun name _ => ?_
  rw [h.owners]
  cases holder? known (lower name) <;> simp

theorem has_iff : r.dialects.has name = true ↔ ∃ d ∈ known, d.name = name := by
  rw [Keyed.has_iff_mem_keys, h.mem_keys_iff]

/-- Without replacing, a dialect is registered exactly if none of its names is known. -/
theorem register_eq_ok_iff :
    r.register d false = .ok next ↔
      (∀ key ∈ d.keys, holder? known key = none) ∧ next = r.add d := by
  constructor
  · intro registered
    refine ⟨fun key member => ?_, register_eq_ok registered⟩
    unfold register at registered
    rw [if_neg (by simp)] at registered
    split at registered
    · cases registered
    · rename_i free
      split at registered
      · cases registered
      · rename_i absent
        obtain ⟨name, inside, rfl⟩ := List.mem_map.mp member
        cases held : holder? known (lower name) with
        | none => rfl
        | some last =>
          have same := h.conflict?_eq_none_iff.mp free name inside last held
          exact absurd (h.has_iff.mpr ⟨last, (holder?_eq_some held).1, same⟩) absent
  · rintro ⟨unknown, rfl⟩
    have free : r.conflict? d.name d.names = none := by
      refine h.conflict?_eq_none_iff.mpr fun name inside last held => ?_
      rw [unknown _ (Dialect.mem_keys_of_mem inside)] at held
      cases held
    have absent : r.dialects.has d.name = false := by
      rw [← Bool.not_eq_true, h.has_iff]
      rintro ⟨other, member, same⟩
      have unheld := unknown _ d.lower_name_mem_keys
      rw [← same] at unheld
      exact holder?_eq_none_iff.mp unheld other member other.lower_name_mem_keys
    simp [register, free, absent]

end Reflects

/-- Registrations that replace nothing. -/
def plainly (dialects : List Dialect) : List Registration :=
  dialects.map fun dialect => { dialect }

/-- Dialects without a name in common. -/
def Apart (d other : Dialect) : Prop := ∀ key ∈ d.keys, key ∉ other.keys

instance : Std.Symm Apart := ⟨fun _ _ free key inside inside' => free key inside' inside⟩

section Apart

variable (apart : known.Pairwise Apart)

include apart

theorem eq_of_mem_keys (member : d ∈ known) (member' : other ∈ known) (has : key ∈ d.keys)
    (has' : key ∈ other.keys) : d = other := by
  by_contra different
  exact apart.forall member member' different key has has'

theorem holder?_eq (member : d ∈ known) (has : key ∈ d.keys) : holder? known key = some d := by
  cases held : holder? known key with
  | none => exact absurd has (holder?_eq_none_iff.mp held d member)
  | some last =>
    obtain ⟨inside, has'⟩ := holder?_eq_some held
    rw [eq_of_mem_keys apart inside member has' has]

theorem named?_eq (member : d ∈ known) : named? known d.name = some d := by
  obtain ⟨other, found⟩ := exists_named member
  obtain ⟨inside, same⟩ := named?_eq_some found
  have has : lower d.name ∈ other.keys := same ▸ other.lower_name_mem_keys
  rw [found, eq_of_mem_keys apart inside member has d.lower_name_mem_keys]

theorem nodup_names : (known.map (·.name)).Nodup := by
  refine List.pairwise_map.mpr (apart.imp fun {d other} free same => ?_)
  exact free _ d.lower_name_mem_keys (same ▸ other.lower_name_mem_keys)

/-- Dialects that are registered without replacing keep sharing no name. -/
theorem Reflects.apart_run (h : r.Reflects known) (dialects : List Dialect) :
    (known ++ r.accepted (plainly dialects)).Pairwise Apart := by
  induction dialects generalizing r known with
  | nil => simpa [plainly, accepted] using apart
  | cons d rest ih =>
    rw [plainly, List.map_cons, accepted, ← plainly]
    split
    · rename_i next registered
      obtain ⟨unknown, rfl⟩ := h.register_eq_ok_iff.mp registered
      have step : (known ++ [d]).Pairwise Apart := by
        refine List.pairwise_append.mpr ⟨apart, List.pairwise_singleton _ _, ?_⟩
        intro other member new inside key has has'
        obtain rfl := List.mem_singleton.mp inside
        exact holder?_eq_none_iff.mp (unknown key has') other member has
      simpa using ih step (h.add d)
    · exact ih apart h

end Apart

theorem register_eq_error {e : Error} (h : r.register d false = .error e) :
    e.kind = .configuration := by
  unfold register at h
  split at h
  · cases h
  · split at h
    · cases h
      rfl
    · split at h <;> cases h
      rfl

theorem mem_available : name ∈ r.available ↔ name ∈ r.dialects.keys := Error.mem_sortTexts

/-- A registry answers by the dialects that are registered: it refuses another that has one of their
names, gets each under any of its names, knows no other name, and lists them by their own names. -/
structure Faithful (r : Registry) (known : List Dialect) : Prop where
  knows : ∀ key, r.owners.has key = true ↔ ∃ d ∈ known, key ∈ d.keys
  refuses : ∀ d, (∃ e, r.register d false = .error e) ↔
    ∃ name ∈ d.names, r.owners.has (lower name) = true
  refusal : ∀ d e, r.register d false = .error e →
    e.kind = .configuration ∧ r.attempt { dialect := d } = r
  finds : ∀ d ∈ known, ∀ name ∈ d.names, ∀ s, SameLetters s name → r.get s = .ok d
  unknown : ∀ s, (∀ d ∈ known, lower s ∉ d.keys) →
    ∃ e, r.get s = .error e ∧ e.kind = .unsupportedDriver
  contains : ∀ v, r.contains v = true ↔ ∃ d, r.getValue v = .ok d
  available : r.available.Pairwise (· ≤ ·) ∧ r.available.Perm (known.map (·.name))

theorem Reflects.has_owner_iff (h : r.Reflects known) :
    r.owners.has key = true ↔ ∃ d ∈ known, key ∈ d.keys := by
  rw [Keyed.has, h.owners, Option.isSome_map, Option.isSome_iff_ne_none, ne_eq,
    holder?_eq_none_iff]
  simp

/-- Without names in common a registry answers by what it reflects. -/
theorem Reflects.faithful (h : r.Reflects known) (apart : known.Pairwise Apart) :
    r.Faithful known where
  knows key := h.has_owner_iff
  refuses d := by
    have accepted : (∃ next, r.register d false = .ok next) ↔
        ∀ key ∈ d.keys, holder? known key = none :=
      ⟨fun ⟨next, registered⟩ => (h.register_eq_ok_iff.mp registered).1,
        fun unknown => ⟨_, h.register_eq_ok_iff.mpr ⟨unknown, rfl⟩⟩⟩
    have refused : (∃ e, r.register d false = .error e) ↔
        ¬ ∃ next, r.register d false = .ok next := by
      cases r.register d false <;> simp
    rw [refused, accepted]
    simp [Dialect.keys, h.has_owner_iff, holder?_eq_none_iff]
  refusal d e refused := ⟨register_eq_error refused, by simp [attempt, refused]⟩
  finds d member name inside s same := by
    have has : lower s ∈ d.keys := same.lower ▸ Dialect.mem_keys_of_mem inside
    exact h.get_eq_ok.mpr ⟨d, holder?_eq apart member has, named?_eq apart member⟩
  unknown s free := by
    cases got : r.get s with
    | ok d =>
      obtain ⟨last, held, -⟩ := h.get_eq_ok.mp got
      rw [holder?_eq_none_iff.mpr free] at held
      cases held
    | error e =>
      unfold get at got
      split at got <;> cases got
      exact ⟨_, rfl, rfl⟩
  contains := h.contains_iff_get
  available := by
    refine ⟨Error.pairwise_sortTexts _, (List.mergeSort_perm _ _).trans ?_⟩
    refine (List.perm_ext_iff_of_nodup h.distinct (nodup_names apart)).mpr fun name => ?_
    rw [h.mem_keys_iff, List.mem_map]

/-- Whatever dialects are registered one after another without replacing, refused ones included, the
registry answers by those that it accepted, and a name that leads to a dialect leads to it
whatever else is registered. -/
theorem faithful_run (dialects more : List Dialect) :
    (run {} (plainly dialects)).Faithful (accepted {} (plainly dialects)) ∧
      ∀ s d, (run {} (plainly dialects)).get s = .ok d →
        (run {} (plainly (dialects ++ more))).get s = .ok d := by
  have before := reflects_empty.run (plainly dialects)
  have apart := reflects_empty.apart_run .nil dialects
  rw [List.nil_append] at before apart
  refine ⟨before.faithful apart, fun s d got => ?_⟩
  obtain ⟨last, held, found⟩ := before.get_eq_ok.mp got
  obtain ⟨member, has⟩ := holder?_eq_some held
  obtain rfl : last = d := Option.some.inj ((named?_eq apart member).symm.trans found)
  have after := before.run (plainly more)
  have apart' := before.apart_run apart more
  rw [plainly, List.map_append, ← plainly, ← plainly, run_append]
  have stays : last ∈ accepted {} (plainly dialects) ++
      (run {} (plainly dialects)).accepted (plainly more) := List.mem_append_left _ member
  exact after.get_eq_ok.mpr ⟨last, holder?_eq apart' stays has, named?_eq apart' stays⟩

/-- A dialect of another name that has the name of one known from the start among its own. -/
def lite : Dialect := { Dialect.sqlite with name := "lite", aliases := ["SQLite"] }

theorem faithful_run_lite :
    accepted {} (plainly [Dialect.mysql, Dialect.sqlite, lite]) = [Dialect.mysql, Dialect.sqlite] ∧
      (run {} (plainly [Dialect.mysql, Dialect.sqlite, lite])).get "MariaDB" = .ok Dialect.mysql ∧
      (run {} (plainly ([Dialect.mysql, Dialect.sqlite, lite] ++ [Dialect.pgsql]))).get "MariaDB" =
        .ok Dialect.mysql := by
  have registered : accepted {} (plainly [Dialect.mysql, Dialect.sqlite, lite]) =
      [Dialect.mysql, Dialect.sqlite] := rfl
  obtain ⟨faithful, forever⟩ :=
    faithful_run [Dialect.mysql, Dialect.sqlite, lite] [Dialect.pgsql]
  rw [registered] at faithful
  have got := faithful.finds Dialect.mysql (by simp) "mariadb" (by decide) "MariaDB" (by decide)
  exact ⟨registered, got, forever _ _ got⟩

/-- A registry in which each dialect that is listed is got under its own name, and each name that is
known is a name of the dialect that is got. -/
structure Coherent (r : Registry) : Prop where
  available : ∀ name ∈ r.available, ∃ d, r.dialects.find? name = some d ∧ r.get name = .ok d
  contains : ∀ s, r.contains (.text s) = true → ∃ d, r.get s = .ok d ∧ lower s ∈ d.keys

/-- Another dialect was registered later with this one's own name among its names. -/
def Taken (known : List Dialect) (name : String) : Prop :=
  ∃ last, holder? known (lower name) = some last ∧ last.name ≠ name

/-- The dialect that holds a key was registered again later without it. -/
def Dropped (known : List Dialect) (key : String) : Prop :=
  ∃ last current, holder? known key = some last ∧ named? known last.name = some current ∧
    key ∉ current.keys

theorem taken_concat : Taken (known ++ [d]) name ↔
    if lower name ∈ d.keys then d.name ≠ name else Taken known name := by
  unfold Taken
  rw [holder?_concat]
  split <;> simp

/-- A key is dropped by a dialect of the same name without it, until it is a key again. -/
theorem dropped_concat : Dropped (known ++ [d]) key ↔
    key ∉ d.keys ∧ ((∃ last, holder? known key = some last ∧ last.name = d.name) ∨
      Dropped known key) := by
  unfold Dropped
  simp only [holder?_concat, named?_concat]
  constructor
  · rintro ⟨last, current, held, found, dropped⟩
    split at held <;> rename_i has
    · obtain rfl := Option.some.inj held
      rw [if_pos rfl] at found
      cases found
      exact absurd has dropped
    · refine ⟨has, ?_⟩
      split at found <;> rename_i same
      · exact Or.inl ⟨last, held, same.symm⟩
      · exact Or.inr ⟨last, current, held, found, dropped⟩
  · rintro ⟨free, left⟩
    simp only [if_neg free]
    rcases left with ⟨last, held, same⟩ | ⟨last, current, held, found, dropped⟩
    · exact ⟨last, d, held, if_pos same.symm, free⟩
    · by_cases same : d.name = last.name
      · exact ⟨last, d, held, if_pos same, free⟩
      · exact ⟨last, current, held, (if_neg same).trans found, dropped⟩

/-- A registry is coherent exactly if no dialect has lost its own name, and none has left a key
behind. -/
theorem Reflects.coherent_iff (h : r.Reflects known) :
    r.Coherent ↔ (∀ d ∈ known, ¬ Taken known d.name) ∧ ∀ key, ¬ Dropped known key := by
  constructor
  · intro coherent
    constructor
    · rintro d member ⟨last, held, other⟩
      obtain ⟨found, there, got⟩ := coherent.available d.name
        (mem_available.mpr (h.mem_keys_iff.mpr ⟨d, member, rfl⟩))
      obtain ⟨last', held', current⟩ := h.get_eq_ok.mp got
      obtain rfl : last = last' := Option.some.inj (held.symm.trans held')
      rw [h.dialects] at there
      exact other ((named?_eq_some current).2.symm.trans (named?_eq_some there).2)
    · rintro key ⟨last, current, held, found, dropped⟩
      obtain ⟨member, has⟩ := holder?_eq_some held
      obtain ⟨name, -, rfl⟩ := List.mem_map.mp has
      obtain ⟨d, got, kept⟩ := coherent.contains name (h.contains_iff.mpr ⟨last, member, has⟩)
      have current_eq : r.get name = .ok current := h.get_eq_ok.mpr ⟨last, held, found⟩
      rw [current_eq] at got
      cases got
      exact dropped kept
  · rintro ⟨own, kept⟩
    constructor
    · intro name listed
      obtain ⟨d, member, rfl⟩ := h.mem_keys_iff.mp (mem_available.mp listed)
      obtain ⟨current, found⟩ := exists_named member
      cases held : holder? known (lower d.name) with
      | none => exact absurd d.lower_name_mem_keys (holder?_eq_none_iff.mp held d member)
      | some last =>
        have same : last.name = d.name := by
          by_contra other
          exact own d member ⟨last, held, other⟩
        exact ⟨current, (h.dialects _).trans found,
          h.get_eq_ok.mpr ⟨last, held, same ▸ found⟩⟩
    · intro s contained
      obtain ⟨d, got⟩ := (h.contains_iff_get (.text s)).mp contained
      obtain ⟨last, held, found⟩ := h.get_eq_ok.mp got
      refine ⟨d, got, ?_⟩
      by_contra dropped
      exact kept (lower s) ⟨last, d, held, found, dropped⟩

/-- A dialect that takes the own name of no other dialect and has the names that led to its own. -/
structure Respects (r : Registry) (d : Dialect) : Prop where
  own : ∀ name ∈ r.available, name ≠ d.name → lower name ∉ d.keys
  kept : ∀ key, r.owners.find? key = some d.name → key ∈ d.keys

section Coherence

variable (h : r.Reflects known)

include h

/-- Registered over whatever has its names, a dialect leaves a coherent registry coherent exactly if
it respects the names in it. -/
theorem Reflects.coherent_add_iff (coherent : r.Coherent) (d : Dialect) :
    (r.add d).Coherent ↔ r.Respects d := by
  obtain ⟨own, kept⟩ := h.coherent_iff.mp coherent
  have fields : r.Respects d ↔ (∀ name ∈ r.available, name ≠ d.name → lower name ∉ d.keys) ∧
      ∀ key, r.owners.find? key = some d.name → key ∈ d.keys :=
    ⟨fun ⟨own, kept⟩ => ⟨own, kept⟩, fun ⟨own, kept⟩ => ⟨own, kept⟩⟩
  have leads (key : String) : r.owners.find? key = some d.name ↔
      ∃ last, holder? known key = some last ∧ last.name = d.name := by
    rw [h.owners, Option.map_eq_some_iff]
  rw [(h.add d).coherent_iff, fields]
  refine and_congr ?_ (forall_congr' fun key => ?_)
  · simp only [taken_concat, List.forall_mem_append, List.forall_mem_singleton, mem_available,
      h.mem_keys_iff]
    constructor
    · rintro ⟨others, -⟩ name ⟨other, member, rfl⟩ different has
      have free := others other member
      rw [if_pos has, not_not] at free
      exact different free.symm
    · intro free
      refine ⟨fun other member => ?_, by simp [d.lower_name_mem_keys]⟩
      split <;> rename_i has
      · rw [not_not]
        by_contra different
        exact free other.name ⟨other, member, rfl⟩ (Ne.symm different) has
      · exact own other member
  · rw [dropped_concat, leads, or_iff_left (kept key), not_and', not_not]

/-- What is registered without replacing has no name that is known. -/
theorem Reflects.respects_of_register (registered : r.register d false = .ok next) :
    r.Respects d := by
  obtain ⟨unknown, -⟩ := h.register_eq_ok_iff.mp registered
  constructor
  · intro name listed _ has
    obtain ⟨other, member, rfl⟩ := h.mem_keys_iff.mp (mem_available.mp listed)
    exact holder?_eq_none_iff.mp (unknown _ has) other member other.lower_name_mem_keys
  · intro key led
    rw [h.owners, Option.map_eq_some_iff] at led
    obtain ⟨last, held, same⟩ := led
    have has := unknown _ d.lower_name_mem_keys
    rw [← same] at has
    exact absurd last.lower_name_mem_keys
      (holder?_eq_none_iff.mp has last (holder?_eq_some held).1)

/-- Only a replacement can make a coherent registry incoherent. -/
theorem Reflects.coherent_attempt_iff (coherent : r.Coherent) (call : Registration) :
    (r.attempt call).Coherent ↔ (call.replace = true → r.Respects call.dialect) := by
  obtain ⟨d, replace⟩ := call
  cases replace with
  | true =>
    have replaced : r.attempt { dialect := d, replace := true } = r.add d := rfl
    rw [replaced, h.coherent_add_iff coherent]
    simp
  | false =>
    refine iff_of_true ?_ nofun
    unfold attempt
    dsimp only
    split
    · rename_i next registered
      rw [register_eq_ok registered]
      exact (h.coherent_add_iff coherent d).mpr (h.respects_of_register registered)
    · exact coherent

end Coherence

/-- Whatever is registered, a name leads to the dialect that was last registered under the own name
of the dialect that last had it. The registry is coherent exactly if no dialect that was registered
has had its own name taken by another, and none was registered again without a name that still leads
to it. One call breaks a coherent registry exactly if it replaces and does not respect its names. -/
theorem coherent_run_iff (calls : List Registration) :
    let known := accepted {} calls
    let r := run {} calls
    (∀ s d, r.get s = .ok d ↔
      ∃ last, holder? known (lower s) = some last ∧ named? known last.name = some d) ∧
    (r.Coherent ↔ (∀ d ∈ known, ¬ Taken known d.name) ∧ ∀ key, ¬ Dropped known key) ∧
    (r.Coherent → ∀ call, (r.attempt call).Coherent ↔
      (call.replace = true → r.Respects call.dialect)) := by
  have reflects := reflects_empty.run calls
  rw [List.nil_append] at reflects
  exact ⟨fun _ _ => reflects.get_eq_ok, reflects.coherent_iff, reflects.coherent_attempt_iff⟩

theorem coherent_empty : ({} : Registry).Coherent where
  available _ listed := absurd (mem_available.mp listed) List.not_mem_nil
  contains _ known := absurd known Bool.false_ne_true

def wider : Dialect := { Dialect.sqlite with aliases := "lite" :: Dialect.sqlite.aliases }

theorem coherent_run_iff_wider :
    (run {} (plainly [Dialect.sqlite])).Coherent ∧
      (run {} [{ dialect := Dialect.sqlite }, { dialect := wider, replace := true }]).Coherent := by
  have first : (run {} (plainly [Dialect.sqlite])).Coherent :=
    ((coherent_run_iff []).2.2 coherent_empty { dialect := Dialect.sqlite }).mpr nofun
  have respects : (run {} (plainly [Dialect.sqlite])).Respects wider := by
    have only : (run {} (plainly [Dialect.sqlite])).dialects.keys = ["sqlite"] := rfl
    constructor
    · intro name listed other
      rw [mem_available, only, List.mem_singleton] at listed
      exact absurd listed other
    · intro key led
      rw [(reflects_empty.run (plainly [Dialect.sqlite])).owners] at led
      obtain ⟨last, held, -⟩ := Option.map_eq_some_iff.mp led
      obtain ⟨member, has⟩ := holder?_eq_some held
      obtain rfl : last = Dialect.sqlite := List.mem_singleton.mp member
      exact (by decide : ∀ key ∈ Dialect.sqlite.keys, key ∈ wider.keys) key has
  exact ⟨first, ((coherent_run_iff (plainly [Dialect.sqlite])).2.2 first
    { dialect := wider, replace := true }).mpr fun _ => respects⟩

def bare : Dialect := { Dialect.sqlite with aliases := [] }

def replaced (d other : Dialect) : Registry :=
  run {} [{ dialect := d }, { dialect := other, replace := true }]

/-- Replacing leaves a name behind that the dialect has no more, and takes the name of another
dialect away from it. -/
theorem incoherent_replaced :
    ((replaced Dialect.sqlite bare).contains (.text "sqlite3") = true ∧
      (replaced Dialect.sqlite bare).get "sqlite3" = .ok bare ∧
      lower "sqlite3" ∉ bare.keys ∧ ¬ (replaced Dialect.sqlite bare).Coherent) ∧
    "sqlite" ∈ (replaced Dialect.sqlite lite).available ∧
      (replaced Dialect.sqlite lite).dialects.find? "sqlite" = some Dialect.sqlite ∧
      (replaced Dialect.sqlite lite).get "sqlite" = .ok lite ∧
      ¬ (replaced Dialect.sqlite lite).Coherent := by
  have listed : "sqlite" ∈ (replaced Dialect.sqlite lite).available :=
    mem_available.mpr (by decide : "sqlite" ∈ ["sqlite", "lite"])
  refine ⟨⟨rfl, rfl, by decide, ?_⟩, listed, rfl, rfl, ?_⟩
  · rintro ⟨-, contains⟩
    obtain ⟨d, got, has⟩ := contains "sqlite3" rfl
    obtain rfl : bare = d := Except.ok.inj got
    exact absurd has (by decide)
  · rintro ⟨available, -⟩
    obtain ⟨d, found, got⟩ := available "sqlite" listed
    obtain rfl : lite = d := Except.ok.inj got
    have same : Dialect.sqlite = lite := Option.some.inj found
    exact absurd (congrArg Dialect.name same) (by decide)

end Registry

end Sqlwright
