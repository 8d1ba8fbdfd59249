import Sqlwright.Dialect.BuiltIn
import Sqlwright.Proofs.Query.Sending

/-!
Redaction leaves no secret and changes nothing else. A value is looked at place by place: the value
itself, the members of a list and the entries of a mapping with their keys, and so on inwards. What
redaction does to the places inside a value is what it does to each of them, up to the first secret
on the way (`Place.at?_redacted`), and everything that is reported or logged during a run has been
redacted. Main statement: `Redaction.hides_secrets`.
-/

namespace Sqlwright

namespace Redaction

/-- A value, and the key that it stands under. Only the entries of mappings have one. -/
structure Place where
  key : Option String
  value : Value

/-- Whether a value is a text with a telling word, or octets that read as one. -/
def isTelling : Value → Bool
  | .text s => isSensitive s
  | .octets bytes => isSensitiveOctets bytes
  | _ => false

/-- The places right inside a value. -/
def inside : Value → List Place
  | .list items | .tuple items => items.map fun item => ⟨none, item⟩
  | .map entries => entries.map fun entry => ⟨some entry.1.plain, entry.2⟩
  | _ => []

/-- What is seen of a value from outside: a leaf as it is, and of lists and mappings the kind, the
number of members and the keys. -/
def outline : Value → Value
  | .list items => .list (items.map fun _ => .null)
  | .tuple items => .tuple (items.map fun _ => .null)
  | .map entries => .map (entries.map fun entry => (entry.1, .null))
  | leaf => leaf

namespace Place

/-- Whether a place is a secret, by its key or by its value. -/
def isSecret (p : Place) : Bool := p.key.any isSensitiveKey || isTelling p.value

def redacted (p : Place) : Place where
  key := p.key
  value :=
    match p.key with
    | none => redact p.value
    | some key => redactUnder key p.value

theorem redacted_item (v : Value) : redacted ⟨none, v⟩ = ⟨none, redact v⟩ := rfl

theorem redacted_entry (key : String) (v : Value) :
    redacted ⟨some key, v⟩ = ⟨some key, redactUnder key v⟩ :=
  rfl

/-- The place at the end of a path inwards. -/
def at? : Place → List Nat → Option Place
  | p, [] => some p
  | p, i :: path => ((inside p.value)[i]?).bind fun q => q.at? path

def above : Place → List Nat → List Place
  | _, [] => []
  | p, i :: path => p :: ((inside p.value)[i]?).elim [] fun q => q.above path

/-- A place that shows no secret. -/
structure Clean (p : Place) : Prop where
  key : ∀ key, p.key = some key → isSensitiveKey key = true → p.value = .text hidden
  value : isTelling p.value = false

end Place

/-- A value in which no place shows a secret. -/
def Unrevealing (v : Value) : Prop :=
  ∀ path q, Place.at? ⟨none, v⟩ path = some q → q.Clean

section Value

variable {v : Value}

/-- What stands in the place of a secret is none. -/
theorem isTelling_hidden : isTelling (.text hidden) = false := by decide +kernel

theorem redact_of_telling (telling : isTelling v = true) : redact v = .text hidden := by
  cases v with
  | text s =>
    rw [isTelling] at telling
    rw [redact, if_pos telling]
  | octets bytes =>
    rw [isTelling] at telling
    rw [redact, if_pos telling]
  | _ => cases telling

theorem redact_text {s : String} (silent : isTelling (.text s) = false) :
    redact (.text s) = .text s := by
  rw [isTelling] at silent
  rw [redact, if_neg (by simp [silent])]

theorem redact_octets {bytes : List UInt8} (silent : isTelling (.octets bytes) = false) :
    redact (.octets bytes) = .octets bytes := by
  rw [isTelling] at silent
  rw [redact, if_neg (by simp [silent])]

/-- Redaction goes on member by member. -/
theorem inside_redact (silent : isTelling v = false) :
    inside (redact v) = (inside v).map Place.redacted := by
  cases v with
  | list items | tuple items =>
    simp [inside, redact, redactAll_eq_map, Place.redacted_item, Function.comp_def]
  | map entries =>
    simp [inside, redact, redactEntries_eq_map, Place.redacted_entry, Function.comp_def]
  | text s =>
    rw [redact_text silent]
    rfl
  | octets bytes =>
    rw [redact_octets silent]
    rfl
  | _ => rfl

/-- Where no secret is seen at once, redaction keeps what a value looks like from outside. -/
theorem outline_redact (silent : isTelling v = false) : outline (redact v) = outline v := by
  cases v with
  | list items | tuple items =>
    simp only [redact, redactAll_eq_map, outline, List.map_map]
    rfl
  | map entries =>
    simp only [redact, redactEntries_eq_map, outline, List.map_map]
    rfl
  | text s => rw [redact_text silent]
  | octets bytes => rw [redact_octets silent]
  | _ => rfl

/-- What stands for a secret tells none. -/
theorem isTelling_redact (v : Value) : isTelling (redact v) = false := by
  cases telling : isTelling v with
  | true =>
    rw [redact_of_telling telling]
    exact isTelling_hidden
  | false =>
    cases v with
    | text s => rwa [redact_text telling]
    | octets bytes => rwa [redact_octets telling]
    | _ => rfl

theorem redactUnder_redactUnder (key : String) (again : redact (redact v) = redact v) :
    redactUnder key (redactUnder key v) = redactUnder key v := by
  unfold redactUnder
  split
  · rfl
  · exact again

mutual

/-- The induction is on the value. -/
theorem redact_redact : (v : Value) → redact (redact v) = redact v
  | .list items => congrArg Value.list (redactAll_redactAll items)
  | .tuple items => congrArg Value.tuple (redactAll_redactAll items)
  | .map entries => congrArg Value.map (redactEntries_redactEntries entries)
  | .text s => by
    cases telling : isTelling (.text s) with
    | true => rw [redact_of_telling telling, redact_text isTelling_hidden]
    | false => rw [redact_text telling, redact_text telling]
  | .octets bytes => by
    cases telling : isTelling (.octets bytes) with
    | true => rw [redact_of_telling telling, redact_text isTelling_hidden]
    | false => rw [redact_octets telling, redact_octets telling]
  | .null | .bool _ | .int _ | .float _ | .decimal _ | .raw _ => rfl

theorem redactAll_redactAll : (items : List Value) → redactAll (redactAll items) = redactAll items
  | [] => rfl
  | item :: rest => congrArg₂ List.cons (redact_redact item) (redactAll_redactAll rest)

theorem redactEntries_redactEntries : (entries : List (Value × Value)) →
    redactEntries (redactEntries entries) = redactEntries entries
  | [] => rfl
  | (key, item) :: rest => by
    have here := redactUnder_redactUnder key.plain (redact_redact item)
    unfold redactUnder at here
    rw [redactEntries, redactEntries, here, redactEntries_redactEntries rest]

end

end Value

namespace Place

variable {p q : Place}

theorem isSecret_eq_false :
    p.isSecret = false ↔ p.key.any isSensitiveKey = false ∧ isTelling p.value = false :=
  Bool.or_eq_false_iff

theorem value_redacted (unnamed : p.key.any isSensitiveKey = false) :
    p.redacted.value = redact p.value := by
  obtain ⟨key, v⟩ := p
  cases key with
  | none => rfl
  | some key =>
    rw [Option.any_some] at unnamed
    simp [redacted, redactUnder, unnamed]

theorem redacted_of_named (named : p.key.any isSensitiveKey = true) :
    p.redacted = ⟨p.key, .text hidden⟩ := by
  obtain ⟨key, v⟩ := p
  cases key with
  | none => cases named
  | some key =>
    rw [Option.any_some] at named
    simp [redacted, redactUnder, named]

theorem redacted_of_secret (secret : p.isSecret = true) : p.redacted = ⟨p.key, .text hidden⟩ := by
  cases named : p.key.any isSensitiveKey with
  | true => exact redacted_of_named named
  | false =>
    rw [isSecret, named, Bool.false_or] at secret
    exact congrArg (Place.mk p.key) ((value_redacted named).trans (redact_of_telling secret))

theorem inside_redacted (seen : p.isSecret = false) :
    inside p.redacted.value = (inside p.value).map redacted := by
  obtain ⟨unnamed, silent⟩ := isSecret_eq_false.mp seen
  rw [value_redacted unnamed, inside_redact silent]

theorem outline_redacted (seen : p.isSecret = false) :
    outline p.redacted.value = outline p.value := by
  obtain ⟨unnamed, silent⟩ := isSecret_eq_false.mp seen
  rw [value_redacted unnamed, outline_redact silent]

theorem clean_redacted (p : Place) : p.redacted.Clean := by
  cases named : p.key.any isSensitiveKey with
  | true =>
    rw [redacted_of_named named]
    exact ⟨fun _ _ _ => rfl, isTelling_hidden⟩
  | false =>
    refine ⟨fun key stands sensitive => ?_, ?_⟩
    · rw [show p.key = some key from stands, Option.any_some, sensitive] at named
      cases named
    · rw [value_redacted named]
      exact isTelling_redact p.value

theorem redact_value_redacted (p : Place) : redact p.redacted.value = p.redacted.value := by
  cases named : p.key.any isSensitiveKey with
  | true =>
    rw [redacted_of_named named]
    exact redact_text isTelling_hidden
  | false => rw [value_redacted named, redact_redact]

/-- Redacting once more changes nothing. -/
theorem redacted_redacted (p : Place) : p.redacted.redacted = p.redacted := by
  cases named : p.key.any isSensitiveKey with
  | true =>
    have again : p.redacted.key.any isSensitiveKey = true := named
    rw [redacted_of_named again, redacted_of_named named]
  | false =>
    have again : p.redacted.key.any isSensitiveKey = false := named
    exact congrArg (Place.mk p.key) ((value_redacted again).trans p.redact_value_redacted)

/-- Up to the first secret, the places inside a redacted value are the redacted places inside the
value. The induction is on the path. -/
theorem at?_redacted {path : List Nat} (seen : ∀ passed ∈ p.above path, passed.isSecret = false) :
    p.redacted.at? path = (p.at? path).map redacted := by
  induction path generalizing p with
  | nil => rfl
  | cons i path ih =>
    obtain ⟨here, later⟩ := List.forall_mem_cons.mp seen
    rw [at?, at?, inside_redacted here, List.getElem?_map]
    cases found : (inside p.value)[i]? with
    | none => rfl
    | some member =>
      rw [found] at later
      exact ih later

/-- Redaction makes no places: there is nothing inside what stands in the place of a secret. -/
theorem exists_of_at?_redacted {path : List Nat} (reached : p.redacted.at? path = some q) :
    ∃ origin, p.at? path = some origin ∧ q = origin.redacted := by
  induction path generalizing p with
  | nil =>
    cases reached
    exact ⟨p, rfl, rfl⟩
  | cons i path ih =>
    cases secret : p.isSecret with
    | true =>
      rw [redacted_of_secret secret] at reached
      cases reached
    | false =>
      rw [at?, inside_redacted secret, List.getElem?_map] at reached
      rw [at?]
      cases found : (inside p.value)[i]? with
      | none =>
        rw [found] at reached
        cases reached
      | some member =>
        rw [found] at reached
        exact ih reached

/-- What a redacted value shows: no secret, nothing at places where the value has none, and up to the
first secret on a path the keys and outlines of the value; that secret itself is hidden. -/
structure Hides (p : Place) : Prop where
  clean : ∀ path q, p.redacted.at? path = some q → q.Clean
  within : ∀ path q, p.redacted.at? path = some q → ∃ origin, p.at? path = some origin
  same : ∀ path q, p.at? path = some q → (∀ passed ∈ p.above path, passed.isSecret = false) →
    ∃ v, p.redacted.at? path = some ⟨q.key, v⟩ ∧
      (q.isSecret = true → v = .text hidden) ∧ (q.isSecret = false → outline v = outline q.value)
  again : p.redacted.redacted = p.redacted ∧ redact p.redacted.value = p.redacted.value

theorem hides (p : Place) : p.Hides where
  clean := by
    intro path q reached
    obtain ⟨origin, -, rfl⟩ := exists_of_at?_redacted reached
    exact origin.clean_redacted
  within := by
    intro path q reached
    obtain ⟨origin, found, -⟩ := exists_of_at?_redacted reached
    exact ⟨origin, found⟩
  same := by
    intro path q found seen
    refine ⟨q.redacted.value, ?_, ?_, outline_redacted⟩
    · rw [at?_redacted seen, found]
      rfl
    · intro secret
      rw [redacted_of_secret secret]
  again := ⟨p.redacted_redacted, p.redact_value_redacted⟩

end Place

theorem unrevealing_redact (v : Value) : Unrevealing (redact v) :=
  (Place.hides ⟨none, v⟩).clean

end Redaction

open Redaction

namespace QueryLog

variable {log : QueryLog}

/-- Where a log redacts, its entries show no secret. -/
def Unrevealing (log : QueryLog) : Prop :=
  log.redact = true → ∀ connection, ∀ e ∈ log.get connection, ∀ v ∈ e.params,
    Redaction.Unrevealing v

theorem Unrevealing.add (h : log.Unrevealing) (connection sql : String) (params : List Value)
    (elapsedMs : Value) : (log.add (log.entry connection sql params elapsedMs)).Unrevealing := by
  intro redacts other e member v bound
  have redacts : log.redact = true := redacts
  have made : ∀ v ∈ (log.entry connection sql params elapsedMs).params,
      Redaction.Unrevealing v := by
    rw [entry, redacts, if_pos rfl, redactAll_eq_map]
    intro v bound
    obtain ⟨origin, -, rfl⟩ := List.mem_map.mp bound
    exact unrevealing_redact origin
  rw [get_add] at member
  split at member
  · have kept : e ∈ log.get other ++ [log.entry connection sql params elapsedMs] := by
      unfold trim at member
      split at member
      · exact List.mem_of_mem_drop member
      · exact member
    rcases List.mem_append.mp kept with before | new
    · exact h redacts other e before v bound
    · rw [List.mem_singleton.mp new] at bound
      exact made v bound
  · exact h redacts other e member v bound

end QueryLog

namespace Session

variable {s : Session}

/-- The parameters that a session has reported and logged show no secret. -/
structure Unrevealing (s : Session) : Prop where
  records : ∀ record ∈ s.records, ∀ v, record.details.find? "params" = some v →
    Redaction.Unrevealing v
  log : s.log.Unrevealing

/-- Whatever is sent, with whatever parameters, no secret is reported or logged. -/
theorem keeps_unrevealing : Keeps (fun _ => True) Unrevealing where
  send := by
    rintro s operation statement - h
    have reported : ∀ fault v, (Log.timed logger (.text ("query." ++ operation))
        s.builder.settings.slowQueryMs (Log.elapsedMs (s.durations.headD 0)) (.text statement.sql)
        (some statement.params) fault).details.find? "params" = some v →
        Redaction.Unrevealing v := by
      rintro fault v found
      have same : v = redact (.list statement.params) := (Option.some.inj found).symm
      rw [same]
      exact unrevealing_redact _
    unfold send
    split
    · exact h
    · split
      · refine ⟨?_, h.log⟩
        rw [List.forall_mem_append, List.forall_mem_singleton]
        exact ⟨h.records, reported _⟩
      · refine ⟨?_, h.log.add _ _ _ _⟩
        rw [List.forall_mem_append, List.forall_mem_singleton]
        exact ⟨h.records, reported _⟩
  reset := fun h => ⟨h.records, h.log⟩
  deliver := fun _ h => ⟨h.records, h.log⟩

theorem unrevealing_fresh (unreported : s.records = []) (unlogged : s.log.entries = []) :
    s.Unrevealing where
  records := by simp [unreported]
  log := by
    intro _ connection e member
    rw [QueryLog.get, unlogged] at member
    cases member

end Session

namespace Redaction

/-- Redaction hides the secrets of every value, under a key or not, and nothing else, and doing it
again changes nothing. So whatever was called, a session that has shown no secret in the parameters
that it reports, and in those that it logs where the log redacts, shows none afterwards. -/
theorem hides_secrets :
    (∀ p : Place, p.Hides) ∧
    ∀ (s : Session) (calls : List Call), s.Unrevealing → (s.play calls).Unrevealing :=
  ⟨Place.hides, fun _ calls before =>
    Session.keeps_unrevealing.play (fun _ => trivial) (fun _ h => ⟨h.records, h.log⟩) before
      calls⟩

/-- A mapping with a secret by its text, two steps inside, and one by its key. -/
def nestedSecrets : Place :=
  ⟨none, .map [(.text "user", .tuple [.text "ann", .text "Bearer x"]),
    (.text "API-Key", .list [.int 7])]⟩

def idleSession : Session :=
  { builder := { dialect := Dialect.sqlite }, replies := some [], log := {} }

def secretCalls : List Call :=
  [.clause (.table "users"),
    .clause (.compare "note" (.equalTo (.text "token=1")) (.text "AND")), .job .get]

theorem hides_secrets_nestedSecrets :
    nestedSecrets.redacted.at? [0, 1] = some ⟨none, .text hidden⟩ ∧
    nestedSecrets.redacted.at? [1] = some ⟨some "API-Key", .text hidden⟩ ∧
    (∃ v, nestedSecrets.redacted.at? [0, 0] = some ⟨none, v⟩ ∧ outline v = .text "ann") ∧
    (idleSession.play secretCalls).records.length = 1 ∧
    (idleSession.play secretCalls).Unrevealing := by
  have hides := hides_secrets.1 nestedSecrets
  have outer : ∀ passed ∈ nestedSecrets.above [0, 1], passed.isSecret = false := by decide +kernel
  have beside : ∀ passed ∈ nestedSecrets.above [0, 0], passed.isSecret = false := by decide +kernel
  have whole : ∀ passed ∈ nestedSecrets.above [1], passed.isSecret = false := by decide +kernel
  obtain ⟨v, bearer, replaced, -⟩ := hides.same [0, 1] ⟨none, .text "Bearer x"⟩ rfl outer
  obtain ⟨w, key, replaced', -⟩ := hides.same [1] ⟨some "API-Key", .list [.int 7]⟩ rfl whole
  obtain ⟨u, name, -, kept⟩ := hides.same [0, 0] ⟨none, .text "ann"⟩ rfl beside
  rw [replaced (by decide +kernel)] at bearer
  rw [replaced' (by decide +kernel)] at key
  exact ⟨bearer, key, ⟨u, name, kept (by decide +kernel)⟩, by decide +kernel,
    hides_secrets.2 idleSession secretCalls (Session.unrevealing_fresh rfl rfl)⟩

end Redaction

end Sqlwright
