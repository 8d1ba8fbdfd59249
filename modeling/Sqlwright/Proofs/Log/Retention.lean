import Mathlib.Data.List.DropRight
import Mathlib.Data.List.Induction
import Sqlwright.Log.QueryLog

/-!
What a log of statements retains, told from the calls that were made on it. Under each connection
stand the entries that were added for it since its log was last emptied, the newest of them where
the log is bounded. The bound is kept by cutting after each entry; that this is the same as cutting
once at the end is `newest_concat`. Main statement: `QueryLog.retention_run`.
-/

namespace Sqlwright

inductive LogCall
  | add (connection sql : String) (params : List Value) (elapsedMs : Value)
  | clear (connection : String)
  | clearAll

namespace LogCall

/-- The connection that a call is about, unless it is about all of them. -/
def connection? : LogCall → Option String
  | .add connection .. | .clear connection => some connection
  | .clearAll => none

def clears (connection : String) : LogCall → Bool
  | .add .. => false
  | .clear other => other = connection
  | .clearAll => true

/-- The calls since the last that emptied the log of a connection. -/
def sinceCleared (connection : String) (calls : List LogCall) : List LogCall :=
  calls.rtakeWhile fun call => !call.clears connection

theorem sinceCleared_concat (connection : String) (calls : List LogCall) (call : LogCall) :
    sinceCleared connection (calls ++ [call]) =
      if call.clears connection then [] else sinceCleared connection calls ++ [call] := by
  unfold sinceCleared
  rw [List.rtakeWhile_concat]
  cases call.clears connection <;> rfl

end LogCall

section Newest

variable {α : Type}

/-- The last members of a list within a bound. -/
def newest (most : Option Int) (items : List α) : List α :=
  match most with
  | some most => items.rtake most.toNat
  | none => items

@[simp]
theorem newest_nil (most : Option Int) : newest most ([] : List α) = [] := by
  cases most with
  | none => rfl
  | some most => exact List.rtake_nil most.toNat

/-- To cut a list before it grows changes nothing of the cut list afterwards. -/
theorem rtake_rtake_concat (n : Nat) (items : List α) (a : α) :
    (items.rtake n ++ [a]).rtake n = (items ++ [a]).rtake n := by
  cases n with
  | zero => rw [List.rtake_zero, List.rtake_zero]
  | succ n =>
    rw [List.rtake_concat_succ, List.rtake_concat_succ]
    simp only [List.rtake_eq_reverse_take_reverse, List.reverse_reverse, List.take_take]
    rw [Nat.min_eq_left n.le_succ]

/-- What falls out before the next member comes would fall out after it. -/
theorem newest_concat (most : Option Int) (items : List α) (a : α) :
    newest most (newest most items ++ [a]) = newest most (items ++ [a]) := by
  cases most with
  | none => rfl
  | some most => exact rtake_rtake_concat most.toNat items a

end Newest

namespace QueryLog

variable {log start : QueryLog} {calls : List LogCall} {connection : String}

def apply (log : QueryLog) : LogCall → QueryLog
  | .add connection sql params elapsedMs => log.add (log.entry connection sql params elapsedMs)
  | .clear connection => log.clear connection
  | .clearAll => log.clearAll

def run (log : QueryLog) (calls : List LogCall) : QueryLog := calls.foldl apply log

/-- The entry that a call adds for a connection. -/
def addition? (log : QueryLog) (connection : String) : LogCall → Option LogEntry
  | .add other sql params elapsedMs =>
    if other = connection then some (log.entry other sql params elapsedMs) else none
  | _ => none

def added (log : QueryLog) (connection : String) (calls : List LogCall) : List LogEntry :=
  (LogCall.sinceCleared connection calls).filterMap (log.addition? connection)

theorem added_concat (log : QueryLog) (connection : String) (calls : List LogCall)
    (call : LogCall) :
    log.added connection (calls ++ [call]) =
      if call.clears connection then []
      else log.added connection calls ++ (log.addition? connection call).toList := by
  unfold added
  rw [LogCall.sinceCleared_concat]
  split
  · rfl
  · rw [List.filterMap_append]
    cases added : log.addition? connection call <;> simp [added]

/-- Cutting from the front is keeping the newest. -/
theorem trim_eq (bounded : ∀ most, log.maxEntries = some most → 0 ≤ most)
    (entries : List LogEntry) : log.trim entries = newest log.maxEntries entries := by
  unfold trim newest
  cases limit : log.maxEntries with
  | none => rfl
  | some most =>
    have positive := bounded most limit
    have same : ((entries.length : Int) - most).toNat = entries.length - most.toNat := by omega
    dsimp only
    rw [same, List.rtake]

theorem get_clear (log : QueryLog) (connection other : String) :
    (log.clear connection).get other = if connection = other then [] else log.get other := by
  rw [get, clear, Keyed.find?_erase]
  split <;> rfl

/-- A log holds what calls have added to the log that they began with. -/
structure Retains (start log : QueryLog) (calls : List LogCall) : Prop where
  redact : log.redact = start.redact
  maxEntries : log.maxEntries = start.maxEntries
  get : ∀ connection,
    log.get connection = newest start.maxEntries (start.added connection calls)
  has : ∀ connection,
    log.entries.has connection = true ↔ start.added connection calls ≠ []
  distinct : log.entries.keys.Nodup

theorem retains_empty (empty : start.entries = []) : start.Retains start [] where
  redact := rfl
  maxEntries := rfl
  get connection := by
    have nothing : start.added connection [] = [] := rfl
    rw [QueryLog.get, empty, nothing, newest_nil]
    rfl
  has connection := by simp [empty, Keyed.has, Keyed.find?, added, LogCall.sinceCleared]
  distinct := by simp [empty, Keyed.keys]

namespace Retains

variable (h : start.Retains log calls)

include h

/-- What is added is entered as the first log would have entered it. -/
theorem entry (connection sql : String) (params : List Value) (elapsedMs : Value) :
    log.entry connection sql params elapsedMs = start.entry connection sql params elapsedMs := by
  unfold QueryLog.entry
  rw [h.redact]

theorem add (bounded : ∀ most, start.maxEntries = some most → 0 ≤ most) (connection sql : String)
    (params : List Value) (elapsedMs : Value) :
    start.Retains (log.add (log.entry connection sql params elapsedMs))
      (calls ++ [.add connection sql params elapsedMs]) where
  redact := h.redact
  maxEntries := h.maxEntries
  get other := by
    have within : ∀ most, log.maxEntries = some most → 0 ≤ most := h.maxEntries ▸ bounded
    have cut := trim_eq within
    rw [get_add, added_concat, h.entry]
    by_cases same : connection = other
    · have here : (start.entry connection sql params elapsedMs).connection = other := same
      rw [if_pos here, cut, h.maxEntries, h.get, newest_concat]
      simp [LogCall.clears, addition?, same]
    · have elsewhere : (start.entry connection sql params elapsedMs).connection ≠ other := same
      rw [if_neg elsewhere, h.get]
      simp [LogCall.clears, addition?, same]
  has other := by
    rw [added_concat, QueryLog.add, Keyed.has_put, h.has]
    by_cases same : connection = other
    · simp [LogCall.clears, addition?, same, QueryLog.entry]
    · simp [LogCall.clears, addition?, same, QueryLog.entry]
  distinct := Keyed.nodup_keys_put h.distinct _ _

theorem clear (connection : String) :
    start.Retains (log.clear connection) (calls ++ [.clear connection]) where
  redact := h.redact
  maxEntries := h.maxEntries
  get other := by
    rw [get_clear, added_concat]
    by_cases same : connection = other
    · simp [LogCall.clears, same]
    · simp [LogCall.clears, addition?, same, h.get]
  has other := by
    rw [added_concat, QueryLog.clear, Keyed.has_erase, h.has]
    by_cases same : connection = other
    · simp [LogCall.clears, same]
    · simp [LogCall.clears, addition?, same]
  distinct := by
    rw [QueryLog.clear, Keyed.keys_erase]
    exact h.distinct.filter _

theorem clearAll : start.Retains log.clearAll (calls ++ [.clearAll]) where
  redact := h.redact
  maxEntries := h.maxEntries
  get other := by
    simp only [added_concat, LogCall.clears, if_true, newest_nil]
    rfl
  has other := by
    simp [added_concat, LogCall.clears, QueryLog.clearAll, Keyed.has, Keyed.find?]
  distinct := .nil

/-- After every call a log keeps the newest of what was added. -/
theorem apply (bounded : ∀ most, start.maxEntries = some most → 0 ≤ most) (call : LogCall) :
    start.Retains (log.apply call) (calls ++ [call]) := by
  cases call with
  | add connection sql params elapsedMs => exact h.add bounded connection sql params elapsedMs
  | clear connection => exact h.clear connection
  | clearAll => exact h.clearAll

theorem run (bounded : ∀ most, start.maxEntries = some most → 0 ≤ most) (more : List LogCall) :
    start.Retains (log.run more) (calls ++ more) := by
  induction more generalizing log calls with
  | nil => simpa [QueryLog.run] using h
  | cons call rest ih =>
    have later := ih (h.apply bounded call)
    rwa [List.append_assoc] at later

/-- A connection is known as long as it has entries since it was cleared. -/
theorem mem_connections :
    connection ∈ log.connections ↔ start.added connection calls ≠ [] := by
  rw [connections, Error.mem_sortTexts, ← Keyed.has_iff_mem_keys]
  exact h.has connection

end Retains

/-- What a log answers about a connection: its entries, their number, and whether the connection is
known at all. -/
structure AnswersAlike (log other : QueryLog) (connection : String) : Prop where
  get : other.get connection = log.get connection
  count : other.count connection = log.count connection
  known : connection ∈ other.connections ↔ connection ∈ log.connections

/-- What a log answers about a connection is in the entries kept for it. -/
theorem answersAlike_of_find? {other : QueryLog}
    (same : other.entries.find? connection = log.entries.find? connection) :
    log.AnswersAlike other connection := by
  have entries : other.get connection = log.get connection := by rw [get, same, get]
  refine ⟨entries, congrArg List.length entries, ?_⟩
  rw [connections, connections, Error.mem_sortTexts, Error.mem_sortTexts,
    ← Keyed.has_iff_mem_keys, ← Keyed.has_iff_mem_keys, Keyed.has, Keyed.has, same]

/-- A call about one connection changes no answer about another. -/
theorem answersAlike_apply (log : QueryLog) {call : LogCall} {own : String}
    (about : call.connection? = some own) (apart : own ≠ connection) :
    log.AnswersAlike (log.apply call) connection := by
  cases call with
  | add other sql params elapsedMs =>
    obtain rfl : other = own := Option.some.inj about
    refine answersAlike_of_find? ?_
    rw [apply, add, Keyed.find?_put]
    exact if_neg apart
  | clear other =>
    obtain rfl : other = own := Option.some.inj about
    refine answersAlike_of_find? ?_
    rw [apply, clear, Keyed.find?_erase]
    exact if_neg apart
  | clearAll => cases about

/-- Whatever is added and cleared in whatever order, a log that began empty has for each connection
the entries added for it since its log was last emptied, in their order and cut to the newest within
the bound. It knows the connections for which there has been such an entry, also where the bound
leaves none of them, and lists them in increasing order. Only emptying the whole log touches more
than one connection. -/
theorem retention_run (start : QueryLog) (empty : start.entries = [])
    (bounded : ∀ most, start.maxEntries = some most → 0 ≤ most) (calls : List LogCall) :
    (∀ connection,
      (start.run calls).get connection =
          newest start.maxEntries (start.added connection calls) ∧
        (start.run calls).count connection =
          (newest start.maxEntries (start.added connection calls)).length ∧
        (connection ∈ (start.run calls).connections ↔ start.added connection calls ≠ [])) ∧
    (start.run calls).connections.Pairwise (· < ·) ∧
    ∀ (call : LogCall) (own connection : String), call.connection? = some own →
      own ≠ connection →
        (start.run calls).AnswersAlike (start.run (calls ++ [call])) connection := by
  have retains : start.Retains (start.run calls) calls := (retains_empty empty).run bounded calls
  refine ⟨fun connection => ?_, Error.pairwise_lt_sortTexts retains.distinct, ?_⟩
  · have entries := retains.get connection
    exact ⟨entries, congrArg List.length entries, retains.mem_connections⟩
  · intro call own connection about apart
    have last : start.run (calls ++ [call]) = (start.run calls).apply call := by simp [run]
    rw [last]
    exact answersAlike_apply _ about apart

def twoConnections : List LogCall :=
  [.add "reports" "SELECT 1" [] (.int 0), .add "default" "SELECT 2" [] (.int 0),
    .clear "default", .add "default" "SELECT 3" [] (.int 0),
    .add "default" "SELECT\n  4" [.text "token=x"] (.int 0)]

theorem retention_run_twoConnections :
    (((run { maxEntries := some 1 } twoConnections).get "default").map fun e => e.sql) =
        ["SELECT 4"] ∧
      (run { maxEntries := some 1 } twoConnections).count "default" = 1 ∧
      "reports" ∈ (run { maxEntries := some 0 } twoConnections).connections ∧
      (run { maxEntries := some 0 } twoConnections).count "reports" = 0 := by
  obtain ⟨each, -, -⟩ := retention_run { maxEntries := some 1 } rfl
    (fun most same => by cases same; decide) twoConnections
  obtain ⟨none, -, -⟩ := retention_run { maxEntries := some 0 } rfl
    (fun most same => by cases same; decide) twoConnections
  obtain ⟨entries, number, -⟩ := each "default"
  obtain ⟨-, nothing, known⟩ := none "reports"
  refine ⟨?_, ?_, known.mpr (by decide +kernel), ?_⟩
  · rw [entries]
    decide +kernel
  · rw [number]
    decide +kernel
  · rw [nothing]
    decide +kernel

end QueryLog

end Sqlwright
