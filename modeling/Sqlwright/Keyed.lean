/-!
Entries under text keys, kept in the order in which the keys were first put. Main statements:
putting an entry is seen under its own key and nowhere else.
-/

namespace Sqlwright

/-- Entries under pairwise different keys. -/
abbrev Keyed (α : Type) := List (String × α)

namespace Keyed

variable {α : Type}

def find? (key : String) : Keyed α → Option α
  | [] => none
  | (k, a) :: rest => if k = key then some a else find? key rest

def has (key : String) (entries : Keyed α) : Bool := (find? key entries).isSome

/-- Sets the entry under a key. A new key goes to the end; a known one keeps its place. -/
def put (key : String) (a : α) : Keyed α → Keyed α
  | [] => [(key, a)]
  | (k, b) :: rest => if k = key then (k, a) :: rest else (k, b) :: put key a rest

def erase (key : String) (entries : Keyed α) : Keyed α :=
  entries.filter fun entry => entry.1 ≠ key

def keys (entries : Keyed α) : List String := entries.map (·.1)

theorem find?_put (key other : String) (a : α) (entries : Keyed α) :
    find? other (put key a entries) = if key = other then some a else find? other entries := by
  induction entries with
  | nil => simp [put, find?]
  | cons entry rest ih =>
    obtain ⟨k, b⟩ := entry
    by_cases hk : k = key
    · by_cases ho : key = other <;> simp_all [put, find?]
    · by_cases ho : k = other
      · have : key ≠ other := fun h => hk (ho.trans h.symm)
        simp_all [put, find?]
      · simp_all [put, find?]

theorem find?_erase (key other : String) (entries : Keyed α) :
    find? other (erase key entries) = if key = other then none else find? other entries := by
  induction entries with
  | nil => simp [erase, find?]
  | cons entry rest ih =>
    obtain ⟨k, b⟩ := entry
    simp only [erase] at ih
    by_cases hk : k = key <;> by_cases ho : key = other <;> by_cases hko : k = other <;>
      simp_all [erase, find?]

theorem has_iff_mem_keys (key : String) (entries : Keyed α) :
    has key entries = true ↔ key ∈ keys entries := by
  induction entries with
  | nil => simp [has, find?, keys]
  | cons entry rest ih =>
    obtain ⟨k, b⟩ := entry
    simp only [has, keys] at ih
    by_cases hk : k = key
    · simp [has, find?, keys, hk]
    · have : key ≠ k := fun h => hk h.symm
      simp [has, find?, keys, hk, this, ih]

theorem put_of_not_has {key : String} {entries : Keyed α} (new : has key entries = false) (a : α) :
    put key a entries = entries ++ [(key, a)] := by
  induction entries with
  | nil => rfl
  | cons entry rest ih =>
    obtain ⟨k, b⟩ := entry
    by_cases hk : k = key
    · simp [has, find?, hk] at new
    · have later : has key rest = false := by simpa [has, find?, hk] using new
      simp [put, hk, ih later]

/-- A new key goes behind the others. -/
theorem keys_put (key : String) (a : α) (entries : Keyed α) :
    keys (put key a entries) =
      if key ∈ keys entries then keys entries else keys entries ++ [key] := by
  induction entries with
  | nil => simp [put, keys]
  | cons entry rest ih =>
    obtain ⟨k, b⟩ := entry
    simp only [keys] at ih
    by_cases hk : k = key
    · simp [put, keys, hk]
    · have : key ≠ k := fun h => hk h.symm
      by_cases hr : key ∈ rest.map (·.1) <;> simp_all [put, keys]

theorem nodup_keys_put {entries : Keyed α} (distinct : (keys entries).Nodup) (key : String) (a : α) :
    (keys (put key a entries)).Nodup := by
  rw [keys_put]
  split
  · exact distinct
  · rename_i new
    refine List.nodup_append.mpr ⟨distinct, by simp, ?_⟩
    rintro other member _ last rfl
    exact new (List.mem_singleton.mp last ▸ member)

theorem keys_erase (key : String) (entries : Keyed α) :
    keys (erase key entries) = (keys entries).filter (· ≠ key) := by
  rw [keys, erase, keys, List.filter_map]
  rfl

theorem has_put (key other : String) (a : α) (entries : Keyed α) :
    has other (put key a entries) = true ↔ key = other ∨ has other entries = true := by
  rw [has, find?_put]
  split <;> simp_all [has]

theorem has_erase (key other : String) (entries : Keyed α) :
    has other (erase key entries) = true ↔ key ≠ other ∧ has other entries = true := by
  rw [has, find?_erase]
  split <;> simp_all [has]

end Keyed

end Sqlwright
