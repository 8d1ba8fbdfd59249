import Mathlib.Data.List.Forall2

/-!
Computations that may fail: what it says about the parts that a sequence of them, or one for each
member of a list, succeeds or fails.
-/

namespace Sqlwright

section Outcomes

variable {ε α β : Type}

/-- A sequence of two computations succeeds exactly if both do. -/
theorem bind_eq_ok {x : Except ε α} {f : α → Except ε β} {b : β} :
    x >>= f = .ok b ↔ ∃ a, x = .ok a ∧ f a = .ok b := by
  cases x with
  | error e => simp [bind, Except.bind]
  | ok a => simp [bind, Except.bind]

/-- A sequence of two computations fails as the first of them that does. -/
theorem bind_eq_error {x : Except ε α} {f : α → Except ε β} {e : ε} :
    x >>= f = .error e ↔ x = .error e ∨ ∃ a, x = .ok a ∧ f a = .error e := by
  cases x with
  | error e => simp [bind, Except.bind]
  | ok a => simp [bind, Except.bind]

theorem map_eq_ok {x : Except ε α} {f : α → β} {b : β} :
    x.map f = .ok b ↔ ∃ a, x = .ok a ∧ f a = b := by
  cases x with
  | error e => simp [Except.map]
  | ok a => simp [Except.map]

theorem eq_ok_of_toOption {x : Except ε α} {a : α} (h : x.toOption = some a) : x = .ok a := by
  cases x with
  | error e => cases h
  | ok b =>
    cases h
    rfl

theorem exists_of_isOk {x : Except ε α} (h : x.isOk = true) : ∃ a, x = .ok a := by
  cases x with
  | error e => cases h
  | ok a => exact ⟨a, rfl⟩

theorem exists_error_of_isOk {x : Except ε α} (h : x.isOk = false) : ∃ e, x = .error e := by
  cases x with
  | error e => exact ⟨e, rfl⟩
  | ok a => cases h

/-- Going through a list succeeds with one result for each member, in the same order. -/
theorem mapM_eq_ok {f : α → Except ε β} {items : List α} {results : List β} :
    items.mapM f = .ok results ↔
      List.Forall₂ (fun item result => f item = .ok result) items results := by
  induction items generalizing results with
  | nil =>
    rw [List.mapM_nil]
    constructor
    · intro h
      cases h
      exact .nil
    · intro h
      cases h
      rfl
  | cons item rest ih =>
    rw [List.mapM_cons, bind_eq_ok]
    constructor
    · rintro ⟨result, hresult, h⟩
      obtain ⟨others, hothers, h⟩ := bind_eq_ok.mp h
      cases h
      exact .cons hresult (ih.mp hothers)
    · intro h
      obtain _ | ⟨hresult, hothers⟩ := h
      exact ⟨_, hresult, bind_eq_ok.mpr ⟨_, ih.mpr hothers, rfl⟩⟩

/-- Where each result is known, so is the list of results. -/
theorem map_of_mapM {f : α → Except ε β} {g : α → β} {items : List α} {results : List β}
    (each : ∀ item result, f item = .ok result → g item = result) (h : items.mapM f = .ok results) :
    items.map g = results := by
  have paired := mapM_eq_ok.mp h
  clear h
  induction paired with
  | nil => rfl
  | cons hitem _ ih => rw [List.map_cons, each _ _ hitem, ih]

/-- Going through a list succeeds if it does for each member. -/
theorem exists_mapM_eq_ok {f : α → Except ε β} {items : List α}
    (h : ∀ item ∈ items, ∃ result, f item = .ok result) :
    ∃ results, items.mapM f = .ok results := by
  induction items with
  | nil => exact ⟨[], mapM_eq_ok.mpr .nil⟩
  | cons item rest ih =>
    obtain ⟨result, hresult⟩ := h item (by simp)
    obtain ⟨others, hothers⟩ := ih fun other member => h other (by simp [member])
    exact ⟨result :: others, mapM_eq_ok.mpr (.cons hresult (mapM_eq_ok.mp hothers))⟩

/-- Where only bad members fail, it fails as the first of them does. -/
theorem mapM_eq_error_of_find? {f : α → Except ε β} {bad : α → Bool} {items : List α} {item : α}
    {e : ε} (good : ∀ other ∈ items, bad other = false → ∃ result, f other = .ok result)
    (first : items.find? bad = some item) (fails : f item = .error e) :
    items.mapM f = .error e := by
  induction items with
  | nil => cases first
  | cons head rest ih =>
    rw [List.mapM_cons]
    cases isBad : bad head with
    | true =>
      rw [List.find?_cons_of_pos isBad] at first
      cases first
      rw [fails]
      rfl
    | false =>
      obtain ⟨result, here⟩ := good head (by simp) isBad
      rw [List.find?_cons_of_neg (by simp [isBad])] at first
      rw [here, ih (fun other member => good other (by simp [member])) first]
      rfl

/-- If it succeeds, it does so at each member. -/
theorem ok_of_mem_mapM {f : α → Except ε β} {items : List α} {results : List β}
    (h : items.mapM f = .ok results) {item : α} (member : item ∈ items) :
    ∃ result, f item = .ok result := by
  have paired := mapM_eq_ok.mp h
  clear h
  induction paired with
  | nil => cases member
  | cons here _ ih =>
    rcases List.mem_cons.mp member with rfl | later
    · exact ⟨_, here⟩
    · exact ih later

/-- If it fails, it does so at a member. -/
theorem exists_of_mapM_eq_error {f : α → Except ε β} {items : List α} {e : ε}
    (h : items.mapM f = .error e) : ∃ item ∈ items, f item = .error e := by
  induction items with
  | nil => cases h
  | cons item rest ih =>
    rw [List.mapM_cons] at h
    cases here : f item with
    | error e' =>
      rw [here] at h
      cases h
      exact ⟨item, by simp, here⟩
    | ok result =>
      rw [here] at h
      cases later : rest.mapM f with
      | ok results =>
        rw [later] at h
        cases h
      | error e' =>
        rw [later] at h
        cases h
        obtain ⟨other, member, found⟩ := ih later
        exact ⟨other, by simp [member], found⟩

/-- Each result comes from a member. -/
theorem exists_of_mem_mapM {f : α → Except ε β} {items : List α} {results : List β}
    (h : items.mapM f = .ok results) {result : β} (member : result ∈ results) :
    ∃ item ∈ items, f item = .ok result := by
  have paired := mapM_eq_ok.mp h
  clear h
  induction paired with
  | nil => cases member
  | cons hitem _ ih =>
    rcases List.mem_cons.mp member with rfl | later
    · exact ⟨_, by simp, hitem⟩
    · obtain ⟨item, inside, found⟩ := ih later
      exact ⟨item, by simp [inside], found⟩

end Outcomes

end Sqlwright
