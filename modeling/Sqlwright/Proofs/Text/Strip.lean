import Mathlib.Data.List.TakeWhile
import Sqlwright.Text.Blank

/-!
Texts without the blanks at their ends.
-/

namespace Sqlwright.Text

variable {text : List Char}

/-- What is cut off a text are blanks on both sides. -/
theorem exists_stripChars (text : List Char) :
    ∃ front back, (∀ c ∈ front, isBlank c = true) ∧ (∀ c ∈ back, isBlank c = true) ∧
      text = front ++ stripChars text ++ back := by
  refine ⟨text.takeWhile isBlank, ((text.dropWhile isBlank).reverse.takeWhile isBlank).reverse,
    fun c => List.mem_takeWhile_imp, fun c member => ?_, ?_⟩
  · exact List.mem_takeWhile_imp (List.mem_reverse.mp member)
  · rw [stripChars, List.append_assoc, ← List.reverse_append, List.takeWhile_append_dropWhile,
      List.reverse_reverse, List.takeWhile_append_dropWhile]

theorem stripChars_subset (text : List Char) : stripChars text ⊆ text := by
  obtain ⟨front, back, -, -, whole⟩ := exists_stripChars text
  intro c member
  have inside : c ∈ front ++ stripChars text ++ back := by simp [member]
  rwa [← whole] at inside

theorem mem_stripChars {c : Char} (h : c ∈ text) : isBlank c = true ∨ c ∈ stripChars text := by
  obtain ⟨front, back, before, behind, whole⟩ := exists_stripChars text
  rw [whole, List.mem_append, List.mem_append] at h
  rcases h with (first | inside) | last
  · exact Or.inl (before c first)
  · exact Or.inr inside
  · exact Or.inl (behind c last)

theorem dropWhile_of_solid {text : List Char} (solid : ∀ c ∈ text, isBlank c = false) :
    text.dropWhile isBlank = text := by
  cases text with
  | nil => rfl
  | cons c rest => exact List.dropWhile_cons_of_neg (by simp [solid c (by simp)])

/-- Blanks around a text without blanks are cut off. -/
theorem stripChars_around {front text back : List Char} (before : ∀ c ∈ front, isBlank c = true)
    (behind : ∀ c ∈ back, isBlank c = true) (solid : ∀ c ∈ text, isBlank c = false) :
    stripChars (front ++ text ++ back) = text := by
  have ends : back.dropWhile isBlank = [] := List.dropWhile_eq_nil_iff.mpr behind
  have starts : (text ++ back).dropWhile isBlank = if text = [] then [] else text ++ back := by
    cases text with
    | nil => exact ends
    | cons c rest => exact List.dropWhile_cons_of_neg (by simp [solid c (by simp)])
  rw [stripChars, List.append_assoc, List.dropWhile_append_of_pos before, starts]
  split
  · rename_i empty
    rw [empty]
    rfl
  · rw [List.reverse_append, List.dropWhile_append_of_pos (by simpa using behind),
      dropWhile_of_solid (by simpa using solid), List.reverse_reverse]

/-- A text without blanks is left as it is. -/
theorem stripChars_eq (h : ∀ c ∈ text, isBlank c = false) : stripChars text = text := by
  have whole : stripChars ([] ++ text ++ []) = text := stripChars_around nofun nofun h
  rwa [List.nil_append, List.append_nil] at whole

end Sqlwright.Text
