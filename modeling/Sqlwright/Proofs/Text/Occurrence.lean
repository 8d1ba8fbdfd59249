import Mathlib.Data.List.Infix

/-!
How often a text stands in another one. Places may overlap. Where two texts are put one behind the
other, the places add up unless the pattern runs over the seam.
-/

namespace Sqlwright.Text

/-- The number of places of a text at which a pattern begins. -/
def occurrences (pattern text : List Char) : Nat := text.tails.countP pattern.isPrefixOf

/-- The pattern begins at the end of one text and ends at the beginning of the next. -/
def Straddles (pattern text next : List Char) : Prop :=
  ∃ front back, front ≠ [] ∧ back ≠ [] ∧ pattern = front ++ back ∧ front <:+ text ∧ back <+: next

variable {pattern text next : List Char} {c : Char}

@[simp] theorem occurrences_nil : occurrences (c :: pattern) [] = 0 := rfl

theorem occurrences_cons (pattern text : List Char) (c : Char) :
    occurrences pattern (c :: text) =
      occurrences pattern text + if pattern.isPrefixOf (c :: text) then 1 else 0 := by
  rw [occurrences, List.tails_cons, List.countP_cons, occurrences]

theorem occurrences_le_cons (pattern text : List Char) (c : Char) :
    occurrences pattern text ≤ occurrences pattern (c :: text) := by
  rw [occurrences_cons]
  omega

/-- The end of a pattern stands wherever the pattern does, one place later. -/
theorem occurrences_cons_le (pattern text : List Char) (c : Char) :
    occurrences (c :: pattern) text ≤ occurrences pattern text := by
  have later : occurrences (c :: pattern) text ≤ occurrences pattern text.tail := by
    have behind (first : Char) (rest : List Char) :
        (if (c :: pattern).isPrefixOf (first :: rest) then 1 else 0) ≤
          if pattern.isPrefixOf rest then 1 else 0 := by
      rw [List.isPrefixOf]
      cases pattern.isPrefixOf rest with
      | false => simp
      | true => split <;> simp
    induction text with
    | nil => simp
    | cons first rest ih =>
      have here := behind first rest
      rw [occurrences_cons, List.tail_cons]
      cases rest with
      | nil => simpa [occurrences] using here
      | cons second more =>
        rw [List.tail_cons] at ih
        rw [occurrences_cons pattern more]
        omega
  cases text with
  | nil => simp
  | cons first rest => exact later.trans (occurrences_le_cons pattern rest first)

theorem occurrences_append_le_right (front back text : List Char) :
    occurrences (front ++ back) text ≤ occurrences back text := by
  induction front with
  | nil => exact le_rfl
  | cons c rest ih => exact (occurrences_cons_le _ text c).trans ih

theorem occurrences_append_le_left (front back text : List Char) :
    occurrences (front ++ back) text ≤ occurrences front text := by
  refine List.countP_mono_left fun tail _ here => ?_
  rw [List.isPrefixOf_iff_prefix] at here ⊢
  exact (List.prefix_append front back).trans here

/-- A pattern does not occur without all of its characters. -/
theorem occurrences_eq_zero (needed : c ∈ pattern) (absent : c ∉ text) :
    occurrences pattern text = 0 := by
  refine List.countP_eq_zero.mpr fun tail member here => absent ?_
  rw [List.isPrefixOf_iff_prefix] at here
  exact ((List.mem_tails tail text).mp member).subset (here.subset needed)

/-- A pattern does not begin at a character that it does not hold. -/
theorem not_straddles_concat (h : c ∉ pattern) : ¬ Straddles pattern (text ++ [c]) next := by
  rintro ⟨front, back, hfront, -, rfl, ends, -⟩
  rcases List.suffix_concat_iff.mp ends with empty | ⟨rest, rfl, -⟩
  · exact hfront empty
  · exact h (by simp)

theorem prefix_append_iff (h : ¬ Straddles pattern text next) (present : text ≠ []) :
    pattern <+: text ++ next ↔ pattern <+: text := by
  refine ⟨?_, fun here => here.trans (List.prefix_append text next)⟩
  rintro ⟨tail, same⟩
  rcases List.append_eq_append_iff.mp same with ⟨rest, rfl, -⟩ | ⟨back, rfl, rfl⟩
  · exact List.prefix_append pattern rest
  · cases back with
    | nil => exact ⟨[], by simp⟩
    | cons c back =>
      exact absurd ⟨text, c :: back, present, by simp, rfl, List.suffix_rfl,
        List.prefix_append _ _⟩ h

/-- The places in two texts add up where the pattern does not run over the seam. -/
theorem occurrences_append (h : ¬ Straddles pattern text next) (present : pattern ≠ []) :
    occurrences pattern (text ++ next) = occurrences pattern text + occurrences pattern next := by
  induction text with
  | nil =>
    cases pattern with
    | nil => exact absurd rfl present
    | cons => simp
  | cons c rest ih =>
    have apart : ¬ Straddles pattern rest next := by
      rintro ⟨front, back, hfront, hback, same, ends, begins⟩
      exact h ⟨front, back, hfront, hback, same, ends.trans (List.suffix_cons c rest), begins⟩
    have same : pattern.isPrefixOf (c :: (rest ++ next)) = pattern.isPrefixOf (c :: rest) := by
      rw [Bool.eq_iff_iff, List.isPrefixOf_iff_prefix, List.isPrefixOf_iff_prefix]
      exact prefix_append_iff h (by simp)
    rw [List.cons_append, occurrences_cons, ih apart, occurrences_cons, same]
    omega

/-- Places in one of two texts are places in both together. -/
theorem le_occurrences_append (present : pattern ≠ []) (text next : List Char) :
    occurrences pattern text + occurrences pattern next ≤ occurrences pattern (text ++ next) := by
  induction text with
  | nil =>
    cases pattern with
    | nil => exact absurd rfl present
    | cons => simp
  | cons c rest ih =>
    have more : pattern.isPrefixOf (c :: rest) = true →
        pattern.isPrefixOf (c :: (rest ++ next)) = true := by
      rw [List.isPrefixOf_iff_prefix, List.isPrefixOf_iff_prefix]
      exact fun here => here.trans (List.prefix_append (c :: rest) next)
    rw [List.cons_append, occurrences_cons, occurrences_cons]
    split <;> split <;> simp_all <;> omega

end Sqlwright.Text
