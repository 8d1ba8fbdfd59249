import Mathlib
import Sqlwright.Text.LowerCase

/-!
Texts that differ in the case of ASCII letters alone. They have the same lower-case form, the
letters of other scripts around them included: a sigma takes its final form by whether its
neighbours have a case, not by which one. Main statement: `Text.SameLetters.lower`.
-/

namespace Sqlwright.Text

/-- Texts that are the same but for the case of ASCII letters. -/
def SameLetters (s t : String) : Prop := s.toList.map Char.toLower = t.toList.map Char.toLower

instance (s t : String) : Decidable (SameLetters s t) := inferInstanceAs (Decidable (_ = _))

/-- What lower-casing asks of the ASCII letters. -/
theorem lowerChar_of_isAlpha {c : Char} (h : c.isAlpha = true) :
    lowerChar c = c.toLower ∧ c ≠ '\u0130' ∧ c ≠ 'Σ' ∧ inRanges c casedRanges = true ∧
      inRanges c passedOverRanges = false := by
  have ascii : c.toNat < 128 := by
    simp only [Char.isAlpha, Char.isUpper, Char.isLower, Bool.or_eq_true, Bool.and_eq_true,
      decide_eq_true_eq, UInt32.le_iff_toNat_le, ge_iff_le] at h
    change (65 ≤ c.toNat ∧ c.toNat ≤ 90) ∨ (97 ≤ c.toNat ∧ c.toNat ≤ 122) at h
    omega
  have all : ∀ n < 128, (Char.ofNat n).isAlpha = true →
      Char.ofNat n ≠ '\u0130' ∧ Char.ofNat n ≠ 'Σ' ∧
        inRanges (Char.ofNat n) casedRanges = true ∧
        inRanges (Char.ofNat n) passedOverRanges = false := by decide +kernel
  have here := all c.toNat ascii
  rw [Char.ofNat_toNat] at here
  exact ⟨lowerChar_of_ascii ascii, here h⟩

/-- Characters that are the same but for their case are the same, or both are letters. -/
theorem eq_or_isAlpha_of_toLower {c other : Char} (h : c.toLower = other.toLower) :
    c = other ∨ c.isAlpha = true ∧ other.isAlpha = true := by
  have both : c.isAlpha = other.isAlpha := by
    rw [← Char.isAlpha_toLower_eq_isAlpha c, h, Char.isAlpha_toLower_eq_isAlpha]
  cases letter : c.isAlpha with
  | true => exact Or.inr ⟨rfl, both ▸ letter⟩
  | false =>
    have same {c : Char} (plain : c.isAlpha = false) : c.toLower = c := by
      refine Char.toLower_eq_of_not_isUpper fun capital => ?_
      simp [Char.isAlpha, capital] at plain
    rw [same letter, same (both ▸ letter)] at h
    exact Or.inl h

/-- A letter that becomes a capital is that capital or its small form. -/
theorem eq_or_eq_toLower_of_toUpper {c capital : Char} (h : c.toUpper = capital) :
    c = capital ∨ c = capital.toLower := by
  by_cases small : c.isLower
  · right
    rw [← h, Char.toLower_toUpper_eq_toLower,
      Char.toLower_eq_of_not_isUpper (Char.not_isUpper_of_isLower small)]
  · left
    rwa [Char.toUpper_eq_of_not_isLower small] at h

theorem facesCased_congr {text other : List Char}
    (h : text.map Char.toLower = other.map Char.toLower) : facesCased text = facesCased other := by
  induction text generalizing other with
  | nil =>
    obtain rfl : other = [] := List.map_eq_nil_iff.mp h.symm
    rfl
  | cons c rest ih =>
    obtain ⟨c', rest', rfl, same, later⟩ := List.map_eq_cons_iff.mp h.symm
    rcases eq_or_isAlpha_of_toLower same with rfl | ⟨letter', letter⟩
    · cases passed : inRanges c' passedOverRanges with
      | true => simpa [facesCased, passed] using ih later.symm
      | false => simp [facesCased, passed]
    · obtain ⟨-, -, -, cased, stops⟩ := lowerChar_of_isAlpha letter
      obtain ⟨-, -, -, cased', stops'⟩ := lowerChar_of_isAlpha letter'
      simp [facesCased, cased, stops, cased', stops']

/-- Texts that differ in the case of ASCII letters have the same small letters. -/
theorem lowerFrom_congr {before before' text text' : List Char}
    (hbefore : before.map Char.toLower = before'.map Char.toLower)
    (h : text.map Char.toLower = text'.map Char.toLower) :
    lowerFrom before text = lowerFrom before' text' := by
  induction text generalizing before before' text' with
  | nil =>
    obtain rfl : text' = [] := List.map_eq_nil_iff.mp h.symm
    rfl
  | cons c rest ih =>
    obtain ⟨c', rest', rfl, same, later⟩ := List.map_eq_cons_iff.mp h.symm
    have behind : lowerFrom (c :: before) rest = lowerFrom (c' :: before') rest' :=
      ih (by simp [same, hbefore]) later.symm
    rcases eq_or_isAlpha_of_toLower same with rfl | ⟨letter', letter⟩
    · simp only [lowerFrom, behind, facesCased_congr hbefore, facesCased_congr later.symm]
    · obtain ⟨small, dotted, sigma, -⟩ := lowerChar_of_isAlpha letter
      obtain ⟨small', dotted', sigma', -⟩ := lowerChar_of_isAlpha letter'
      simp only [lowerFrom, behind, if_neg dotted, if_neg sigma, if_neg dotted', if_neg sigma',
        small, small', same]

/-- The case of ASCII letters makes no difference to the lower-case form. -/
theorem SameLetters.lower {s t : String} (h : SameLetters s t) : Text.lower s = Text.lower t :=
  congrArg String.ofList (lowerFrom_congr rfl h)

end Sqlwright.Text
