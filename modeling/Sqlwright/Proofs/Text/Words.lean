import Sqlwright.Proofs.Text.Name
import Sqlwright.Proofs.Text.Strip
import Sqlwright.Text.Split

/-!
Texts as words with blanks around them. A text consists of words if they stand in it one after
another, with blanks between any two and perhaps at both ends. The words of a text are the only ones
that it consists of. Main statement: `consists_iff`.
-/

namespace Sqlwright.Text

/-- Texts without blanks that are not empty. -/
def IsWord (text : String) : Prop := text.toList ≠ [] ∧ ∀ c ∈ text.toList, isBlank c = false

/-- Texts of blanks alone. -/
def IsGap (text : String) : Prop := ∀ c ∈ text.toList, isBlank c = true

/-- A text of words, with blanks between any two of them and perhaps in front and behind. -/
inductive Consists : List String → String → Prop
  | gap {gap : String} (blank : IsGap gap) : Consists [] gap
  | word {gap word rest : String} {others : List String} (blank : IsGap gap) (solid : IsWord word)
    (apart : ∀ c ∈ rest.toList.head?, isBlank c = true) (behind : Consists others rest) :
    Consists (word :: others) (gap ++ word ++ rest)

variable {text gap word rest : String}

theorem isWord_of_all {text : String}
    (h : (!text.toList.isEmpty && text.toList.all (!isBlank ·)) = true) : IsWord text := by
  simpa [IsWord] using h

/-- Blanks in front of a text make no difference for its words. -/
theorem words_gap (blank : IsGap gap) (text : String) : words (gap ++ text) = words text := by
  have skipped (front : List Char) (blank : ∀ c ∈ front, isBlank c = true) :
      wordLists (front ++ text.toList) = wordLists text.toList := by
    induction front with
    | nil => rfl
    | cons c others ih =>
      have here := blank c (by simp)
      have later := ih fun other member => blank other (by simp [member])
      rw [← later]
      simp [wordLists, pieces, here]
  rw [words, String.toList_append, skipped gap.toList blank, words]

theorem words_word {word : String} (h : IsWord word) : words word = [word] := by
  simp [words, wordLists, pieces_eq_singleton h.2, h.1]

/-- A word ends where the first blank stands. -/
theorem words_append (solid : IsWord word) (apart : ∀ c ∈ rest.toList.head?, isBlank c = true) :
    words (word ++ rest) = word :: words rest := by
  cases letters : rest.toList with
  | nil =>
    obtain rfl := String.toList_eq_nil_iff.mp letters
    rw [String.append_empty, words_word solid]
    rfl
  | cons c later =>
    have blank : isBlank c = true := apart c (by simp [letters])
    have cut : pieces isBlank (word.toList ++ c :: later) = word.toList :: pieces isBlank later := by
      rw [pieces_append_cut blank, pieces_eq_singleton solid.2, List.singleton_append]
    simp [words, wordLists, letters, cut, pieces, blank, solid.1]

theorem words_of_consists {others : List String} (h : Consists others text) :
    words text = others := by
  induction h with
  | @gap gap blank =>
    have none := words_gap blank ""
    rwa [String.append_empty] at none
  | word blank solid apart _ ih =>
    rw [String.append_assoc, words_gap blank, words_append solid apart, ih]

/-- A character in front of a text makes a gap wider, or a word longer, or is a word of its own. -/
theorem exists_consists_cons (c : Char) {others : List String} (h : Consists others text) :
    ∃ more, Consists more (String.singleton c ++ text) := by
  cases blank : isBlank c with
  | true =>
    have wider {gap : String} (old : IsGap gap) : IsGap (String.singleton c ++ gap) := by
      simpa [IsGap, blank] using old
    cases h with
    | gap old => exact ⟨[], .gap (wider old)⟩
    | @word gap word rest others old solid apart behind =>
      refine ⟨word :: others, ?_⟩
      rw [← String.append_assoc, ← String.append_assoc]
      exact .word (wider old) solid apart behind
  | false =>
    have single : IsWord (String.singleton c) := by simp [IsWord, blank]
    have apart : IsGap "" := by simp [IsGap]
    cases h with
    | gap old =>
      refine ⟨[String.singleton c], ?_⟩
      have begun : ∀ first ∈ text.toList.head?, isBlank first = true := fun first member =>
        old first (List.mem_of_mem_head? member)
      simpa using Consists.word apart single begun (.gap old)
    | @word gap word rest others old solid behind later =>
      by_cases tight : gap = ""
      · subst tight
        have longer : IsWord (String.singleton c ++ word) := by
          simpa [IsWord, blank] using solid.2
        exact ⟨(String.singleton c ++ word) :: others, by
          simpa [String.append_assoc] using Consists.word apart longer behind later⟩
      · obtain ⟨first, more, letters⟩ := List.exists_cons_of_ne_nil fun empty =>
          tight (String.toList_eq_nil_iff.mp empty)
        have begun : ∀ c ∈ (gap ++ word ++ rest).toList.head?, isBlank c = true := by
          have here : isBlank first = true := old first (by simp [letters])
          simpa [String.toList_append, letters] using here
        exact ⟨String.singleton c :: word :: others, by
          simpa [String.append_assoc] using
            Consists.word apart single begun (.word old solid behind later)⟩

/-- Every text consists of some words with blanks around them. -/
theorem exists_consists (text : String) : ∃ others, Consists others text := by
  have all (letters : List Char) : ∃ others, Consists others (String.ofList letters) := by
    induction letters with
    | nil => exact ⟨[], .gap (by simp [IsGap])⟩
    | cons c rest ih =>
      obtain ⟨others, behind⟩ := ih
      obtain ⟨more, whole⟩ := exists_consists_cons c behind
      have front : String.singleton c ++ String.ofList rest = String.ofList (c :: rest) :=
        String.toList_inj.mp (by simp)
      exact ⟨more, front ▸ whole⟩
  simpa using all text.toList

/-- The words of a text are the only ones that it consists of. -/
theorem consists_iff {others : List String} : Consists others text ↔ words text = others := by
  refine ⟨words_of_consists, ?_⟩
  rintro rfl
  obtain ⟨others, h⟩ := exists_consists text
  rwa [words_of_consists h]

/-- What is left of a text of one word without the blanks at its ends is the word. -/
theorem consists_singleton_iff : Consists [word] text ↔ IsWord word ∧ strip text = word := by
  constructor
  · intro h
    cases h with
    | word blank solid _ behind =>
      cases behind with
      | gap ends =>
        refine ⟨solid, ?_⟩
        rw [strip, String.toList_append, String.toList_append, stripChars_around blank ends solid.2,
          String.ofList_toList]
  · rintro ⟨solid, rfl⟩
    obtain ⟨front, back, before, behind, whole⟩ := exists_stripChars text.toList
    have split : text = String.ofList front ++ strip text ++ String.ofList back := by
      apply String.toList_inj.mp
      rw [String.toList_append, String.toList_append, String.toList_ofList, String.toList_ofList,
        strip, String.toList_ofList, ← whole]
    have begun : ∀ c ∈ (String.ofList back).toList.head?, isBlank c = true := fun c member =>
      behind c (by simpa using List.mem_of_mem_head? member)
    have gap : IsGap (String.ofList front) := by simpa [IsGap] using before
    have ends : IsGap (String.ofList back) := by simpa [IsGap] using behind
    have read := Consists.word gap solid begun (.gap ends)
    rwa [← split] at read

end Sqlwright.Text
