import Mathlib.Algebra.Ring.Parity
import Sqlwright.Query.Statement

/-!
Shown texts, read back. Whether a quote ends a shown text depends on how many backslashes stand in
front of it: what is written for a character leaves an even number of them behind, but for the quote
of an escaped quote, which stands behind one more. Main statement: `Value.shown_text_decodes`.
-/

namespace Sqlwright

/-- How many backslashes stand at the end of a text. -/
def backslashRun (text : List Char) : Nat := (text.reverse.takeWhile (· = '\\')).length

/-- What a backslash stands for together with the character behind it. -/
def escape? : Char → Option Char
  | '\\' => some '\\'
  | '\'' => some '\''
  | '"' => some '"'
  | '0' => some '\x00'
  | _ => none

def readShown : List Char → Option (List Char)
  | [] => some []
  | '\\' :: c :: rest => do return (← escape? c) :: (← readShown rest)
  | c :: rest => if c = '\\' then none else do return c :: (← readShown rest)

variable {text before after front : List Char} {c : Char}

theorem backslashRun_concat (text : List Char) (c : Char) :
    backslashRun (text ++ [c]) = if c = '\\' then backslashRun text + 1 else 0 := by
  rw [backslashRun, List.reverse_append, List.reverse_singleton, List.singleton_append,
    List.takeWhile_cons]
  by_cases same : c = '\\'
  · simp [same, backslashRun]
  · simp [same]

/-- The character itself, or a backslash and another character, which is a backslash for a backslash
only. -/
theorem shownChar_cases (c : Char) :
    (shownChar c = [c] ∧ c ≠ '\\' ∧ c ≠ '\'') ∨
      ∃ sign, shownChar c = ['\\', sign] ∧ escape? sign = some c := by
  unfold shownChar
  split
  · subst c
    exact Or.inr ⟨'\\', rfl, rfl⟩
  · split
    · subst c
      exact Or.inr ⟨'\'', rfl, rfl⟩
    · split
      · subst c
        exact Or.inr ⟨'"', rfl, rfl⟩
      · split
        · subst c
          exact Or.inr ⟨'0', rfl, rfl⟩
        · exact Or.inl ⟨rfl, ‹_›, ‹_›⟩

/-- What is shown for a text is read back character by character. -/
theorem readShown_flatMap (text : List Char) : readShown (text.flatMap shownChar) = some text := by
  induction text with
  | nil => rfl
  | cons c rest ih =>
    rw [List.flatMap_cons]
    rcases shownChar_cases c with ⟨plain, other, -⟩ | ⟨sign, escaped, meaning⟩
    · rw [plain, List.singleton_append, readShown]
      · simp [other, ih]
      · rintro _ _ rfl
        exact absurd rfl other
    · rw [escaped, List.cons_append, List.singleton_append, readShown, meaning, ih]
      rfl

/-- Behind what is written for a character the number of backslashes is even again. -/
theorem even_backslashRun_shownChar (even : Even (backslashRun front)) (c : Char) :
    Even (backslashRun (front ++ shownChar c)) := by
  rcases shownChar_cases c with ⟨plain, other, -⟩ | ⟨sign, escaped, -⟩
  · rw [plain, backslashRun_concat, if_neg other]
    exact Even.zero
  · rw [escaped, ← List.singleton_append, ← List.append_assoc, backslashRun_concat,
      backslashRun_concat, if_pos rfl]
    split
    · exact even.add_one.add_one
    · exact Even.zero

/-- Behind shown characters the backslashes are even in number, so the next one is not escaped. -/
theorem even_backslashRun_flatMap (even : Even (backslashRun front)) (text : List Char) :
    Even (backslashRun (front ++ text.flatMap shownChar)) := by
  induction text generalizing front with
  | nil => simpa using even
  | cons c rest ih =>
    rw [List.flatMap_cons, ← List.append_assoc]
    exact ih (even_backslashRun_shownChar even c)

/-- A quote in what is written for a character stands behind a backslash alone. -/
theorem eq_of_shownChar_quote (h : shownChar c = before ++ '\'' :: after) : before = ['\\'] := by
  rcases shownChar_cases c with ⟨plain, -, other⟩ | ⟨sign, escaped, -⟩
  · rw [plain] at h
    cases before with
    | nil =>
      cases h
      exact absurd rfl other
    | cons first more => simp at h
  · rw [escaped] at h
    cases before with
    | nil => cases h
    | cons first more =>
      cases more with
      | nil =>
        cases h
        rfl
      | cons second others => simp at h

/-- A quote in what is written for a text stands behind an odd number of backslashes. The induction
is on the text; what has been written before it ends in an even number of them. -/
theorem odd_backslashRun_of_quote (even : Even (backslashRun front))
    (h : text.flatMap shownChar = before ++ '\'' :: after) :
    Odd (backslashRun (front ++ before)) := by
  induction text generalizing front before with
  | nil => simp at h
  | cons c rest ih =>
    rw [List.flatMap_cons] at h
    rcases List.append_eq_append_iff.mp h with ⟨later, rfl, behind⟩ | ⟨inside, split, behind⟩
    · rw [← List.append_assoc]
      exact ih (even_backslashRun_shownChar even c) behind
    · cases inside with
      | nil =>
        rw [List.append_nil] at split
        rw [← split]
        have next : Odd (backslashRun (front ++ shownChar c ++ [])) :=
          ih (even_backslashRun_shownChar even c) behind.symm
        rwa [List.append_nil] at next
      | cons sign others =>
        cases behind
        rw [eq_of_shownChar_quote split, backslashRun_concat, if_pos rfl]
        exact even.add_one

theorem toList_shown_text (s : String) :
    (Value.text s).shown.toList = '\'' :: s.toList.flatMap shownChar ++ ['\''] := by
  rw [Value.shown, shownText, String.toList_ofList]
  · rfl
  all_goals nofun

/-- A text is shown between two quotes. A quote between them stands behind an odd number of
backslashes and the closing one behind an even number, so it is the first that is not escaped; what
stands between them is read back as the text. So no two texts are shown alike. -/
theorem Value.shown_text_decodes :
    (∀ s : String, ∃ inside, (Value.text s).shown.toList = '\'' :: inside ++ ['\''] ∧
      (∀ before after, inside = before ++ '\'' :: after → Odd (backslashRun before)) ∧
      Even (backslashRun inside) ∧ readShown inside = some s.toList) ∧
    Function.Injective fun s => (Value.text s).shown := by
  have none : Even (backslashRun []) := Even.zero
  constructor
  · intro s
    exact ⟨s.toList.flatMap shownChar, toList_shown_text s,
      fun before after split => odd_backslashRun_of_quote none split,
      even_backslashRun_flatMap none s.toList, readShown_flatMap s.toList⟩
  · intro s s' same
    have letters := congrArg String.toList same
    simp only [toList_shown_text, List.cons_append, List.cons.injEq, List.append_cancel_right_eq,
      true_and] at letters
    have read := congrArg readShown letters
    rw [readShown_flatMap, readShown_flatMap, Option.some.injEq] at read
    exact String.toList_inj.mp read

/-- A backslash, a quote, and a NUL in front of a digit. -/
theorem Value.shown_text_decodes_hostile :
    (Value.text "\\'\x001").shown = "'\\\\\\'\\01'" ∧ Odd (backslashRun "\\\\\\".toList) ∧
      readShown "\\\\\\'\\01".toList = some "\\'\x001".toList := by
  obtain ⟨inside, shown, odd, -, read⟩ := Value.shown_text_decodes.1 "\\'\x001"
  have text : (Value.text "\\'\x001").shown = "'\\\\\\'\\01'" := by rfl
  obtain rfl : inside = "\\\\\\'\\01".toList := by
    rw [text] at shown
    exact List.append_cancel_right (List.cons.inj shown.symm).2
  exact ⟨text, odd _ "\\01".toList (by rfl), read⟩

end Sqlwright
