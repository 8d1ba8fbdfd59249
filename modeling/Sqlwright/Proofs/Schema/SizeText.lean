import Sqlwright.Proofs.Text.Name
import Sqlwright.Proofs.Text.Strip
import Sqlwright.Schema.Column

/-!
The texts that are read as sizes of columns. A size is canonical if it is a positive count, the word
MAX, or a text of ASCII digits, one number or two around a comma, the first of them positive. What a
caller gives as a text is looked at without the blanks at its ends, in digits of any script and
without regard to the number, and is kept without its spaces. So what is kept is canonical exactly
if it was given plainly (`Column.canonical_iff_of_readSize`).
-/

namespace Sqlwright

open Number Text

/-- ASCII digits of a positive number. -/
def IsCount (digits : List Char) : Prop :=
  (∀ c ∈ digits, c.isDigit = true) ∧ 0 < Nat.ofDigitChars 10 digits 0

/-- The word MAX, a positive number, or a positive number and another one behind a comma. -/
def IsCanonicalSize (text : List Char) : Prop :=
  text = "MAX".toList ∨ ∃ precision, IsCount precision ∧
    (text = precision ∨ ∃ scale, scale ≠ [] ∧ (∀ c ∈ scale, c.isDigit = true) ∧
      text = precision ++ ',' :: scale)

/-- A size in the form that it should be kept in. -/
def Size.Canonical : Size → Prop
  | .count n => 0 < n
  | .text s => IsCanonicalSize s.toList

/-- A text of a size without blanks other than spaces, without digits other than those of ASCII, and
with a first number that is not zero. -/
structure IsPlainSize (text : List Char) : Prop where
  blanks : ∀ c ∈ text, isBlank c = true → c = ' '
  digits : ∀ c ∈ text, isDecimalDigit c = true → c.isDigit = true
  positive : stripChars text = "MAX".toList ∨
    0 < Nat.ofDigitChars 10 ((stripChars text).takeWhile isDecimalDigit) 0

/-- A size that is given plainly. -/
def Value.PlainSize : Value → Prop
  | .int _ => True
  | .text s => IsPlainSize s.toList
  | _ => False

namespace Column

variable {text : List Char}

/-- What is read as the text of a size: MAX, digits, or digits around a comma that may have blanks
on both sides. -/
theorem isSizeText_cases (h : isSizeText text = true) :
    text = "MAX".toList ∨
      text.takeWhile isDecimalDigit ≠ [] ∧
        (text = text.takeWhile isDecimalDigit ∨
          ∃ before after second, (∀ c ∈ before, isBlank c = true) ∧
            (∀ c ∈ after, isBlank c = true) ∧ second ≠ [] ∧
            (∀ c ∈ second, isDecimalDigit c = true) ∧
            text = text.takeWhile isDecimalDigit ++ before ++ ',' :: (after ++ second)) := by
  unfold isSizeText at h
  dsimp only at h
  rw [Bool.or_eq_true, Bool.and_eq_true, Bool.or_eq_true, Bool.not_eq_true',
    List.isEmpty_eq_false_iff] at h
  have whole := text.takeWhile_append_dropWhile (p := isDecimalDigit)
  rcases h with unbounded | ⟨present, single | pair⟩
  · exact Or.inl (of_decide_eq_true unbounded)
  · refine Or.inr ⟨present, Or.inl ?_⟩
    rw [List.isEmpty_iff.mp single, List.append_nil] at whole
    exact whole.symm
  · refine Or.inr ⟨present, Or.inr ?_⟩
    have before := List.takeWhile_append_dropWhile (p := isBlank)
      (l := text.dropWhile isDecimalDigit)
    split at pair
    · rename_i rest behind
      have after := rest.takeWhile_append_dropWhile (p := isBlank)
      rw [Bool.and_eq_true, Bool.not_eq_true', List.isEmpty_eq_false_iff, List.all_eq_true] at pair
      refine ⟨(text.dropWhile isDecimalDigit).takeWhile isBlank, rest.takeWhile isBlank,
        rest.dropWhile isBlank, fun c => List.mem_takeWhile_imp, fun c => List.mem_takeWhile_imp,
        pair.1, pair.2, ?_⟩
      rw [after, List.append_assoc, ← behind, before, whole]
    · cases pair

def isSizeChar (c : Char) : Bool :=
  isBlank c || isDecimalDigit c || [',', 'M', 'A', 'X'].contains c

theorem isSizeChar_of_isSizeText (h : isSizeText text = true) :
    ∀ c ∈ text, isSizeChar c = true := by
  have digit {c : Char} (h : isDecimalDigit c = true) : isSizeChar c = true := by
    simp [isSizeChar, h]
  have blank {c : Char} (h : isBlank c = true) : isSizeChar c = true := by
    simp [isSizeChar, h]
  have first : ∀ c ∈ text.takeWhile isDecimalDigit, isSizeChar c = true :=
    fun c member => digit (List.mem_takeWhile_imp member)
  rcases isSizeText_cases h with unbounded | ⟨-, single | ⟨_, _, _, before, after, -, second, pair⟩⟩
  · rw [unbounded]
    exact List.all_eq_true.mp (by decide)
  · rw [single]
    exact first
  · rw [pair]
    refine List.forall_mem_append.mpr ⟨List.forall_mem_append.mpr
      ⟨first, fun c member => blank (before c member)⟩, List.forall_mem_cons.mpr ⟨by decide,
      List.forall_mem_append.mpr ⟨fun c member => blank (after c member),
        fun c member => digit (second c member)⟩⟩⟩

/-- What was read as a size holds digits, blanks, a comma or the word MAX. -/
theorem isSizeChar_of_readSize {column : String} {given : Value} {size : Size}
    (h : readSize column given = .ok size) :
    (∃ n, size.render = intText n) ∨ ∀ c ∈ size.render.toList, isSizeChar c = true := by
  unfold readSize at h
  split at h
  · split at h
    · cases h
    · cases h
      exact Or.inl ⟨_, rfl⟩
  · split at h
    · rename_i valid
      cases h
      refine Or.inr fun c member => ?_
      rw [Size.render, String.toList_ofList] at member
      rcases mem_stripChars (List.mem_filter.mp member).1 with blank | inside
      · simp [isSizeChar, blank]
      · exact isSizeChar_of_isSizeText valid c inside
    · cases h
  · cases h

section Canonical

/-- The characters of a canonical size are ASCII digits, the comma and the letters of MAX. -/
theorem letters_of_canonical (h : IsCanonicalSize text) :
    ∀ c ∈ text, c.isDigit = true ∨ c ∈ [',', 'M', 'A', 'X'] := by
  rcases h with rfl | ⟨precision, ⟨first, -⟩, rfl | ⟨scale, -, second, rfl⟩⟩
  · exact fun c member => Or.inr (List.mem_cons_of_mem _ member)
  · exact fun c member => Or.inl (first c member)
  · exact List.forall_mem_append.mpr ⟨fun c member => Or.inl (first c member),
      List.forall_mem_cons.mpr ⟨Or.inr (by simp), fun c member => Or.inl (second c member)⟩⟩

theorem takeWhile_isDigit {digits rest : List Char} (h : ∀ c ∈ digits, c.isDigit = true) :
    (digits ++ ',' :: rest).takeWhile Char.isDigit = digits := by
  have comma : (',' :: rest).takeWhile Char.isDigit = [] := rfl
  rw [List.takeWhile_append_of_pos h, comma, List.append_nil]

theorem positive_of_canonical (h : IsCanonicalSize text) :
    text = "MAX".toList ∨ 0 < Nat.ofDigitChars 10 (text.takeWhile Char.isDigit) 0 := by
  refine h.imp_right ?_
  rintro ⟨precision, ⟨digits, positive⟩, rfl | ⟨scale, -, -, rfl⟩⟩
  · rwa [List.takeWhile_eq_self_iff.mpr digits]
  · rwa [takeWhile_isDigit digits]

theorem filter_digits (digits : ∀ c ∈ text, isDecimalDigit c = true) :
    text.filter (· != ' ') = text := by
  refine List.filter_eq_self.mpr fun c member => bne_iff_ne.mpr ?_
  rintro rfl
  exact absurd (digits ' ' member) (by decide)

section Spaces

variable (blanks : ∀ c ∈ text, isBlank c = true → c = ' ')

include blanks

theorem filter_blanks {part : List Char} (blank : ∀ c ∈ part, isBlank c = true)
    (inside : part ⊆ text) : part.filter (· != ' ') = [] :=
  List.filter_eq_nil_iff.mpr fun c member => by simp [blanks c (inside member) (blank c member)]

/-- Where all blanks are spaces, those at the ends are dropped with the others. -/
theorem filter_stripChars : text.filter (· != ' ') = (stripChars text).filter (· != ' ') := by
  obtain ⟨front, back, leading, trailing, whole⟩ := exists_stripChars text
  have before : front ⊆ text := by
    rw [whole]
    simp
  have behind : back ⊆ text := by
    rw [whole]
    simp
  refine (congrArg (List.filter (· != ' ')) whole).trans ?_
  rw [List.filter_append, List.filter_append, filter_blanks blanks leading before,
    filter_blanks blanks trailing behind, List.nil_append, List.append_nil]

/-- What is kept of the text of a size whose blanks are all spaces. -/
theorem filter_spaces (valid : isSizeText (stripChars text) = true) :
    stripChars text = "MAX".toList ∧ text.filter (· != ' ') = "MAX".toList ∨
      (stripChars text).takeWhile isDecimalDigit ≠ [] ∧
        (text.filter (· != ' ') = (stripChars text).takeWhile isDecimalDigit ∨
          ∃ second, second ≠ [] ∧ (∀ c ∈ second, isDecimalDigit c = true) ∧
            text.filter (· != ' ') =
              (stripChars text).takeWhile isDecimalDigit ++ ',' :: second) := by
  have first : ((stripChars text).takeWhile isDecimalDigit).filter (· != ' ') =
      (stripChars text).takeWhile isDecimalDigit :=
    filter_digits fun c => List.mem_takeWhile_imp
  rw [filter_stripChars blanks]
  rcases isSizeText_cases valid with
    unbounded | ⟨present, single | ⟨before, after, second, gap, gap', some, digits, pair⟩⟩
  · rw [unbounded]
    exact Or.inl ⟨rfl, rfl⟩
  · refine Or.inr ⟨present, Or.inl ?_⟩
    exact (congrArg (List.filter (· != ' ')) single).trans first
  · have inside : before ++ after ⊆ text := by
      refine List.Subset.trans (fun c member => ?_) (stripChars_subset text)
      rw [pair]
      rcases List.mem_append.mp member with here | there
      · simp [here]
      · simp [there]
    obtain ⟨left, right⟩ := List.append_subset.mp inside
    refine Or.inr ⟨present, Or.inr ⟨second, some, digits, ?_⟩⟩
    refine (congrArg (List.filter (· != ' ')) pair).trans ?_
    rw [List.filter_append, List.filter_append, first, filter_blanks blanks gap left,
      List.append_nil, List.filter_cons_of_pos (by rfl), List.filter_append,
      filter_blanks blanks gap' right, filter_digits digits, List.nil_append]

end Spaces

section Kept

variable (valid : isSizeText (stripChars text) = true)

include valid

/-- What comes out canonical was given plainly. -/
theorem plain_of_canonical (canonical : IsCanonicalSize (text.filter (· != ' '))) :
    IsPlainSize text := by
  have kept {c : Char} (member : c ∈ text) (other : c ≠ ' ') :
      c.isDigit = true ∨ c ∈ [',', 'M', 'A', 'X'] :=
    letters_of_canonical canonical c (List.mem_filter.mpr ⟨member, bne_iff_ne.mpr other⟩)
  have all : [',', 'M', 'A', 'X'].all (fun c => !isBlank c && !isDecimalDigit c) = true := by
    decide
  have letters {c : Char} (letter : c ∈ [',', 'M', 'A', 'X']) :
      isBlank c = false ∧ isDecimalDigit c = false := by
    simpa using List.all_eq_true.mp all c letter
  have blanks : ∀ c ∈ text, isBlank c = true → c = ' ' := by
    intro c member blank
    by_contra other
    rcases kept member other with digit | letter
    · rw [not_isBlank_of_isDigit digit] at blank
      cases blank
    · rw [(letters letter).1] at blank
      cases blank
  have digits : ∀ c ∈ text, isDecimalDigit c = true → c.isDigit = true := by
    intro c member digit
    have other : c ≠ ' ' := by
      rintro rfl
      exact absurd digit (by decide)
    refine (kept member other).resolve_right fun letter => ?_
    rw [(letters letter).2] at digit
    cases digit
  refine ⟨blanks, digits, ?_⟩
  rcases filter_spaces blanks valid with ⟨unbounded, -⟩ | ⟨present, shape⟩
  · exact Or.inl unbounded
  · -- The digits at the start of what is kept are those of the first number.
    have first : (text.filter (· != ' ')).takeWhile Char.isDigit =
        (stripChars text).takeWhile isDecimalDigit := by
      have decimal : ∀ c ∈ (stripChars text).takeWhile isDecimalDigit, c.isDigit = true :=
        fun c member => digits c
          (stripChars_subset text ((List.takeWhile_sublist _).subset member))
          (List.mem_takeWhile_imp member)
      rcases shape with single | ⟨second, -, -, pair⟩
      · rw [single]
        exact List.takeWhile_eq_self_iff.mpr decimal
      · rw [pair]
        exact takeWhile_isDigit decimal
    rcases positive_of_canonical canonical with unbounded | positive
    · rw [unbounded] at first
      exact absurd first.symm present
    · exact Or.inr (first ▸ positive)

/-- What is given plainly comes out canonical. -/
theorem canonical_of_plain (plain : IsPlainSize text) :
    IsCanonicalSize (text.filter (· != ' ')) := by
  rcases filter_spaces plain.blanks valid with ⟨-, unbounded⟩ | ⟨present, shape⟩
  · exact Or.inl unbounded
  · refine Or.inr ⟨(stripChars text).takeWhile isDecimalDigit, ⟨fun c member => ?_, ?_⟩, ?_⟩
    · exact plain.digits c (stripChars_subset text ((List.takeWhile_sublist _).subset member))
        (List.mem_takeWhile_imp member)
    · refine plain.positive.resolve_left fun unbounded => present ?_
      rw [unbounded]
      rfl
    · refine shape.imp_right ?_
      rintro ⟨second, some, digits, pair⟩
      refine ⟨second, some, fun c member => ?_, pair⟩
      have here : c ∈ text.filter (· != ' ') := by
        rw [pair]
        simp [member]
      exact plain.digits c (List.mem_filter.mp here).1 (digits c member)

end Kept

/-- A size is canonical exactly if it was given plainly. -/
theorem canonical_iff_of_readSize {column : String} {given : Value} {size : Size}
    (h : readSize column given = .ok size) : size.Canonical ↔ given.PlainSize := by
  unfold readSize at h
  split at h
  · split at h
    · cases h
    · rename_i positive
      cases h
      exact iff_of_true (Int.not_le.mp positive) trivial
  · split at h
    · rename_i valid
      cases h
      rw [Size.Canonical, String.toList_ofList]
      exact ⟨plain_of_canonical valid, canonical_of_plain valid⟩
    · cases h
  · cases h

end Canonical

end Column

end Sqlwright
