import Sqlwright.Identifier
import Sqlwright.Text.Split

/-!
The characters of names, and the texts that are cut from names or put together from them. A name
holds letters, digits and underscores of ASCII; between the dots of a qualified name stand names.
-/

namespace Sqlwright

open Text

namespace Text

/-- Where the characters of names stand in ASCII. -/
theorem toNat_of_isTail {c : Char} (h : Identifier.isTail c = true) :
    65 ≤ c.toNat ∧ c.toNat ≤ 90 ∨ 97 ≤ c.toNat ∧ c.toNat ≤ 122 ∨
      48 ≤ c.toNat ∧ c.toNat ≤ 57 ∨ c.toNat = 95 := by
  simp only [Identifier.isTail, Char.isAlphanum] at h
  unfold Char.isAlpha Char.isUpper Char.isLower Char.isDigit at h
  simp only [Bool.or_eq_true, Bool.and_eq_true, decide_eq_true_eq, beq_iff_eq,
    UInt32.le_iff_toNat_le, ge_iff_le] at h
  change (((65 ≤ c.toNat ∧ c.toNat ≤ 90) ∨ (97 ≤ c.toNat ∧ c.toNat ≤ 122)) ∨
    (48 ≤ c.toNat ∧ c.toNat ≤ 57)) ∨ c = '_' at h
  rcases h with ranges | rfl
  · omega
  · decide

theorem not_isBlank_of_isTail {c : Char} (h : Identifier.isTail c = true) : isBlank c = false := by
  have range := toNat_of_isTail h
  simp only [isBlank, Bool.or_eq_false_iff, Bool.and_eq_false_iff, decide_eq_false_iff_not,
    beq_eq_false_iff_ne]
  omega

theorem not_isBlank_of_isDigit {c : Char} (h : c.isDigit = true) : isBlank c = false := by
  refine not_isBlank_of_isTail ?_
  simp [Identifier.isTail, Char.isAlphanum, h]

theorem mem_join {separator : String} {parts : List String} {c : Char}
    (h : c ∈ (join separator parts).toList) :
    c ∈ separator.toList ∨ ∃ part ∈ parts, c ∈ part.toList := by
  induction parts using join.induct with
  | case1 => simp [join] at h
  | case2 part => exact Or.inr ⟨part, by simp, by simpa [join] using h⟩
  | case3 part next rest ih =>
    rw [join, String.toList_append, String.toList_append, List.mem_append, List.mem_append] at h
    rcases h with (first | between) | later
    · exact Or.inr ⟨part, by simp, first⟩
    · exact Or.inl between
    · rcases ih later with between | ⟨other, member, inside⟩
      · exact Or.inl between
      · exact Or.inr ⟨other, by simp [List.mem_cons.mp member], inside⟩

/-- The first piece is at the front of the text, the others are somewhere in it. -/
theorem pieces_isInfix {cut : Char → Bool} {text first : List Char} {others : List (List Char)}
    (h : pieces cut text = first :: others) :
    first <+: text ∧ ∀ piece ∈ others, piece <:+: text := by
  induction text generalizing first others with
  | nil =>
    cases h
    exact ⟨List.prefix_rfl, nofun⟩
  | cons c rest ih =>
    obtain ⟨next, more, found⟩ := List.exists_cons_of_ne_nil (pieces_ne_nil cut rest)
    obtain ⟨front, inside⟩ := ih found
    have behind : rest <:+: c :: rest := (List.suffix_cons c rest).isInfix
    have later : ∀ piece ∈ more, piece <:+: c :: rest := fun piece member =>
      (inside piece member).trans behind
    rw [pieces, found] at h
    split at h
    · cases h
      exact ⟨List.nil_prefix, List.forall_mem_cons.mpr ⟨front.isInfix.trans behind, later⟩⟩
    · cases h
      exact ⟨List.cons_prefix_cons.mpr ⟨rfl, front⟩, later⟩

/-- The pieces of a text stand in it. -/
theorem isInfix_of_mem_pieces {cut : Char → Bool} {text piece : List Char}
    (member : piece ∈ pieces cut text) : piece <:+: text := by
  obtain ⟨first, others, split⟩ := List.exists_cons_of_ne_nil (pieces_ne_nil cut text)
  obtain ⟨front, inside⟩ := pieces_isInfix split
  rw [split] at member
  rcases List.mem_cons.mp member with rfl | later
  · exact front.isInfix
  · exact inside piece later

theorem mem_pieces {cut : Char → Bool} {text piece : List Char} {c : Char}
    (member : piece ∈ pieces cut text) (h : c ∈ piece) : c ∈ text :=
  (isInfix_of_mem_pieces member).subset h

/-- A character that is not cut at goes on with the first piece behind it. -/
theorem pieces_cons {cut : Char → Bool} {c : Char} (uncut : cut c = false) (text : List Char) :
    pieces cut (c :: text) = (pieces cut text).modifyHead (c :: ·) := by
  rw [pieces, if_neg (by simp [uncut])]
  cases found : pieces cut text with
  | nil => exact absurd found (pieces_ne_nil cut text)
  | cons piece others => rfl

/-- There is one piece more than the text has cuts. -/
theorem length_pieces (cut : Char → Bool) (text : List Char) :
    (pieces cut text).length = text.countP cut + 1 := by
  induction text with
  | nil => rfl
  | cons c rest ih =>
    cases here : cut c with
    | true => simp [pieces, here, ih]
    | false => simp [pieces_cons here, here, ih]

/-- No piece holds a character that is cut at. -/
theorem uncut_of_mem_pieces {cut : Char → Bool} {text piece : List Char}
    (member : piece ∈ pieces cut text) : ∀ c ∈ piece, cut c = false := by
  induction text generalizing piece with
  | nil =>
    obtain rfl := List.mem_singleton.mp member
    nofun
  | cons c rest ih =>
    cases here : cut c with
    | true =>
      rw [pieces, if_pos here] at member
      rcases List.mem_cons.mp member with rfl | later
      · nofun
      · exact ih later
    | false =>
      rw [pieces_cons here] at member
      obtain ⟨first, others, split⟩ := List.exists_cons_of_ne_nil (pieces_ne_nil cut rest)
      rw [split] at member ih
      rcases List.mem_cons.mp member with rfl | later
      · exact List.forall_mem_cons.mpr ⟨here, ih (by simp)⟩
      · exact ih (by simp [later])

/-- The last piece of a text goes on with the first piece of what is put behind it. -/
theorem exists_pieces_append (cut : Char → Bool) (text : List Char) :
    ∃ front last, pieces cut text = front ++ [last] ∧ last <:+ text ∧ (front = [] → last = text) ∧
      ∀ next, pieces cut (text ++ next) = front ++ (pieces cut next).modifyHead (last ++ ·) := by
  induction text with
  | nil =>
    refine ⟨[], [], rfl, List.suffix_rfl, fun _ => rfl, fun next => ?_⟩
    rw [List.nil_append]
    cases pieces cut next <;> rfl
  | cons c rest ih =>
    obtain ⟨front, last, split, ends, whole, behind⟩ := ih
    cases here : cut c with
    | true =>
      refine ⟨[] :: front, last, ?_, ends.trans (List.suffix_cons c rest),
        fun none => absurd none (List.cons_ne_nil _ _), fun next => ?_⟩
      · rw [pieces, if_pos here, split]
        rfl
      · rw [List.cons_append, pieces, if_pos here, behind]
        rfl
    | false =>
      cases front with
      | nil =>
        obtain rfl := whole rfl
        refine ⟨[], c :: last, ?_, List.suffix_rfl, fun _ => rfl, fun next => ?_⟩
        · rw [pieces_cons here, split]
          rfl
        · rw [List.cons_append, pieces_cons here, behind]
          cases pieces cut next <;> rfl
      | cons first others =>
        refine ⟨(c :: first) :: others, last, ?_, ends.trans (List.suffix_cons c rest),
          fun none => absurd none (List.cons_ne_nil _ _), fun next => ?_⟩
        · rw [pieces_cons here, split]
          rfl
        · rw [List.cons_append, pieces_cons here, behind]
          rfl

/-- A cut parts the pieces. -/
theorem pieces_append_cut {cut : Char → Bool} {c : Char} (h : cut c = true)
    (text next : List Char) :
    pieces cut (text ++ c :: next) = pieces cut text ++ pieces cut next := by
  obtain ⟨front, last, split, -, -, behind⟩ := exists_pieces_append cut text
  rw [behind, split, pieces, if_pos h]
  simp

/-- Parts that do not hold the separator are the pieces of what is joined from them. -/
theorem pieces_join {separator : String} {c : Char} (single : separator.toList = [c])
    {parts : List String} (present : parts ≠ []) (absent : ∀ part ∈ parts, c ∉ part.toList) :
    pieces (· == c) (join separator parts).toList = parts.map String.toList := by
  have whole (part : String) (member : part ∈ parts) :
      pieces (· == c) part.toList = [part.toList] := by
    refine pieces_eq_singleton fun x inside => ?_
    rw [beq_eq_false_iff_ne]
    rintro rfl
    exact absent part member inside
  induction parts using join.induct with
  | case1 => exact absurd rfl present
  | case2 part => exact whole part (by simp)
  | case3 part next rest ih =>
    have later := ih (by simp) (fun other member => absent other (by simp [List.mem_cons.mp member]))
      fun other member => whole other (by simp [List.mem_cons.mp member])
    have letters : (join separator (part :: next :: rest)).toList =
        part.toList ++ c :: (join separator (next :: rest)).toList := by
      simp [join, single]
    rw [letters, pieces_append_cut (by simp), whole part (by simp), later]
    rfl

/-- The pieces of a text with the separator between them make up the text again. -/
theorem join_pieces {separator : String} {c : Char} (single : separator.toList = [c])
    (text : List Char) :
    (join separator ((pieces (· == c) text).map String.ofList)).toList = text := by
  induction text with
  | nil => rfl
  | cons first rest ih =>
    obtain ⟨piece, others, split⟩ := List.exists_cons_of_ne_nil (pieces_ne_nil (· == c) rest)
    rw [split] at ih
    by_cases same : first = c
    · rw [pieces, if_pos (by simpa using same), split, same]
      simpa [join, single] using ih
    · rw [pieces_cons (by simpa using same), split]
      cases others with
      | nil => simpa [join] using ih
      | cons next more => simpa [join] using ih

theorem mem_replaceFrom {pattern by' text : List Char} {skip : Nat} {c : Char}
    (h : c ∈ replaceFrom pattern by' skip text) : c ∈ by' ∨ c ∈ text := by
  induction text generalizing skip with
  | nil => simp [replaceFrom] at h
  | cons first rest ih =>
    unfold replaceFrom at h
    split at h
    · exact (ih h).imp_right (List.mem_cons_of_mem _)
    · split at h
      · rcases List.mem_append.mp h with new | later
        · exact Or.inl new
        · exact (ih later).imp_right (List.mem_cons_of_mem _)
      · rcases List.mem_cons.mp h with rfl | later
        · exact Or.inr (by simp)
        · exact (ih later).imp_right (List.mem_cons_of_mem _)

/-- A replacement brings in no characters but those of the new text. -/
theorem mem_replaceAll {pattern by' text : List Char} {c : Char}
    (h : c ∈ replaceAll pattern by' text) : c ∈ by' ∨ c ∈ text := by
  unfold replaceAll at h
  split at h
  · exact Or.inr h
  · exact mem_replaceFrom h

/-- A text without the character is left as it is. -/
theorem replaceAll_of_not_mem {c : Char} {by' text : List Char} (h : c ∉ text) :
    replaceAll [c] by' text = text := by
  have skipped : replaceFrom [c] by' 0 text = text := by
    induction text with
    | nil => rfl
    | cons first rest ih =>
      rw [List.mem_cons, not_or] at h
      obtain ⟨other, later⟩ := h
      simp [replaceFrom, other, ih later]
  exact skipped

end Text

namespace Identifier

theorem isTail_or_dot_of_isQualifiedTail {text : List Char} (h : isQualifiedTail text = true)
    {c : Char} (member : c ∈ text) : isTail c = true ∨ c = '.' := by
  induction text with
  | nil => cases member
  | cons first rest ih =>
    unfold isQualifiedTail at h
    split at h
    · rename_i dot
      cases rest with
      | nil => cases h
      | cons second more =>
        rw [isName, Bool.and_eq_true, List.all_eq_true] at h
        rcases List.mem_cons.mp member with rfl | later
        · exact Or.inr dot
        · rcases List.mem_cons.mp later with rfl | last
          · exact Or.inl (isTail_of_isHead h.1)
          · exact Or.inl (h.2 c last)
    · rw [Bool.and_eq_true] at h
      rcases List.mem_cons.mp member with rfl | later
      · exact Or.inl h.1
      · exact ih h.2 later

theorem isTail_or_dot_of_isQualified {text : List Char} (h : isQualified text = true) {c : Char}
    (member : c ∈ text) : isTail c = true ∨ c = '.' := by
  cases text with
  | nil => cases member
  | cons first rest =>
    rw [isQualified, Bool.and_eq_true] at h
    rcases List.mem_cons.mp member with rfl | later
    · exact Or.inl (isTail_of_isHead h.1)
    · exact isTail_or_dot_of_isQualifiedTail h.2 later

theorem isName_tail {text : List Char} (h : isName text = true) {c : Char} (member : c ∈ text) :
    isTail c = true := by
  cases text with
  | nil => cases member
  | cons first rest =>
    rw [isName, Bool.and_eq_true, List.all_eq_true] at h
    rcases List.mem_cons.mp member with rfl | later
    · exact isTail_of_isHead h.1
    · exact h.2 c later

theorem pieces_of_isName {text : List Char} (h : isName text = true) :
    pieces (· == '.') text = [text] := by
  apply pieces_eq_singleton
  intro c member
  exact beq_false_of_ne (ne_dot_of_isTail (isName_tail h member))

/-- The first piece continues the name that the text continues; the others are names. -/
theorem pieces_of_isQualifiedTail {text : List Char} (h : isQualifiedTail text = true) :
    ∃ first others, pieces (· == '.') text = first :: others ∧ first.all isTail = true ∧
      ∀ segment ∈ others, isName segment = true := by
  induction text with
  | nil => exact ⟨[], [], rfl, rfl, by simp⟩
  | cons c rest ih =>
    rw [isQualifiedTail] at h
    split at h
    · rename_i dot
      refine ⟨[], [rest], ?_, rfl, by simpa using h⟩
      rw [pieces, if_pos (by simp [dot]), pieces_of_isName h]
    · rename_i other
      rw [Bool.and_eq_true] at h
      obtain ⟨first, others, split, letters, names⟩ := ih h.2
      refine ⟨c :: first, others, ?_, ?_, names⟩
      · rw [pieces, if_neg (by simpa using other), split]
      · rw [List.all_cons, h.1, letters, Bool.and_self]

/-- Between the dots of a qualified name stand names. -/
theorem isName_of_mem_pieces {text segment : List Char} (h : isQualified text = true)
    (member : segment ∈ pieces (· == '.') text) : isName segment = true := by
  cases text with
  | nil => cases h
  | cons c rest =>
    rw [isQualified, Bool.and_eq_true] at h
    obtain ⟨first, others, split, letters, names⟩ := pieces_of_isQualifiedTail h.2
    have other : c ≠ '.' := ne_dot_of_isTail (isTail_of_isHead h.1)
    rw [pieces, if_neg (by simpa using other), split] at member
    rcases List.mem_cons.mp member with rfl | later
    · rw [isName, h.1, letters, Bool.and_self]
    · exact names segment later

end Identifier

end Sqlwright
