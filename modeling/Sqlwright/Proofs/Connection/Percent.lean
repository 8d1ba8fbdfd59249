import Sqlwright.Connection.Percent
import Sqlwright.Proofs.Text.Utf8

/-!
A parameter reads back as the text that was written: no character is lost between percent signs, and
what is written holds no mark that parts parameters. Main statements: `Percent.decode_encode` and
`Percent.isWritten_of_mem`.
-/

namespace Sqlwright.Percent

open Text

/-- Every digit has its value, and none is written as another mark. -/
theorem digit?_hexDigit : ∀ n < 16, digit? (hexDigit n) = some n ∧ isPlain (hexDigit n) = true := by
  decide

/-- The characters that a written parameter consists of. -/
def isWritten (c : Char) : Bool := isPlain c || c = '+' || c = '%'

theorem isWritten_of_isPlain {c : Char} (plain : isPlain c = true) : isWritten c = true := by
  simp [isWritten, plain]

theorem isPlain_hexDigit (octet : UInt8) :
    isPlain (hexDigit (octet.toNat / 16)) = true ∧ isPlain (hexDigit (octet.toNat % 16)) = true := by
  have size := octet.toNat_lt
  exact ⟨(digit?_hexDigit _ (by omega)).2, (digit?_hexDigit _ (by omega)).2⟩

theorem isWritten_of_mem_escapeOctet {octet : UInt8} {c : Char} (h : c ∈ escapeOctet octet) :
    isWritten c = true := by
  obtain ⟨high, low⟩ := isPlain_hexDigit octet
  simp only [escapeOctet, List.mem_cons, List.not_mem_nil, or_false] at h
  rcases h with rfl | rfl | rfl
  · rfl
  · exact isWritten_of_isPlain high
  · exact isWritten_of_isPlain low

theorem isWritten_of_mem {text : String} {c : Char} (h : c ∈ (encode text).toList) :
    isWritten c = true := by
  rw [encode, String.toList_ofList, List.mem_flatMap] at h
  obtain ⟨source, -, written⟩ := h
  unfold encodeChar at written
  split at written
  · rw [List.mem_singleton.mp written]
    rfl
  · split at written
    · rename_i plain
      rw [List.mem_singleton.mp written]
      exact isWritten_of_isPlain plain
    · obtain ⟨octet, -, inside⟩ := List.mem_flatMap.mp written
      exact isWritten_of_mem_escapeOctet inside

/-- No separator of an address is written for a text. -/
theorem not_mem_encode {mark : Char} (foreign : isWritten mark = false) (text : String) :
    mark ∉ (encode text).toList := by
  intro member
  rw [isWritten_of_mem member] at foreign
  cases foreign

theorem octets_cons {c : Char} (other : c ≠ '%') (rest : List Char) :
    octets (c :: rest) = Utf8.encodeChar c ++ octets rest := by
  rw [octets]
  rintro high low more rfl
  exact absurd rfl other

theorem octets_escapeOctet (octet : UInt8) (rest : List Char) :
    octets (escapeOctet octet ++ rest) = octet :: octets rest := by
  have size := octet.toNat_lt
  have high := (digit?_hexDigit (octet.toNat / 16) (by omega)).1
  have low := (digit?_hexDigit (octet.toNat % 16) (by omega)).1
  have whole : octet.toNat / 16 * 16 + octet.toNat % 16 = octet.toNat := by omega
  simp [escapeOctet, octets, high, low, whole]

theorem octets_flatMap_escapeOctet (written : List UInt8) (rest : List Char) :
    octets (written.flatMap escapeOctet ++ rest) = written ++ octets rest := by
  induction written with
  | nil => rfl
  | cons octet later ih =>
    rw [List.flatMap_cons, List.append_assoc, octets_escapeOctet, ih]
    rfl

theorem substitute_append (a b : List Char) :
    substitute '+' [' '] (a ++ b) = substitute '+' [' '] a ++ substitute '+' [' '] b :=
  List.flatMap_append

/-- A written octet holds no plus sign. -/
theorem substitute_flatMap_escapeOctet (written : List UInt8) :
    substitute '+' [' '] (written.flatMap escapeOctet) = written.flatMap escapeOctet := by
  have other {c : Char} (plain : isPlain c = true) : c ≠ '+' := by
    rintro rfl
    exact absurd plain (by decide)
  induction written with
  | nil => rfl
  | cons octet later ih =>
    obtain ⟨high, low⟩ := isPlain_hexDigit octet
    rw [List.flatMap_cons, substitute_append, ih]
    simp [substitute, escapeOctet, other high, other low]

/-- What is written for a character reads as the octets of the character. -/
theorem octets_encodeChar (c : Char) (rest : List Char) :
    octets (substitute '+' [' '] (encodeChar c) ++ rest) = Utf8.encodeChar c ++ octets rest := by
  unfold encodeChar
  split
  · rename_i space
    rw [space]
    exact octets_cons (by decide) rest
  · split
    · rename_i plain
      have sum : c ≠ '+' := by
        rintro rfl
        exact absurd plain (by decide)
      have percent : c ≠ '%' := by
        rintro rfl
        exact absurd plain (by decide)
      simpa [substitute, sum] using octets_cons percent rest
    · rw [substitute_flatMap_escapeOctet, octets_flatMap_escapeOctet]

/-- The octets that are read are those of the text, also where a plus stands for a blank. -/
theorem octets_encode (text : List Char) :
    octets (substitute '+' [' '] (text.flatMap encodeChar)) = Utf8.encode text := by
  induction text with
  | nil => rfl
  | cons c rest ih =>
    rw [List.flatMap_cons, substitute_append, octets_encodeChar, ih]
    rfl

/-- A text in an address is read back, whatever its characters are. -/
theorem decode_encode (text : String) : decode (encode text).toList = text.toList := by
  rw [encode, String.toList_ofList, decode, octets_encode, Utf8.decodeReplacing_encode]

theorem encode_ne_empty {text : String} (present : text ≠ "") : encode text ≠ "" := by
  intro empty
  have back := decode_encode text
  rw [empty] at back
  exact present (String.toList_eq_nil_iff.mp back.symm)

theorem octets_ne_nil (c : Char) (rest : List Char) : octets (c :: rest) ≠ [] := by
  have present (c : Char) : Utf8.encodeChar c ≠ [] := by
    unfold Utf8.encodeChar
    dsimp only
    repeat' split
    all_goals exact List.cons_ne_nil _ _
  unfold octets
  split
  · split
    · exact List.cons_ne_nil _ _
    · exact List.append_ne_nil_of_left_ne_nil (present _) _
  · rename_i same
    cases same
    exact List.append_ne_nil_of_left_ne_nil (present _) _
  · rename_i same
    cases same

/-- A text that is there reads as one that is there. -/
theorem decode_ne_nil {text : List Char} (present : text ≠ []) : decode text ≠ [] := by
  refine Utf8.decodeReplacing_ne_nil ?_
  cases text with
  | nil => exact absurd rfl present
  | cons c rest =>
    rw [substitute, List.flatMap_cons]
    split
    · exact octets_ne_nil _ _
    · exact octets_ne_nil _ _

end Sqlwright.Percent
