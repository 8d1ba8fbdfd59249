import Sqlwright.Text.Utf8

/-!
A text survives its octets: reading the UTF-8 of a text gives the text, whatever becomes of faults,
because there are none. Main statement: `Utf8.decodeReplacing_encode`.
-/

namespace Sqlwright.Text.Utf8

/-- A code point between 0x800 and 0xffff is no surrogate, which bounds the second octet. -/
theorem ofLead?_three {n : Nat} (least : 0x800 ≤ n) (most : n < 0x10000)
    (valid : n < 0xd800 ∨ 0xdfff < n) :
    ∃ low high, Pending.ofLead? (0xe0 + n / 4096) = some ⟨2, low, high, n / 4096⟩ ∧
      low ≤ 0x80 + n / 64 % 64 ∧ 0x80 + n / 64 % 64 ≤ high := by
  unfold Pending.ofLead?
  by_cases first : n / 4096 = 0
  · exact ⟨0xa0, 0xbf, by rw [first]; rfl, by omega, by omega⟩
  · by_cases surrogates : n / 4096 = 13
    · exact ⟨0x80, 0x9f, by rw [surrogates]; rfl, by omega, by omega⟩
    · refine ⟨0x80, 0xbf, ?_, by omega, by omega⟩
      have single : ¬ (0xe0 + n / 4096 ≤ 0xdf) := by omega
      have inside : 0xe1 ≤ 0xe0 + n / 4096 ∧ 0xe0 + n / 4096 ≤ 0xef := by omega
      simp [single, first, inside.1, inside.2, show 0xe0 + n / 4096 ≠ 0xed by omega]

theorem ofLead?_four {n : Nat} (least : 0x10000 ≤ n) (most : n < 0x110000) :
    ∃ low high, Pending.ofLead? (0xf0 + n / 262144) = some ⟨3, low, high, n / 262144⟩ ∧
      low ≤ 0x80 + n / 4096 % 64 ∧ 0x80 + n / 4096 % 64 ≤ high := by
  have lead : n / 262144 ≤ 4 := by omega
  unfold Pending.ofLead?
  by_cases first : n / 262144 = 0
  · exact ⟨0x90, 0xbf, by rw [first]; rfl, by omega, by omega⟩
  · by_cases last : n / 262144 = 4
    · exact ⟨0x80, 0x8f, by rw [last]; rfl, by omega, by omega⟩
    · refine ⟨0x80, 0xbf, ?_, by omega, by omega⟩
      rcases (by omega : n / 262144 = 1 ∨ n / 262144 = 2 ∨ n / 262144 = 3) with one | two | three
      · rw [one]; rfl
      · rw [two]; rfl
      · rw [three]; rfl

section Reading

variable {owed low high code octet : Nat} {rest : List UInt8}

/-- A continuation octet after which more are owed. -/
theorem readFrom_more (least : low ≤ octet) (most : octet ≤ high) (fits : octet < 256) :
    readFrom (some ⟨owed + 2, low, high, code⟩) (octet.toUInt8 :: rest) =
      readFrom (some ⟨owed + 1, 0x80, 0xbf, code * 64 + (octet - 0x80)⟩) rest := by
  have same : octet.toUInt8.toNat = octet := UInt8.toNat_ofNat_of_lt' fits
  simp [readFrom, Pending.push?, same, least, most]

/-- The last continuation octet. -/
theorem readFrom_last (least : low ≤ octet) (most : octet ≤ high) (fits : octet < 256) :
    readFrom (some ⟨1, low, high, code⟩) (octet.toUInt8 :: rest) =
      some (Char.ofNat (code * 64 + (octet - 0x80))) :: readFrom none rest := by
  have same : octet.toUInt8.toNat = octet := UInt8.toNat_ofNat_of_lt' fits
  simp [readFrom, Pending.push?, same, least, most]

theorem readFrom_lead {pending : Pending} (high : 0x80 ≤ octet) (fits : octet < 256)
    (found : Pending.ofLead? octet = some pending) :
    readFrom none (octet.toUInt8 :: rest) = readFrom (some pending) rest := by
  have same : octet.toUInt8.toNat = octet := UInt8.toNat_ofNat_of_lt' fits
  have several : ¬ octet < 0x80 := by omega
  simp [readFrom, lead, same, several, found]

variable {n : Nat}

theorem readFrom_one (most : n < 0x80) :
    readFrom none (n.toUInt8 :: rest) = some (Char.ofNat n) :: readFrom none rest := by
  have fits : n < 256 := by omega
  have same : n.toUInt8.toNat = n := UInt8.toNat_ofNat_of_lt' fits
  simp [readFrom, lead, same, most]

theorem readFrom_two (least : 0x80 ≤ n) (most : n < 0x800) :
    readFrom none ((0xc0 + n / 64).toUInt8 :: (0x80 + n % 64).toUInt8 :: rest) =
      some (Char.ofNat n) :: readFrom none rest := by
  have found : Pending.ofLead? (0xc0 + n / 64) = some ⟨1, 0x80, 0xbf, n / 64⟩ := by
    unfold Pending.ofLead?
    rw [if_pos (by simp; omega)]
    simp
  have code : n / 64 * 64 + (0x80 + n % 64 - 0x80) = n := by omega
  rw [readFrom_lead (by omega) (by omega) found, readFrom_last (by omega) (by omega) (by omega),
    code]

theorem readFrom_three (least : 0x800 ≤ n) (most : n < 0x10000) (valid : n < 0xd800 ∨ 0xdfff < n) :
    readFrom none ((0xe0 + n / 4096).toUInt8 :: (0x80 + n / 64 % 64).toUInt8 ::
      (0x80 + n % 64).toUInt8 :: rest) = some (Char.ofNat n) :: readFrom none rest := by
  obtain ⟨low, high, found, above, below⟩ := ofLead?_three least most valid
  have code : (n / 4096 * 64 + (0x80 + n / 64 % 64 - 0x80)) * 64 + (0x80 + n % 64 - 0x80) = n := by
    omega
  rw [readFrom_lead (by omega) (by omega) found, readFrom_more above below (by omega),
    readFrom_last (by omega) (by omega) (by omega), code]

theorem readFrom_four (least : 0x10000 ≤ n) (most : n < 0x110000) :
    readFrom none ((0xf0 + n / 262144).toUInt8 :: (0x80 + n / 4096 % 64).toUInt8 ::
      (0x80 + n / 64 % 64).toUInt8 :: (0x80 + n % 64).toUInt8 :: rest) =
      some (Char.ofNat n) :: readFrom none rest := by
  obtain ⟨low, high, found, above, below⟩ := ofLead?_four least most
  have code : ((n / 262144 * 64 + (0x80 + n / 4096 % 64 - 0x80)) * 64 +
      (0x80 + n / 64 % 64 - 0x80)) * 64 + (0x80 + n % 64 - 0x80) = n := by omega
  rw [readFrom_lead (by omega) (by omega) found, readFrom_more above below (by omega),
    readFrom_more (by omega) (by omega) (by omega), readFrom_last (by omega) (by omega) (by omega),
    code]

end Reading

/-- The octets of a character are read as the character. -/
theorem readFrom_encodeChar (c : Char) (rest : List UInt8) :
    readFrom none (encodeChar c ++ rest) = some c :: readFrom none rest := by
  have valid : c.toNat < 0xd800 ∨ 0xdfff < c.toNat ∧ c.toNat < 0x110000 := c.valid
  suffices read : readFrom none (encodeChar c ++ rest) =
      some (Char.ofNat c.toNat) :: readFrom none rest by
    rwa [Char.ofNat_toNat] at read
  unfold encodeChar
  dsimp only
  by_cases one : c.toNat < 0x80
  · rw [if_pos one]
    exact readFrom_one one
  · by_cases two : c.toNat < 0x800
    · rw [if_neg one, if_pos two]
      exact readFrom_two (by omega) two
    · by_cases three : c.toNat < 0x10000
      · rw [if_neg one, if_neg two, if_pos three]
        exact readFrom_three (by omega) three (by omega)
      · rw [if_neg one, if_neg two, if_neg three]
        exact readFrom_four (by omega) (by omega)

/-- Every text is read back from its octets. -/
theorem readFrom_encode (text : List Char) : readFrom none (encode text) = text.map some := by
  induction text with
  | nil => rfl
  | cons c rest ih =>
    rw [encode, List.flatMap_cons, readFrom_encodeChar, List.map_cons]
    exact congrArg _ ih

theorem decodeReplacing_encode (text : List Char) : decodeReplacing (encode text) = text := by
  rw [decodeReplacing, readFrom_encode, List.map_map]
  exact List.map_id text

/-- Where octets are, something is read, if only a fault. -/
theorem readFrom_pending_ne_nil (pending : Pending) (octets : List UInt8) :
    readFrom (some pending) octets ≠ [] := by
  induction octets generalizing pending with
  | nil => simp [readFrom]
  | cons octet rest ih =>
    unfold readFrom
    split
    · split
      · simp
      · exact ih _
    · simp

/-- Octets never decode to nothing: what is no character is replaced by a sign for it. -/
theorem decodeReplacing_ne_nil {octets : List UInt8} (h : octets ≠ []) :
    decodeReplacing octets ≠ [] := by
  rw [decodeReplacing, Ne, List.map_eq_nil_iff]
  cases octets with
  | nil => exact absurd rfl h
  | cons octet rest =>
    unfold readFrom
    by_cases one : octet.toNat < 0x80
    · simp [lead, one]
    · cases found : Pending.ofLead? octet.toNat with
      | some pending => simpa [lead, one, found] using readFrom_pending_ne_nil pending rest
      | none => simp [lead, one, found]

end Sqlwright.Text.Utf8
