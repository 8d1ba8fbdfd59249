/-!
Decimal digits of every script. Each script's ten digits follow one another, so its zero tells
them all.
-/

namespace Sqlwright.Text

def digitZeros : List Nat :=
  [
    0x30, 0x660, 0x6f0, 0x7c0, 0x966, 0x9e6, 0xa66, 0xae6, 0xb66, 0xbe6, 0xc66, 0xce6, 0xd66,
    0xde6, 0xe50, 0xed0, 0xf20, 0x1040, 0x1090, 0x17e0, 0x1810, 0x1946, 0x19d0, 0x1a80, 0x1a90,
    0x1b50, 0x1bb0, 0x1c40, 0x1c50, 0xa620, 0xa8d0, 0xa900, 0xa9d0, 0xa9f0, 0xaa50, 0xabf0,
    0xff10, 0x104a0, 0x10d30, 0x11066, 0x110f0, 0x11136, 0x111d0, 0x112f0, 0x11450, 0x114d0,
    0x11650, 0x116c0, 0x11730, 0x118e0, 0x11950, 0x11c50, 0x11d50, 0x11da0, 0x16a60, 0x16ac0,
    0x16b50, 0x1d7ce, 0x1d7d8, 0x1d7e2, 0x1d7ec, 0x1d7f6, 0x1e140, 0x1e2f0, 0x1e950, 0x1fbf0]

/-- The value of a decimal digit of any script. -/
def digitValue? (c : Char) : Option Nat :=
  match digitZeros.find? fun nought => nought ≤ c.toNat && c.toNat < nought + 10 with
  | some nought => some (c.toNat - nought)
  | none => none

def isDecimalDigit (c : Char) : Bool := (digitValue? c).isSome

/-- Where the digits of ASCII stand. -/
theorem toNat_of_isDigit {c : Char} (h : c.isDigit = true) : 48 ≤ c.toNat ∧ c.toNat ≤ 57 := by
  simp only [Char.isDigit, Bool.and_eq_true, decide_eq_true_eq] at h
  exact ⟨UInt32.le_iff_toNat_le.mp h.1, UInt32.le_iff_toNat_le.mp h.2⟩

theorem isDecimalDigit_of_isDigit {c : Char} (h : c.isDigit = true) : isDecimalDigit c = true := by
  have range := toNat_of_isDigit h
  have here : 0x30 ∈ digitZeros := .head _
  unfold isDecimalDigit digitValue?
  split
  · rfl
  · rename_i none
    have apart := List.find?_eq_none.mp none 0x30 here
    simp only [Bool.and_eq_true, decide_eq_true_eq] at apart
    omega

/-- A digit of any script has a value below ten. -/
theorem digitValue?_lt {c : Char} {n : Nat} (h : digitValue? c = some n) : n < 10 := by
  unfold digitValue? at h
  split at h
  · rename_i nought found
    have inside := List.find?_some found
    simp only [Bool.and_eq_true, decide_eq_true_eq] at inside
    simp only [Option.some.injEq] at h
    omega
  · simp at h

end Sqlwright.Text
